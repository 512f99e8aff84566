import SchemaAlgebra.Proofs.Builder.Closing
import SchemaAlgebra.Proofs.Builder.Offering

/-!
The algebra of schemas as one of ordered maps. An edit that succeeds does to the list of declared properties what it says
of it, and nothing else of the schema or of the store matters for that. Making all schemas below optional is no such edit:
it changes what the properties hold.
-/

namespace SchemaAlgebra

open Property

/-- What an edit does to the properties that a schema declares, with the schemas of the builders that it is given as they
are in a store. -/
inductive Edit.Acts (store : Store) (address : Nat) (fields : List (Key × Json)) : Edit → List Property → Prop
  | setOptional {names : Operand} {texts : List String} : names.Lists texts → Acts store address fields (.setOptional names)
      ((declared fields).map fun property => { property with required := decide (property.name ∉ texts) })
  | setRequired {names : Operand} {texts : List String} : names.Lists texts → Acts store address fields (.setRequired names)
      ((declared fields).map fun property =>
        { property with required := property.required || decide (property.name ∈ texts) })
  | toOptionals : Acts store address fields .toOptionals ((declared fields).map fun property => { property with required := false })
  | add {isRequired : Bool} {name : String} {root : Nat} {value : Json} : store.tree? (.node root) = some value →
      Acts store address fields (.add isRequired (.string name) (.builder root)) (declared fields ++ [⟨name, value, isRequired⟩])
  | addMade {isRequired : Bool} {name : String} {factory : Factory} {root : Nat} {made : Store} {value : Json} :
      outcome factory.run store = (.ok root, made) → made.tree? (.node root) = some value →
        Acts store address fields (.addMade isRequired (.string name) factory) (declared fields ++ [⟨name, value, isRequired⟩])
  | addAdditional {schema : Operand} : (∀ root, schema = .builder root → ∃ value, store.tree? (.node root) = some value) →
      Acts store address fields (.addAdditional schema) (declared fields)
  | rename {isRequired : Bool} {name new : String} : Acts store address fields (.rename isRequired (.string name) (.string new))
      ((declared fields).map fun property =>
        if property.name = name then ⟨new, property.schema, isRequired⟩ else property)
  | pick {names : Operand} {texts : List String} : names.Lists texts →
      Acts store address fields (.pick names) (Property.pick (declared fields) texts)
  | pickAlone {names additional : Operand} {texts : List String} : names.Lists texts → additional.isNull = true →
      Acts store address fields (.pickAdditional names additional) (Property.pick (declared fields) texts)
  | pickAdditional {names additional : Operand} {texts extra : List String} : names.Lists texts → additional.Lists extra →
      Acts store address fields (.pickAdditional names additional)
        (Property.pick (declared fields) texts ++ extra.map fun name => ⟨name, alike fields, true⟩)
  | omit {names : Operand} {texts : List String} : names.Lists texts →
      Acts store address fields (.omit names) ((declared fields).filter fun property => property.name ∉ texts)
  -- The alternative is copied anew for each name: it has to be one that putting it under a name does not change.
  | transform {root : Nat} {names : Operand} {texts : List String} {value : Json} :
      store.tree? (.node root) = some value → store.Apart (store.Own address) (.node root) → names.Lists texts →
        Acts store address fields (.transform (.builder root) names) (texts.foldl (remake (orElse value)) (declared fields))
  | transformToArray {names : Operand} {texts : List String} :
      names.isNull = true ∧ texts = (declared fields).map name ∨ names.Lists texts →
        Acts store address fields (.transformToArray names)
          (texts.foldl (remake fun schema => orElse (listsOf schema) schema) (declared fields))
  | merge {root : Nat} {theirs : List (Key × Json)} : store.tree? (.node root) = some (.object theirs) → Tidy theirs →
      Acts store address fields (.merge (.builder root))
        ((declared theirs).foldl (Property.take Property.either) (declared fields))
  | overwrite {root : Nat} {theirs : List (Key × Json)} : store.tree? (.node root) = some (.object theirs) → Tidy theirs →
      Acts store address fields (.overwrite (.builder root))
        ((declared theirs).foldl (Property.take fun _ other => other) (declared fields))

/-- The schema that an edit puts into one leads back to this, or to the properties to which it is added. -/
def Edit.Entangles (store : Store) (address : Nat) : Edit → Prop
  | .add _ _ (.builder root) => ¬ store.Apart (store.Own address) (.node root)
  | .addMade _ _ factory => ∃ root made, outcome factory.run store = (.ok root, made) ∧
      ¬ made.Apart (made.Own address) (.node root)
  | .addAdditional (.builder root) => ¬ store.Apart (· = address) (.node root)
  | _ => False

namespace Builder

variable {store later : Store} {address root : Nat} {members : Fields String Slot} {names : List String}
  {values : Fields String Json} {value : Json} {isRequired : Bool} {name : String}

theorem add_cases (presents : store.Presents address members names values) (requires : Property.Requires values names)
    (inside : root < store.size) (read : store.tree? (.node root) = some value)
    (ran : outcome (addProperty address isRequired (.string name) (.builder root)) store = (.ok (), later)) :
    later.Represents address (Property.flagged values names ++ [⟨name, value, isRequired⟩]) ∨
      ¬ store.Apart (store.Own address) (.node root) ∧ later.tree? (.node address) = none ∧
        later.Enumerates address ((Property.flagged values names ++ [Property.mk name value isRequired]).map Property.flag) := by
  by_cases apart : store.Apart (store.Own address) (.node root)
  · have within := Slot.within_node.mpr inside
    have denotes := (presents.closed.tree?_eq_some_iff within).mp read
    obtain ⟨members', names', values', presents', -, flags, -⟩ := add_represents presents requires ⟨within, apart, denotes⟩ ran
    exact .inl ⟨_, _, _, presents', flags⟩
  · exact .inr ⟨apart, add_endless presents apart ran, add_enumerates presents requires value ran⟩

end Builder

/-- A successful edit of a finite, tidy schema acts on the properties that this declares as the edit says. Only a schema
that leads back to where it is put leaves one that has no end; its names and flags are as the edit says then too. -/
theorem Edit.acts_on_declared {store later : Store} {address : Nat} {edit : Edit} {fields : List (Key × Json)}
    {expected : List Property} (closed : store.Closed) (inside : address < store.size)
    (known : ∀ operand ∈ edit.schemas, Builder.Known store.size operand)
    (read : store.tree? (.node address) = some (.object fields)) (tidy : Tidy fields)
    (acts : edit.Acts store address fields expected) (ran : outcome (edit.run address) store = (.ok (), later)) :
    (∃ revised, later.tree? (.node address) = some (.object revised) ∧ declared revised = expected) ∨
      edit.Entangles store address ∧ later.tree? (.node address) = none ∧ later.Enumerates address (expected.map flag) := by
  obtain ⟨members, names, values, presents, requires, same⟩ := Store.presents_of_tidy closed inside read tidy
  have represents (done : later.Represents address expected) :
      ∃ revised, later.tree? (.node address) = some (.object revised) ∧ declared revised = expected := by
    obtain ⟨members', names', values', presents', same'⟩ := done
    obtain ⟨revised, read', declares⟩ := presents'.read
    exact ⟨revised, read', declares.trans same'⟩
  cases acts with
  | setOptional given => exact .inl (represents (same ▸ Builder.setOptional_represents presents given ran))
  | setRequired given => exact .inl (represents (same ▸ Builder.setRequired_represents presents given ran))
  | toOptionals =>
      obtain rfl : store.replace address (Fields.erase (store.cell address) "required") = later := congrArg Prod.snd ran
      exact .inl (represents (same ▸ Builder.toOptionals_represents presents))
  | @add isRequired name root value tree =>
      have inside' := known (.builder root) (by simp [schemas]) root rfl
      have added := Builder.add_cases presents requires inside' tree ran
      rw [← same] at added
      exact added.imp_left represents
  | @addMade isRequired name factory root made value makes tree =>
      have grown : store.Extends made := by
        have grown := Builder.adds_factory factory store
        rwa [makes] at grown
      obtain ⟨closed', inside'⟩ : made.Closed ∧ root < made.size := by
        obtain ⟨closed', -, fit⟩ := Builder.stays_factory known store closed (Nat.le_refl _)
        rw [makes] at closed' fit
        exact ⟨closed', fit root rfl⟩
      have adds : outcome (Builder.addProperty address isRequired (.string name) (.builder root)) made = (.ok (), later) :=
        (outcome_bind_ok makes).symm.trans ran
      have added := Builder.add_cases (presents.extend closed' grown) requires inside' tree adds
      rw [← same] at added
      exact added.imp represents fun ⟨entangled, endless⟩ => ⟨⟨root, made, makes, entangled⟩, endless⟩
  | @addAdditional schema finite =>
      have denotes := (closed.tree?_eq_some_iff (Slot.within_node.mpr inside)).mp read
      have given (root : Nat) (builder : schema = .builder root) : store.Finite (.node root) := by
        obtain ⟨value, tree⟩ := finite root builder
        exact ⟨value, _, tree⟩
      have adds : outcome (Builder.addAdditional address schema) store = (.ok (), later) := ran
      have known' := known schema (by simp [schemas])
      obtain ⟨closed', grows, -⟩ := Builder.stays_addAdditional address known' store closed (Nat.le_refl _)
      rw [adds] at closed' grows
      have within := Slot.within_node.mpr (Nat.lt_of_lt_of_le inside grows)
      rw [same]
      rcases Builder.addAdditional_cases presents denotes given adds with ⟨revised, denotes', declares⟩ | ⟨entangled, endless⟩
      · exact .inl ⟨revised, (closed'.tree?_eq_some_iff within).mpr denotes', declares.trans same⟩
      · obtain ⟨root, rfl, entangled⟩ := entangled
        exact .inr ⟨entangled, endless⟩
  | rename => exact .inl (represents (same ▸ Builder.rename_represents presents requires ran))
  | pick given => exact .inl (represents (same ▸ Builder.pick_represents presents given ran))
  | pickAlone given null =>
      have done := Builder.pickAdditional_represents presents requires read given (.inl ⟨null, rfl⟩) ran
      rw [List.map_nil, List.append_nil, ← same] at done
      exact .inl (represents done)
  | pickAdditional given more =>
      exact .inl (represents (same ▸ Builder.pickAdditional_represents presents requires read given (.inr more) ran))
  | «omit» given => exact .inl (represents (same ▸ Builder.omit_represents presents given ran))
  | @transform root names texts value tree apart given =>
      have within := Slot.within_node.mpr (known (.builder root) (by simp [schemas]) root rfl)
      have supplies : store.Supplies address (.node root) value :=
        ⟨within, apart, (closed.tree?_eq_some_iff within).mp tree⟩
      exact .inl (represents (same ▸ Builder.transform_represents presents requires supplies given ran))
  | transformToArray given =>
      rw [same] at given
      exact .inl (represents (same ▸ Builder.transformToArray_represents presents requires given ran))
  | @merge root theirs tree tidy' =>
      have inside' := known (.builder root) (by simp [schemas]) root rfl
      obtain ⟨_, _, _, presents', -, same'⟩ := Store.presents_of_tidy closed inside' tree tidy'
      exact .inl (represents (same ▸ same' ▸ Builder.merge_represents presents requires presents' ran))
  | @overwrite root theirs tree tidy' =>
      have inside' := known (.builder root) (by simp [schemas]) root rfl
      obtain ⟨_, _, _, presents', -, same'⟩ := Store.presents_of_tidy closed inside' tree tidy'
      exact .inl (represents (same ▸ same' ▸ Builder.overwrite_represents presents requires presents' ran))

/-- A document with an optional and a required property. -/
def sampleDocument : Json :=
  .object [("type", .string "object"),
    ("properties", .object [("a", .object []), ("b", .object [("type", .string "string")])]),
    ("required", .array [.string "b"]), ("additionalProperties", .bool false)]

theorem Property.tidy_sampleDocument : ∃ fields, sampleDocument = .object fields ∧ Tidy fields := by
  refine ⟨_, rfl, ⟨by decide, ?_, ?_⟩⟩
  · rintro members ⟨⟩
    refine ⟨by decide, fun key listed => ?_⟩
    simp [Fields.keys] at listed
    rcases listed with rfl | rfl
    · exact ⟨"a", rfl⟩
    · exact ⟨"b", rfl⟩
  · rintro value ⟨⟩
    refine ⟨["b"], rfl, by decide, fun name listed => ⟨_, rfl, ?_⟩⟩
    obtain rfl := List.mem_singleton.mp listed
    rfl

/-- Merging a schema with itself leaves choices between two of the same, all required. -/
theorem sampleDocument_merged_with_itself :
    ∃ (later : Store) (revised : List (Key × Json)),
      outcome (Edit.run 3 (.merge (.builder 3))) (sampleDocument.place .empty).2 = (.ok (), later) ∧
        later.tree? (.node 3) = some (.object revised) ∧
        declared revised = [⟨"a", .object [("oneOf", .array [.object [], .object []])], true⟩,
          ⟨"b", .object [("oneOf", .array [.object [("type", .string "string")], .object [("type", .string "string")]])], true⟩] := by
  obtain ⟨fields, same, tidy⟩ := Property.tidy_sampleDocument
  obtain rfl := Json.object.inj same
  have closed : (sampleDocument.place .empty).2.Closed := (Json.placed sampleDocument .empty Store.closed_empty).grows.closed
  have known : ∀ operand ∈ Edit.schemas (.merge (.builder 3)), Builder.Known (sampleDocument.place .empty).2.size operand := by
    intro operand listed address given
    obtain rfl := List.mem_singleton.mp listed
    obtain rfl := Operand.builder.inj given
    decide
  have read : (sampleDocument.place .empty).2.tree? (.node 3) = some sampleDocument := rfl
  obtain ⟨later, ran⟩ : ∃ later, outcome (Edit.run 3 (.merge (.builder 3))) (sampleDocument.place .empty).2 = (.ok (), later) :=
    ⟨_, rfl⟩
  rcases Edit.acts_on_declared closed (by decide) known read tidy (.merge read tidy) ran with done | ⟨entangled, -⟩
  · obtain ⟨revised, read', declares⟩ := done
    exact ⟨later, revised, ran, read', declares⟩
  · exact entangled.elim

end SchemaAlgebra
