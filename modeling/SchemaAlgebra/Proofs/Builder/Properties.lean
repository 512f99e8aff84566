import SchemaAlgebra.Proofs.Builder.Listing
import SchemaAlgebra.Proofs.Builder.Members
import SchemaAlgebra.Proofs.Schema.Rules
import SchemaAlgebra.Proofs.Store.Finite

/-!
The properties that a schema declares, in order. A store presents them under the address of the schema, and the schema
that is read there declares what the store presents.
-/

namespace SchemaAlgebra

namespace Property

/-- The entries of an object that have texts for keys. -/
def textual (fields : List (Key × Json)) : Fields String Json :=
  fields.filterMap fun field => field.1.text?.map fun name => (name, field.2)

/-- The schemas of the properties, by name. -/
def schemas (fields : List (Key × Json)) : Fields String Json :=
  match Fields.get? fields "properties" with
  | some (.object members) => textual members
  | _ => []

/-- The names that are required. -/
def requiredNames (fields : List (Key × Json)) : List String :=
  match Fields.get? fields "required" with
  | some (.array names) => names.filterMap fun
    | .string name => some name
    | _ => none
  | _ => []

/-- The properties that an object schema declares, in order. -/
def declared (fields : List (Key × Json)) : List Property :=
  flagged (schemas fields) (requiredNames fields)

/-- What a property is like that is declared like undeclared ones: what these have to match, if that is an object, and
anything otherwise. -/
def alike (fields : List (Key × Json)) : Json :=
  match Fields.get? fields "additionalProperties" with
  | some (.object inner) => .object inner
  | _ => .object []

/-- A schema that passes the metaschema, has different texts for the names of its properties, and requires different
ones of these. -/
structure Tidy (fields : List (Key × Json)) : Prop where
  isSchema : Metaschema.isSchema (.object fields) = true
  named : ∀ members, Fields.get? fields "properties" = some (.object members) →
    (Fields.keys members).Nodup ∧ ∀ key ∈ Fields.keys members, ∃ name, key = .text name
  requires : Walk.RequiresDeclared fields

theorem get?_textual (fields : List (Key × Json)) (name : String) :
    Fields.get? (textual fields) name = Fields.get? fields (.text name) := by
  induction fields with
  | nil => rfl
  | cons field rest ih =>
      obtain ⟨key, value⟩ := field
      cases key with
      | text text =>
          rw [Fields.get?_cons, ← ih]
          simp [textual, Key.text?, Fields.get?_cons]
      | _ =>
          rw [Fields.get?_cons, if_neg (by simp), ← ih]
          rfl

theorem requiredNames_of_get? {fields : List (Key × Json)} {names : List String}
    (found : Fields.get? fields "required" = some (.array (names.map .string))) : requiredNames fields = names := by
  rw [requiredNames, found]
  simp [List.filterMap_map]

theorem requiredNames_of_missing {fields : List (Key × Json)} (missing : Fields.get? fields "required" = none) :
    requiredNames fields = [] := by
  rw [requiredNames, missing]

theorem schemas_of_get? {fields members : List (Key × Json)}
    (found : Fields.get? fields "properties" = some (.object members)) : schemas fields = textual members := by
  rw [schemas, found]

theorem schemas_of_missing {fields : List (Key × Json)} (missing : Fields.get? fields "properties" = none) :
    schemas fields = [] := by
  rw [schemas, missing]

theorem entries_flagged (values : Fields String Json) (names : List String) :
    entries (flagged values names) = values.map fun value => (.text value.1, value.2) := by
  rw [entries, flagged, List.map_map]
  rfl

/-- The properties that are declared are all that is there, if their names are texts. -/
theorem entries_declared {fields members : List (Key × Json)}
    (found : Fields.get? fields "properties" = some (.object members))
    (texts : ∀ entry ∈ members, ∃ name, entry.1 = .text name) : entries (declared fields) = members := by
  rw [declared, entries_flagged, schemas_of_get? found, textual, List.map_filterMap]
  refine (List.filterMap_congr fun entry listed => ?_).trans List.filterMap_some
  obtain ⟨key, value⟩ := entry
  obtain ⟨name, rfl⟩ : ∃ name, key = .text name := texts _ listed
  rfl

theorem declared_put {fields : List (Key × Json)} {key : Key} (notProperties : key ≠ "properties")
    (notRequired : key ≠ "required") (value : Json) : declared (Fields.put fields key value) = declared fields := by
  rw [declared, declared, schemas, schemas, requiredNames, requiredNames, Fields.get?_put, if_neg notProperties,
    Fields.get?_put, if_neg notRequired]

end Property

namespace Store

variable {store later : Store} {address : Nat} {members : Fields String Slot} {names : List String}
  {values : Fields String Json} {slot : Slot}

/-- The schema at an address of a closed store is finite, and its properties and the names that it requires are known. -/
structure Presents (store : Store) (address : Nat) (members : Fields String Slot) (names : List String)
    (values : Fields String Json) : Prop where
  closed : store.Closed
  describes : store.Describes address members names
  finite : store.Finite (.node address)
  values : Fields.Rel store.Denotes members values

theorem DenotesAll.textual {fields : List (Key × Json)} (denotes : store.DenotesAll (Cell.named members) fields) :
    Fields.Rel store.Denotes members (Property.textual fields) := by
  induction members generalizing fields with
  | nil =>
      obtain rfl := List.forall₂_nil_left_iff.mp denotes
      exact .nil
  | cons member rest ih =>
      obtain ⟨⟨key, value⟩, others, first, further, rfl⟩ := List.forall₂_cons_left_iff.mp denotes
      obtain ⟨rfl, here⟩ := first
      exact .cons ⟨rfl, here⟩ (ih further)

theorem denotes_strings {names : List String} {value : Json} (denotes : store.Denotes (.array (names.map .string)) value) :
    value = .array (names.map .string) := by
  refine denotes.unique (denotes_array.mpr ⟨_, rfl, ?_⟩)
  exact List.forall₂_map_left_iff.mpr (List.forall₂_map_right_iff.mpr (List.forall₂_same.mpr fun _ _ => denotes_string.mpr rfl))

theorem rel_unique {others : Fields String Json} (first : Fields.Rel store.Denotes members values)
    (second : Fields.Rel store.Denotes members others) : values = others := by
  induction first generalizing others with
  | nil => exact (List.forall₂_nil_left_iff.mp second).symm
  | @cons member value members values here _ ih =>
      obtain ⟨other, rest, there, further, rfl⟩ := List.forall₂_cons_left_iff.mp second
      rw [ih further, Prod.ext (here.1.symm.trans there.1) (here.2.unique there.2)]

/-- The schema that is read declares the properties that the store presents. -/
theorem Presents.read (presents : store.Presents address members names values) :
    ∃ fields, store.tree? (.node address) = some (.object fields) ∧
      Property.declared fields = Property.flagged values names := by
  obtain ⟨value, denotes⟩ := presents.finite
  obtain ⟨fields, rfl, each⟩ := denotes_node.mp denotes
  have within := Slot.within_node.mpr presents.describes.inside
  refine ⟨fields, (presents.closed.tree?_eq_some_iff within).mpr denotes, ?_⟩
  have properties : Property.schemas fields = values := by
    have declares := presents.describes.declares
    rcases each.get? "properties" with ⟨missing, missing'⟩ | ⟨slot, value, found, found', denotes⟩
    · rw [missing] at declares
      cases declares with
      | absent empty =>
          have none := presents.values
          rw [empty] at none
          rw [Property.schemas_of_missing missing', List.forall₂_nil_left_iff.mp none]
    · rw [found] at declares
      cases declares with
      | node cell =>
          obtain ⟨inner, rfl, inside⟩ := denotes_node.mp denotes
          rw [cell] at inside
          rw [Property.schemas_of_get? found', rel_unique presents.values inside.textual]
  have required : Property.requiredNames fields = names := by
    rcases each.get? "required" with ⟨missing, missing'⟩ | ⟨slot, value, found, found', denotes⟩
    · rcases presents.describes.required with ⟨-, rfl⟩ | found
      · exact Property.requiredNames_of_missing missing'
      · cases missing.symm.trans found
    · rcases presents.describes.required with ⟨missing, -⟩ | listed
      · cases missing.symm.trans found
      · obtain rfl := Option.some.inj (found.symm.trans listed)
        rw [denotes_strings denotes] at found'
        exact Property.requiredNames_of_get? found'
  rw [Property.declared, properties, required]

/-- A schema of which the properties are different texts and the required names are texts is presented where it
stands in a closed store. -/
theorem presents_of_denotes {fields : List (Key × Json)} (closed : store.Closed) (inside : address < store.size)
    (denotes : store.Denotes (.node address) (.object fields))
    (named : ∀ value, Fields.get? fields "properties" = some value → ∃ members : List (Key × Json),
      value = .object members ∧ (Fields.keys members).Nodup ∧ ∀ key ∈ Fields.keys members, ∃ name, key = .text name)
    (texts : ∀ value, Fields.get? fields "required" = some value → ∃ names : List String,
      value = .array (names.map .string)) :
    ∃ members, store.Presents address members (Property.requiredNames fields) (Property.schemas fields) := by
  obtain ⟨_, ⟨⟩, each⟩ := denotes_node.mp denotes
  obtain ⟨members, declares, distinct, values⟩ : ∃ members : Fields String Slot,
      store.Declares members (Fields.get? (store.cell address) "properties") ∧ (Fields.keys members).Nodup ∧
        Fields.Rel store.Denotes members (Property.schemas fields) := by
    rcases each.get? "properties" with ⟨missing, missing'⟩ | ⟨slot, value, found, found', holds⟩
    · rw [missing, Property.schemas_of_missing missing']
      exact ⟨[], .absent rfl, List.nodup_nil, .nil⟩
    · obtain ⟨inner, rfl, distinct, texts⟩ := named value found'
      obtain ⟨place, rfl, entries⟩ := holds.eq_node
      rw [← entries.keys] at distinct texts
      obtain ⟨members, cell⟩ := Cell.exists_named texts
      rw [cell] at distinct entries
      rw [found, Property.schemas_of_get? found']
      exact ⟨members, .node cell, Cell.nodup_keys_named.mp distinct, entries.textual⟩
  have required : Fields.get? (store.cell address) "required" = none ∧ Property.requiredNames fields = [] ∨
      Fields.get? (store.cell address) "required" = some (.array ((Property.requiredNames fields).map .string)) := by
    rcases each.get? "required" with ⟨missing, missing'⟩ | ⟨slot, value, found, found', holds⟩
    · exact .inl ⟨missing, Property.requiredNames_of_missing missing'⟩
    · obtain ⟨names, rfl⟩ := texts value found'
      rw [Property.requiredNames_of_get? found']
      exact .inr (found.trans (congrArg some holds.eq_strings))
  refine ⟨members, closed, ⟨inside, declares, fun {place} found => ⟨?_, ?_⟩, required, distinct⟩, ⟨_, denotes⟩, values⟩
  · rintro rfl
    have listed := Fields.mem_of_get? found
    exact denotes.acyclic (Cell.mem_addresses.mpr ⟨_, listed, List.mem_singleton_self _⟩) .refl
  · exact (closed_iff.mp closed address _ (Fields.mem_of_get? found)) place (List.mem_singleton_self _)

/-- So is a well-formed one that passes the metaschema. -/
theorem presents_of_schema {fields : List (Key × Json)} (closed : store.Closed) (inside : address < store.size)
    (denotes : store.Denotes (.node address) (.object fields)) (formed : (Json.object fields).wellFormed = true)
    (isSchema : Metaschema.isSchema (.object fields) = true) :
    ∃ members, store.Presents address members (Property.requiredNames fields) (Property.schemas fields) := by
  have passes := Metaschema.passes_of_isSchema isSchema
  refine presents_of_denotes closed inside denotes (fun value found => ?_) fun value found => ?_
  · have isObject := (passes.properties found).1
    cases value with
    | object members =>
        obtain ⟨textual, distinct, -⟩ := (Json.wellFormed_object members).mp
          (((Json.wellFormed_object fields).mp formed).2.2 _ (Fields.mem_of_get? found))
        refine ⟨members, rfl, distinct, fun key listed => ?_⟩
        obtain ⟨entry, among, rfl⟩ := List.mem_map.mp listed
        exact textual entry among
    | _ => cases isObject
  · obtain ⟨names, same, -⟩ := Metaschema.holds_texts.mp (passes.keeps .texts (by decide) found)
    exact ⟨names, same⟩

/-- A tidy schema in a closed store is presented there. -/
theorem presents_of_tidy {fields : List (Key × Json)} (closed : store.Closed) (inside : address < store.size)
    (read : store.tree? (.node address) = some (.object fields)) (tidy : Property.Tidy fields) :
    ∃ members names values, store.Presents address members names values ∧ Property.Requires values names ∧
      Property.declared fields = Property.flagged values names := by
  have denotes := (closed.tree?_eq_some_iff (Slot.within_node.mpr inside)).mp read
  have passes := Metaschema.passes_of_isSchema tidy.isSchema
  obtain ⟨members, presents⟩ := presents_of_denotes closed inside denotes
    (fun value found => by
      have isObject := (passes.properties found).1
      cases value with
      | object inner => exact ⟨inner, rfl, tidy.named inner found⟩
      | _ => cases isObject)
    (fun value found => by
      obtain ⟨names, same, -⟩ := tidy.requires value found
      exact ⟨names, same⟩)
  refine ⟨members, _, _, presents, ?_, rfl⟩
  cases found : Fields.get? fields "required" with
  | none =>
      rw [Property.requiredNames_of_missing found]
      exact ⟨List.nodup_nil, fun _ listed => absurd listed List.not_mem_nil⟩
  | some value =>
      obtain ⟨names, rfl, different, declares⟩ := tidy.requires value found
      rw [Property.requiredNames_of_get? found]
      refine ⟨different, fun name listed => ?_⟩
      obtain ⟨inner, declared, has⟩ := declares name listed
      rw [Property.schemas_of_get? declared, ← Fields.has_iff_mem_keys, Fields.has, Property.get?_textual]
      exact has

end Store

end SchemaAlgebra
