import SchemaAlgebra.Proofs.Validation.Coercions
import SchemaAlgebra.Proofs.Validation.Locality

/-!
What the keywords of a schema object look at and what they can edit, told from the schema alone. Keywords of which
none edits what another one looks at can be evaluated in any order. Neither table depends on the order of keys.
-/

namespace SchemaAlgebra.Schema

open Evaluation
open Json (Reordered)

/-- Options make no difference to the evaluation of a schema, in whatever order its keys are. -/
def Inert (options : Options) (schema : Json) : Prop :=
  ∀ other, Reordered schema other → ∀ extent value,
    (alone other).run options extent value = (alone other).run .plain extent value

/-- Options make no difference to the evaluation of a schema, and no value is converted toward it. -/
structure Quiet (options : Options) (schema : Json) : Prop where
  inert : Inert options schema
  coerce : options.coerceTypes = true → ∀ other, Reordered schema other → ∀ value converted,
    (alone other).coerce options value = .ok (some converted) → converted = value

/-- The schema that `items` has for the item at an index. -/
def itemSchema? (argument : Json) (i : Nat) : Option Json :=
  match argument with
  | .array schemas => schemas[i]?
  | schema => some schema

/-- A keyword of a schema object evaluates what a step leads to by a schema. -/
inductive Claims (fields : List (Key × Json)) : String → Step → Json → Prop
  | declared {name : Key} {schema : Json} :
      (name, schema) ∈ declared fields → Claims fields "properties" (.member name) schema
  | found {expression name : String} {schema : Json} : (.text expression, schema) ∈ patterned fields →
      Finds expression name → Claims fields "patternProperties" (.member (.text name)) schema
  | undeclared {name : String} {schema : Json} : Fields.get? fields "additionalProperties" = some schema →
      Undeclared fields name → Claims fields "additionalProperties" (.member (.text name)) schema
  | item {argument schema : Json} {i : Nat} : Fields.get? fields "items" = some argument →
      itemSchema? argument i = some schema → Claims fields "items" (.index i) schema
  | further {schemas : List Json} {schema : Json} {i : Nat} : Fields.get? fields "items" = some (.array schemas) →
      schemas.length ≤ i → Fields.get? fields "additionalItems" = some schema →
        Claims fields "additionalItems" (.index i) schema

/-- A keyword of a schema object looks at an aspect of a value. -/
inductive Reads (fields : List (Key × Json)) : String → Aspect → Prop
  | claim {keyword : String} {aspect : Aspect} {schema : Json} :
      Claims fields keyword aspect.step schema → Reads fields keyword aspect
  | required {names : List Json} {name : String} : Fields.get? fields "required" = some (.array names) →
      .string name ∈ names → Reads fields "required" (.presence (.member (.text name)))
  | names {keyword : String} {key : Key} :
      keyword ∈ namingKeywords → Reads fields keyword (.presence (.member key))
  | whole {keyword : String} {argument : Json} {aspect : Aspect} :
      Fields.get? fields (.text keyword) = some argument → Surveys keyword argument → Reads fields keyword aspect

/-- A keyword of a schema object can edit an aspect of a value; what is filled in is told apart from this. -/
inductive Edits (options : Options) (fields : List (Key × Json)) : String → Aspect → Prop
  | child {keyword : String} {step : Step} {schema : Json} : Claims fields keyword step schema →
      ¬ Quiet options schema → Edits options fields keyword (.child step)
  | removal {aspect : Aspect} {name : String} : options.removeAdditional = true →
      Fields.get? fields "additionalProperties" = some (.bool false) → Undeclared fields name →
        aspect.step = .member (.text name) → Edits options fields "additionalProperties" aspect
  | branch {argument schema : Json} {aspect : Aspect} : Fields.get? fields "allOf" = some argument →
      schema ∈ heldBy "allOf" argument → ¬ Inert options schema → Edits options fields "allOf" aspect
  | choice {keyword : String} {condition schema : Json} {aspect : Aspect} :
      Fields.get? fields "if" = some condition → keyword ∈ ["then", "else"] →
        Fields.get? fields (.text keyword) = some schema → ¬ Inert options schema → Edits options fields "if" aspect

/-- The default of a declared property, where defaults are filled in. -/
def filling (options : Options) (fields : List (Key × Json)) : Step → Option Json
  | .member name =>
      if options.useDefaults then (Fields.get? (declared fields) name).bind Json.default? else none
  | .index _ => none

/-- No keyword of a schema object edits what another one looks at. What `properties` and `required` fill in, both of
them fill in before they look at it, and no other keyword looks there. -/
structure Apart (options : Options) (fields : List (Key × Json)) : Prop where
  keywords : ∀ keyword other : String, Fields.has fields keyword = true → Fields.has fields other = true →
    keyword ≠ other → ∀ aspect, Edits options fields keyword aspect → ¬ Reads fields other aspect
  defaults : ∀ keyword : String, Fields.has fields keyword = true → keyword ≠ "properties" → keyword ≠ "required" →
    ∀ aspect : Aspect, (filling options fields aspect.step).isSome = true → ¬ Reads fields keyword aspect
  patterns : ∀ expression other name : String, ∀ schema, (.text expression, schema) ∈ patterned fields →
    .text other ∈ Fields.keys (patterned fields) → expression ≠ other → Finds expression name → Finds other name →
      Quiet options schema

/-- The keywords whose schemas may edit. -/
def carryingKeywords : List String :=
  ["properties", "patternProperties", "additionalProperties", "items", "additionalItems", "allOf", "then", "else"]

/-- Under the options in force no keyword of a schema object edits what another one looks at, and this holds again of
the schema objects that can edit below; these are held by keywords that apply them to children, or in turn. -/
inductive Orderly : Options → List (Key × Json) → Prop
  | intro {options : Options} {fields : List (Key × Json)} : Apart options fields →
      (∀ (keyword : String) argument, Fields.get? fields (.text keyword) = some argument →
        keyword ∉ "propertyNames" :: carryingKeywords → ∀ schema ∈ heldBy keyword argument, Inert options schema) →
      (∀ (keyword : String) argument inner inForce, Fields.get? fields (.text keyword) = some argument →
        keyword ∈ carryingKeywords → .object inner ∈ heldBy keyword argument → ¬ Inert options (.object inner) →
          optionsIn inner options = .ok inForce → Orderly inForce inner) → Orderly options fields

variable {fields others : List (Key × Json)} {options : Options} {keyword : String}

theorem Orderly.inert (orderly : Orderly options fields) {argument : Json}
    (found : Fields.get? fields (.text keyword) = some argument)
    (aside : keyword ∉ "propertyNames" :: carryingKeywords) :
    ∀ schema ∈ heldBy keyword argument, Inert options schema := by
  cases orderly with
  | intro _ inert _ => exact inert keyword argument found aside

theorem Orderly.apart (orderly : Orderly options fields) : Apart options fields := by
  cases orderly
  assumption

theorem itemSchema?_reordered {argument argument' : Json} (related : Reordered argument argument') (i : Nat) :
    Option.Rel Reordered (itemSchema? argument i) (itemSchema? argument' i) := by
  cases related with
  | scalar noArray noObject =>
      cases argument with
      | array => cases noArray
      | _ => exact .some (.scalar noArray noObject)
  | object textual distinct keys each => exact .some (.object textual distinct keys each)
  | @array schemas schemas' lengths each =>
      have related := Reordered.array lengths each
      rcases related.child? (.index i) with ⟨missing, missing'⟩ | ⟨schema, schema', found, found', related⟩
      · simp only [Json.child?] at missing missing'
        simp only [itemSchema?, missing, missing']
        exact .none
      · simp only [Json.child?] at found found'
        simp only [itemSchema?, found, found']
        exact .some related

theorem wellFormed_heldBy {argument schema : Json} (formed : argument.wellFormed = true)
    (held : schema ∈ heldBy keyword argument) : schema.wellFormed = true := by
  rcases heldBy_cases held with rfl | item | ⟨member, listed, rfl⟩
  · exact formed
  · cases argument with
    | array items => exact (Json.wellFormed_array _).mp formed schema item
    | _ => cases item
  · cases argument with
    | object fields => exact ((Json.wellFormed_object _).mp formed).2.2 member listed
    | _ => cases listed

theorem heldBy_reordered {argument argument' : Json} (argued : Reordered argument argument') (keyword : String) :
    Matched Reordered (heldBy keyword argument) (heldBy keyword argument') := by
  have items : Matched Reordered argument.items argument'.items := by
    cases argued with
    | scalar noArray =>
        have none : argument.items = [] := by cases argument <;> first | rfl | cases noArray
        rw [none]
        exact .of_forall₂ .nil
    | array lengths each => exact .of_forall₂ (Reordered.array lengths each).items
    | object => exact .of_forall₂ .nil
  have members : Matched (fun entry other => other.1 = entry.1 ∧ Reordered entry.2 other.2) argument.members
      argument'.members := by
    cases argued with
    | scalar _ noObject =>
        have none : argument.members = [] := by cases argument <;> first | rfl | cases noObject
        rw [none]
        exact .of_forall₂ .nil
    | array => exact .of_forall₂ .nil
    | object textual distinct keys each => exact (Reordered.object textual distinct keys each).members
  have single : Matched Reordered [argument] [argument'] := .of_forall₂ (.cons argued .nil)
  have schemas : Matched Reordered (argument.members.map Prod.snd) (argument'.members.map Prod.snd) :=
    members.map fun _ _ _ _ same => same.2
  unfold heldBy
  split
  iterate 8 · exact single
  iterate 3 · exact items
  iterate 2 · exact schemas
  · exact schemas.filter fun _ _ related => congrArg (!·) related.isArray
  · rw [argued.isArray]
    split
    · exact items
    · exact single
  · exact .of_forall₂ .nil

/-- What a keyword claims for a schema it claims, in another order of keys, for the same schema in another order. -/
theorem Claims.reordered (rearranged : Rearranged (.object fields) (.object others)) {step : Step} {schema : Json}
    (claims : Claims fields keyword step schema) : ∃ schema', Claims others keyword step schema' ∧
      Reordered schema schema' := by
  have node := rearranged.reordered
  have names := names_of_passes node.formed rearranged.passes
  have get? := fun {key schema} (found : Fields.get? fields key = some schema) =>
    show ∃ schema', Fields.get? others key = some schema' ∧ Reordered schema schema' by
      rcases node.get? key with ⟨missing, -⟩ | ⟨value, other, there, there', related⟩
      · cases found.symm.trans missing
      · obtain rfl := Option.some.inj (found.symm.trans there)
        exact ⟨other, there', related⟩
  cases claims with
  | declared listed =>
      obtain ⟨⟨name, schema'⟩, listed', rfl, related⟩ := (declared_reordered node names).members.there _ listed
      exact ⟨schema', .declared listed', related⟩
  | found listed finds =>
      obtain ⟨⟨_, schema'⟩, listed', rfl, related⟩ := (patterned_reordered node names).members.there _ listed
      exact ⟨schema', .found listed' finds, related⟩
  | undeclared found free =>
      obtain ⟨schema', found', related⟩ := get? found
      have joins := rearranged.joins.holds (by rw [Fields.has, found]; rfl)
      have joins' := rearranged.joins'.holds (by rw [Fields.has, found']; rfl)
      exact ⟨schema', .undeclared found' ((undeclared_reordered node names joins joins').mpr free), related⟩
  | @item argument schema i found there =>
      obtain ⟨argument', found', related⟩ := get? found
      have same := itemSchema?_reordered related i
      rw [there] at same
      cases there' : itemSchema? argument' i with
      | none =>
          rw [there'] at same
          cases same
      | some schema' =>
          rw [there'] at same
          cases same
          exact ⟨schema', .item found' there', by assumption⟩
  | @further schemas schema i found beyond there =>
      obtain ⟨argument', found', related⟩ := get? found
      obtain ⟨schema', there', related'⟩ := get? there
      cases related with
      | scalar noArray => cases noArray
      | array lengths => exact ⟨schema', .further found' (lengths ▸ beyond) there', related'⟩

theorem Surveys.reordered {argument argument' : Json} (related : Reordered argument argument')
    (surveys : Surveys keyword argument) : Surveys keyword argument' := by
  rcases surveys with listed | ⟨rfl, some⟩
  · exact .inl listed
  · obtain ⟨schema, held⟩ := List.exists_mem_of_ne_nil _ some
    obtain ⟨inside, noArray⟩ := List.mem_filter.mp held
    obtain ⟨member, listed, rfl⟩ := List.mem_map.mp inside
    cases related with
    | scalar _ noObject =>
        cases argument with
        | object => cases noObject
        | _ => cases listed
    | array => cases listed
    | object textual distinct keys each =>
        obtain ⟨member', listed', -, related⟩ := (Reordered.object textual distinct keys each).members.there _ listed
        refine .inr ⟨rfl, List.ne_nil_of_mem (List.mem_filter.mpr ⟨List.mem_map_of_mem listed', ?_⟩)⟩
        rwa [related.isArray]

/-- What a keyword looks at does not depend on the order of keys. -/
theorem Reads.reordered (rearranged : Rearranged (.object fields) (.object others)) {aspect : Aspect}
    (reads : Reads fields keyword aspect) : Reads others keyword aspect := by
  cases reads with
  | claim claims =>
      obtain ⟨schema', claims', -⟩ := claims.reordered rearranged
      exact .claim claims'
  | @required names name found listed =>
      rcases rearranged.reordered.get? (.text "required") with ⟨missing, -⟩ | ⟨argument, argument', there, there',
        related⟩
      · cases found.symm.trans missing
      · obtain rfl := Option.some.inj (found.symm.trans there)
        cases related with
        | scalar noArray => cases noArray
        | array lengths each =>
            obtain ⟨name', listed', related⟩ :=
              (Matched.of_forall₂ (Reordered.array lengths each).items).there _ listed
            obtain rfl := related.eq rfl rfl
            exact .required there' listed'
  | names listed => exact .names listed
  | whole found surveys =>
      rcases rearranged.reordered.get? (.text keyword) with ⟨missing, -⟩ | ⟨argument, argument', there, there',
        related⟩
      · cases found.symm.trans missing
      · obtain rfl := Option.some.inj (found.symm.trans there)
        exact .whole there' (surveys.reordered related)

theorem Inert.run {schema : Json} (inert : Inert options schema) (formed : schema.wellFormed = true)
    (extent : Extent)
    (value : Json) : (alone schema).run options extent value = (alone schema).run .plain extent value :=
  inert schema (Json.reordered_refl formed) extent value

theorem Inert.reordered {schema schema' : Json} (related : Reordered schema schema') (inert : Inert options schema) :
    Inert options schema' :=
  fun other same => inert other (related.trans same)

theorem Quiet.reordered {schema schema' : Json} (related : Reordered schema schema') (quiet : Quiet options schema) :
    Quiet options schema' :=
  ⟨quiet.inert.reordered related, fun coerces other same => quiet.coerce coerces other (related.trans same)⟩

/-- A keyword looks at what it edits. -/
theorem Edits.reads {aspect : Aspect} (edits : Edits options fields keyword aspect) :
    Reads fields keyword aspect := by
  cases edits with
  | child claims _ => exact .claim claims
  | @removal aspect name _ found free here =>
      exact .claim (here ▸ Claims.undeclared found free)
  | branch found _ _ => exact .whole found (.inl (by decide))
  | choice found _ _ _ => exact .whole found (.inl (by decide))

/-- What a keyword can edit does not depend on the order of keys. -/
theorem Edits.reordered (rearranged : Rearranged (.object fields) (.object others)) {aspect : Aspect}
    (edits : Edits options fields keyword aspect) : Edits options others keyword aspect := by
  have node := rearranged.reordered
  cases edits with
  | child claims loud =>
      obtain ⟨schema', claims', related⟩ := claims.reordered rearranged
      exact .child claims' fun quiet => loud (quiet.reordered related.symm)
  | removal removes found free here =>
      obtain ⟨refused, found', related⟩ := node.argument found
      obtain rfl := related.eq rfl rfl
      have joins := rearranged.joins.holds (by rw [Fields.has, found]; rfl)
      have joins' := rearranged.joins'.holds (by rw [Fields.has, found']; rfl)
      have names := names_of_passes node.formed rearranged.passes
      exact .removal removes found' ((undeclared_reordered node names joins joins').mpr free) here
  | branch found held loud =>
      obtain ⟨argument', found', related⟩ := node.argument found
      obtain ⟨schema', held', same⟩ := (heldBy_reordered related "allOf").there _ held
      exact .branch found' held' fun inert => loud (inert.reordered same.symm)
  | choice found branching there loud =>
      obtain ⟨condition', found', -⟩ := node.argument found
      obtain ⟨schema', there', same⟩ := node.argument there
      exact .choice found' branching there' fun inert => loud (inert.reordered same.symm)

theorem filling_reordered (options : Options) (node : Reordered (.object fields) (.object others))
    (names : Names fields)
    (step : Step) :
    Option.Rel Reordered (filling options fields step) (filling options others step) := by
  cases step with
  | index i => exact .none
  | member name =>
      simp only [filling]
      split
      · rcases (declared_reordered node names).get? name with ⟨missing, missing'⟩ |
          ⟨schema, schema', found, found', related⟩
        · simp only [missing, missing', Option.bind_none]
          exact .none
        · simp only [found, found', Option.bind_some]
          rcases related.default? with ⟨missing, missing'⟩ | ⟨default, default', there, there', same⟩
          · rw [missing, missing']
            exact .none
          · rw [there, there']
            exact .some same
      · exact .none

theorem isSome_filling_reordered (node : Reordered (.object fields) (.object others)) (names : Names fields)
    (step : Step) : (filling options others step).isSome = (filling options fields step).isSome := by
  have related := filling_reordered options node names step
  generalize filling options fields step = default, filling options others step = default' at related ⊢
  cases related <;> rfl

/-- Whether the keywords of a schema object are apart does not depend on the order of keys. -/
theorem Apart.reordered (rearranged : Rearranged (.object fields) (.object others)) (apart : Apart options fields) :
    Apart options others := by
  have node := rearranged.reordered
  have names := names_of_passes node.formed rearranged.passes
  have names' := names.reordered node
  have has := fun {keyword : String} (there : Fields.has others keyword = true) =>
    show Fields.has fields keyword = true by
      rw [Fields.has_iff_mem_keys] at there ⊢
      exact node.keys.mem_iff.mpr there
  refine ⟨fun keyword other here there differ aspect edits reads => ?_,
    fun keyword here aside aside' aspect some reads => ?_,
    fun expression other name schema listed listed' differ finds finds' => ?_⟩
  · exact apart.keywords keyword other (has here) (has there) differ aspect (edits.reordered rearranged.symm)
      (reads.reordered rearranged.symm)
  · rw [isSome_filling_reordered node names] at some
    exact apart.defaults keyword (has here) aside aside' aspect some (reads.reordered rearranged.symm)
  · have patterns := patterned_reordered node names
    obtain ⟨⟨_, schema'⟩, present, same, related⟩ := patterns.members.back _ listed
    obtain rfl : Key.text expression = _ := same
    exact (apart.patterns expression other name schema' present (patterns.keys.mem_iff.mpr listed') differ finds
      finds').reordered related

/-- The options in force do not depend on the order of keys. -/
theorem optionsIn_reordered (node : Reordered (.object fields) (.object others)) (options : Options) :
    optionsIn others options = optionsIn fields options := by
  unfold optionsIn
  rcases node.get? (.text "$schema") with ⟨missing, missing'⟩ | ⟨value, value', found, found', related⟩
  · rw [missing, missing']
  · rw [found, found']
    cases related with
    | scalar => rfl
    | array => rfl
    | object => rfl

/-- Whether a schema object is orderly does not depend on the order of keys. -/
theorem Orderly.reordered (orderly : Orderly options fields) :
    ∀ {others}, Rearranged (.object fields) (.object others) → Orderly options others := by
  induction orderly with
  | intro apart inert _ ih =>
      intro others rearranged
      have back := rearranged.symm.reordered
      refine .intro (apart.reordered rearranged) (fun keyword argument found aside schema held => ?_)
        fun keyword argument inner inForce found carries held loud here => ?_
      · obtain ⟨argument', found', related⟩ := back.argument found
        obtain ⟨schema', held', same⟩ := (heldBy_reordered related keyword).there schema held
        exact (inert keyword argument' found' aside schema' held').reordered same.symm
      · obtain ⟨argument', found', related⟩ := back.argument found
        obtain ⟨schema', held', same⟩ := (heldBy_reordered related keyword).there _ held
        have inside := rearranged.held found' found held' held same.symm
        obtain ⟨inner', rfl⟩ := inside.symm.object
        refine ih keyword argument' inner' inForce found' carries held'
          (fun quiet => loud (quiet.reordered same.symm)) ?_
          inside
        rw [← here, optionsIn_reordered same]

end SchemaAlgebra.Schema
