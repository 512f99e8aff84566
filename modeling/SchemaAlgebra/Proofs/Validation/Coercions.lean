import SchemaAlgebra.Proofs.Validation.Conversion
import SchemaAlgebra.Proofs.Validation.Indifference

/-!
Scalars are evaluated alike under all options, and schemas that differ in the order of keys only convert them to the
same, where both conversions succeed: the declared types and the branches that are tried come from arrays, in which
the order stays.
-/

namespace SchemaAlgebra

open Outcome Schema
open Json (Reordered)

/-- A value without children. -/
def Json.IsScalar (value : Json) : Prop :=
  value.isArray = false ∧ value.isObject = false

theorem Json.isScalar_of_isContainer {value : Json} (flat : value.isContainer = false) : value.IsScalar := by
  cases value <;> first | exact ⟨rfl, rfl⟩ | cases flat

/-- Two parts convert values to the same, where both succeed. -/
structure Part.ConvertsAs (part other : Part) : Prop where
  isObject : other.schema.isObject = part.schema.isObject
  coerce : ∀ options value converted converted', part.coerce options value = .ok converted →
    other.coerce options value = .ok converted' → converted' = converted

namespace Evaluation

theorem hereditary_scalars : Hereditary Json.IsScalar where
  child value step child scalar found := by
    obtain ⟨noArray, noObject⟩ := scalar
    cases value with
    | array => cases noArray
    | object => cases noObject
    | _ => cases step <;> cases found
  name value name scalar listed := by
    cases value with
    | object => cases scalar.2
    | _ => cases listed

theorem optionsIn_either (fields : List (Key × Json)) (options options' : Options) :
    (∃ fault, optionsIn fields options = .error fault ∧ optionsIn fields options' = .error fault) ∨
      ∃ inner inner', optionsIn fields options = .ok inner ∧ optionsIn fields options' = .ok inner' := by
  unfold optionsIn
  split
  · exact .inr ⟨_, _, rfl, rfl⟩
  · split
    · exact .inl ⟨_, rfl, rfl⟩
    · split
      · exact .inl ⟨_, rfl, rfl⟩
      · exact .inr ⟨_, _, rfl, rfl⟩
  · exact .inr ⟨_, _, rfl, rfl⟩

/-- A scalar is evaluated under any options as without normalization. -/
theorem agrees_on_scalars {schema : Json} (closed : Reference.count "$ref" schema = 0) :
    ∀ options, (alone schema).Agrees Json.IsScalar options (alone schema) := by
  induction schema using Json.schemaInduction with
  | flat schema notObject => exact fun options => Structure.flat_agrees _ _ _ _ notObject
  | object fields ih =>
      intro options
      have held : ∀ options keyword argument, (Key.text keyword, argument) ∈ fields →
        ∀ schema ∈ heldBy keyword argument,
          (alone schema).Agrees Json.IsScalar options (alone schema) := by
        intro options keyword argument present schema listed
        have absent := ((Reference.count_eq_zero closed).2 _ present).2
        have inner := Reference.count_heldBy absent listed
        obtain ⟨self, items, members⟩ := ih _ present
        rcases heldBy_cases listed with rfl | item | ⟨member, inside, rfl⟩
        · exact self inner options
        · exact items schema item inner options
        · exact members member inside inner options
      have runs : ∀ value, value.IsScalar → ∀ extent,
          (alone (.object fields)).run options extent value = (alone (.object fields)).run .plain extent value := by
        intro value scalar extent
        simp only [alone, partWith_object, runNode]
        rcases optionsIn_either fields options .plain with ⟨fault, found, found'⟩ | ⟨inner, inner', found, found'⟩
        · rw [found, found']
        · rw [found, found', optionsIn_plain found']
          simp only [given]
          rw [evaluateNode_closed _ _ (has_of_closed closed), evaluateNode_closed _ _ (has_of_closed closed)]
          refine chain_congr (fun entry listed => ?_) fun entry _ => ?_
          · have present := mem_keywordsOf.mp listed
            refine Structure.evaluate_agree _ _ _ _ hereditary_scalars (fun _ => scalar)
              (held inner entry.1 entry.2 present) ?_ scalar
            rintro - other schema (rfl | rfl) branch <;> exact held inner _ _ branch _ (List.mem_singleton_self _)
          · exact Structure.evaluate_plain_value (argumentWith_keep noReference_keeps entry.2 _)
              (fun other listed => (nodeWith_keep noReference_keeps _ other listed).self) _ _
      refine ⟨rfl, runs, fun value scalar extent => ?_, alone_keeps _⟩
      rw [alone_enter closed, alone_enter closed]
      exact congrArg (given _ value) (funext fun _ => runs value scalar extent)

theorem answer_of_accepts {run : Options → Extent → Json → Outcome} {options : Options} {value : Json} {holds : Bool}
    (found : accepts run options value = .ok holds) : (run options .first value).answer = some holds := by
  unfold accepts at found
  simp only at found
  split at found
  · cases found
  · next ended => rw [answer_of_end ended, Except.ok.inj found]

/-- Schemas that differ in the order of keys only accept the same scalars under any options. -/
theorem accepts_rearranged {schema schema' : Json} (rearranged : Rearranged schema schema') {options : Options}
    {value : Json} (scalar : value.IsScalar) {holds holds' : Bool}
    (found : accepts (alone schema).run options value = .ok holds)
    (found' : accepts (alone schema').run options value = .ok holds') : holds' = holds := by
  have said := answer_of_accepts found
  have said' := answer_of_accepts found'
  rw [(agrees_on_scalars rearranged.closed options).run value scalar] at said
  rw [(agrees_on_scalars rearranged.closed' options).run value scalar] at said'
  exact (accords_of_rearranged rearranged).runs .first .first value value (.scalar scalar.1 scalar.2) _ _ said said'

theorem firstAccepted_rearranged {schema schema' : Json} (rearranged : Rearranged schema schema') {options : Options}
    {value : Json} {branches branches' : List Part} (related : List.Forall₂ Part.ConvertsAs branches branches')
    (flat : ∀ branch ∈ branches, ∀ candidate, branch.coerce options value = .ok (some candidate) →
      candidate.isContainer = false) {converted converted' : Option Json}
    (found : firstAccepted (alone schema).run options value branches = .ok converted)
    (found' : firstAccepted (alone schema').run options value branches' = .ok converted') :
    converted' = converted := by
  induction related with
  | nil => exact (Except.ok.inj found').symm.trans (Except.ok.inj found)
  | @cons branch branch' rest rest' first later ih =>
      have ih := ih fun other listed => flat other (List.mem_cons_of_mem _ listed)
      rw [firstAccepted] at found found'
      obtain ⟨candidate, coerced, found⟩ := bind_eq_ok.mp found
      obtain ⟨candidate', coerced', found'⟩ := bind_eq_ok.mp found'
      obtain rfl := first.coerce options value _ _ coerced coerced'
      cases candidate' with
      | none => exact ih found found'
      | some candidate =>
          have scalar := Json.isScalar_of_isContainer (flat branch List.mem_cons_self candidate coerced)
          obtain ⟨holds, tried, found⟩ := bind_eq_ok.mp found
          obtain ⟨holds', tried', found'⟩ := bind_eq_ok.mp found'
          obtain rfl := accepts_rearranged rearranged scalar tried tried'
          cases holds' with
          | true => exact (Except.ok.inj found').symm.trans (Except.ok.inj found)
          | false => exact ih found found'

theorem declaredTypes_reordered {schema schema' : Json} (related : Reordered schema schema') :
    Coercion.declaredTypes schema' = Coercion.declaredTypes schema := by
  unfold Coercion.declaredTypes
  rcases related.child? (.text "type") with ⟨missing, missing'⟩ | ⟨type, type', found, found', typed⟩
  · simp only [Json.child?] at missing missing'
    rw [missing, missing']
  · simp only [Json.child?] at found found'
    rw [found, found']
    cases typed with
    | scalar => rfl
    | object => rfl
    | array lengths each =>
        have pairs := (Reordered.array lengths each).items
        clear each lengths found found'
        simp only
        induction pairs with
        | nil => rfl
        | cons first _ ih =>
            rw [List.filterMap_cons, List.filterMap_cons, ih]
            cases first <;> rfl

theorem forall₂_of_mapM {ε α β γ : Type} {r : β → γ → Prop} {f : α → Except ε β} {g : α → Except ε γ}
    {items : List α}
    (each : ∀ item ∈ items, ∀ b c, f item = .ok b → g item = .ok c → r b c) {results : List β} {results' : List γ}
    (mapped : items.mapM f = .ok results) (mapped' : items.mapM g = .ok results') :
    List.Forall₂ r results results' := by
  induction items generalizing results results' with
  | nil =>
      obtain rfl := Except.ok.inj mapped
      obtain rfl := Except.ok.inj mapped'
      exact .nil
  | cons item rest ih =>
      rw [List.mapM_cons] at mapped mapped'
      obtain ⟨b, first, mapped⟩ := bind_eq_ok.mp mapped
      obtain ⟨later, listed, ended⟩ := bind_eq_ok.mp mapped
      obtain ⟨c, first', mapped'⟩ := bind_eq_ok.mp mapped'
      obtain ⟨later', listed', ended'⟩ := bind_eq_ok.mp mapped'
      obtain rfl := Except.ok.inj ended
      obtain rfl := Except.ok.inj ended'
      exact .cons (each item List.mem_cons_self b c first first')
        (ih (fun other member => each other (List.mem_cons_of_mem _ member)) listed listed')

theorem forall₂_filter {α β : Type} {r : α → β → Prop} {p : α → Bool} {q : β → Bool} {items : List α}
    {others : List β}
    (related : List.Forall₂ r items others) (same : ∀ item other, r item other → q other = p item) :
    List.Forall₂ r (items.filter p) (others.filter q) := by
  induction related with
  | nil => exact .nil
  | cons first _ ih =>
      rw [List.filter_cons, List.filter_cons, same _ _ first]
      split
      · exact .cons first ih
      · exact ih

/-- The branches that coercion tries are the same in the same order. -/
theorem coercionBranches_rearranged {fields others : List (Key × Json)}
    (rearranged : Rearranged (.object fields) (.object others))
    (held : ∀ keyword argument, Fields.get? fields (.text keyword) = some argument → ∀ schema ∈ argument.items,
      ∀ schema', Rearranged schema schema' → (alone schema).ConvertsAs (alone schema'))
    {branches branches' : List Part} (found : coercionBranches (nodeWith noReference "" fields) = .ok branches)
    (found' : coercionBranches (nodeWith noReference "" others) = .ok branches') :
    List.Forall₂ Part.ConvertsAs branches branches' := by
  unfold coercionBranches at found found'
  obtain ⟨lists, listed, ended⟩ := bind_eq_ok.mp found
  obtain ⟨lists', listed', ended'⟩ := bind_eq_ok.mp found'
  obtain rfl := Except.ok.inj ended
  obtain rfl := Except.ok.inj ended'
  refine forall₂_filter (List.rel_flatten (forall₂_of_mapM ?_ listed listed')) fun _ _ converts => converts.isObject
  intro keyword branching list list' taken taken'
  have holds : ∀ argument, heldBy keyword argument = argument.items := by
    simp only [List.mem_cons, List.not_mem_nil, or_false] at branching
    rcases branching with rfl | rfl | rfl <;> exact fun _ => rfl
  rw [argument?_nodeWith] at taken taken'
  rcases rearranged.reordered.get? (.text keyword) with ⟨missing, missing'⟩ | ⟨argument, argument', there, there',
    related⟩
  · rw [missing] at taken
    rw [missing'] at taken'
    obtain rfl := Except.ok.inj taken
    obtain rfl := Except.ok.inj taken'
    exact .nil
  · rw [there] at taken
    rw [there'] at taken'
    simp only [Option.map_some, argumentWith_self, partWith_schema, related.isTruthy] at taken taken'
    split at taken
    · next truthy =>
        rw [if_pos truthy] at taken'
        obtain ⟨schemas, isArray, -⟩ : Metaschema.IsSchemas argument := by
          simp only [List.mem_cons, List.not_mem_nil, or_false] at branching
          rcases branching with rfl | rfl | rfl <;> exact rearranged.passes.suits there
        have isArray : argument.isArray = true := by rw [isArray]; rfl
        rw [Structure.branches_of_array isArray] at taken
        rw [Structure.branches_of_array (related.isArray.trans isArray)] at taken'
        obtain rfl := Except.ok.inj taken
        obtain rfl := Except.ok.inj taken'
        refine Structure.items_matched related fun item listed item' listed' reordered => ?_
        exact held _ _ there item listed item'
          (rearranged.held there there' (holds argument ▸ listed) (holds argument' ▸ listed') reordered)
    · next absent =>
        rw [if_neg absent] at taken'
        obtain rfl := Except.ok.inj taken
        obtain rfl := Except.ok.inj taken'
        exact .nil

theorem coerce_alone (fields : List (Key × Json)) :
    (alone (.object fields)).coerce =
      coerceNode fields (nodeWith noReference "" fields) (alone (.object fields)).run := by
  rw [alone, partWith_object]

/-- What two schemas that differ in the order of keys only convert a value to does not differ. -/
theorem convertsAs_of_rearranged {schema : Json} :
    ∀ {schema'}, Rearranged schema schema' → (alone schema).ConvertsAs (alone schema') := by
  induction schema using Json.schemaInduction with
  | flat schema notObject =>
      intro schema' rearranged
      have isObject := rearranged.reordered.isObject
      rw [alone, alone, partWith_flat _ _ notObject, partWith_flat _ _ (isObject.trans notObject)]
      refine ⟨isObject, fun options value converted converted' coerced coerced' => ?_⟩
      exact (Except.ok.inj coerced').symm.trans (Except.ok.inj coerced)
  | object fields ih =>
      intro schema' rearranged
      obtain ⟨others, rfl⟩ := rearranged.object
      refine ⟨rfl, fun options value converted converted' coerced coerced' => ?_⟩
      rw [coerce_alone, coerceNode] at coerced coerced'
      split at coerced
      · next container =>
          rw [if_pos container] at coerced'
          exact (Except.ok.inj coerced').symm.trans (Except.ok.inj coerced)
      · next flat =>
          rw [if_neg flat, declaredTypes_reordered rearranged.reordered] at coerced'
          split at coerced
          · next none =>
              rw [none] at coerced'
              obtain ⟨branches, listed, coerced⟩ := bind_eq_ok.mp coerced
              obtain ⟨branches', listed', coerced'⟩ := bind_eq_ok.mp coerced'
              have related := coercionBranches_rearranged rearranged
                (fun keyword argument found schema listed schema' inner =>
                  (ih _ (Fields.mem_of_get? found)).2.1 schema listed inner) listed listed'
              have scalars : ∀ branch ∈ branches, ∀ candidate, branch.coerce options value = .ok (some candidate) →
                  candidate.isContainer = false := by
                intro branch member candidate made
                obtain ⟨entry, -, schema, -, rfl⟩ := mem_coercionBranches listed member
                exact coerce_flat schema made
              cases related with
              | nil => exact (Except.ok.inj coerced').symm.trans (Except.ok.inj coerced)
              | cons first later =>
                  obtain ⟨holds, tried, coerced⟩ := bind_eq_ok.mp coerced
                  obtain ⟨holds', tried', coerced'⟩ := bind_eq_ok.mp coerced'
                  have scalar := Json.isScalar_of_isContainer (Bool.eq_false_iff.mpr flat)
                  obtain rfl := accepts_rearranged rearranged scalar tried tried'
                  cases holds' with
                  | true => exact (Except.ok.inj coerced').symm.trans (Except.ok.inj coerced)
                  | false => exact firstAccepted_rearranged rearranged (.cons first later) scalars coerced coerced'
          · next types =>
              split at coerced'
              · next none => exact absurd none types
              · exact Except.ok.inj (coerced'.symm.trans coerced)

end Evaluation

end SchemaAlgebra
