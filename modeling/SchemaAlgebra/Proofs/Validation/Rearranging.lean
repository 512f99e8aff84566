import SchemaAlgebra.Proofs.Validation.Filling
import SchemaAlgebra.Proofs.Validation.Verdict

/-!
Validation in two orders of keys. The keywords of a schema object are evaluated in the order of its keys. Where
none of them edits what another one looks at, each does in one order what it does in the other: the row of them
ends alike. So validation says the same in every order of keys, and gives the same values up to that order.
-/

namespace SchemaAlgebra

open Outcome Evaluation Schema
open Json (Reordered SameShape IsExact child?)

variable {options : Options} {fields others : List (Key × Json)} {extent extent' : Extent} {keyword : String}
  {value value' last : Json}

namespace Schema

/-- Evaluate a keyword of a schema object, if it is there. -/
def keywordStep (options : Options) (fields : List (Key × Json)) (extent : Extent) (keyword : String)
    (value : Json) :
    Outcome :=
  match Fields.get? fields (.text keyword) with
  | some argument =>
      Structure.evaluate (nodeWith noReference "" fields) keyword
        (argumentWith noReference "" argument) options extent value
  | none => accept value

/-- The keywords of a schema object, in order. -/
def keywordNames (fields : List (Key × Json)) : List String :=
  (keywordsOf fields).map Prod.fst

theorem keywordStep_of_get? {argument : Json} (found : Fields.get? fields (.text keyword) = some argument) :
    keywordStep options fields extent keyword =
      Structure.evaluate (nodeWith noReference "" fields) keyword
        (argumentWith noReference "" argument) options extent := by
  funext value
  rw [keywordStep, found]

theorem mem_keywordNames : keyword ∈ keywordNames fields ↔ Fields.has fields keyword = true := by
  rw [Fields.has_iff_mem_keys, keywordNames, List.mem_map]
  constructor
  · rintro ⟨entry, listed, rfl⟩
    exact List.mem_map_of_mem (mem_keywordsOf.mp listed)
  · intro listed
    obtain ⟨entry, present, same⟩ := List.mem_map.mp listed
    exact ⟨(keyword, entry.2), mem_keywordsOf.mpr (same ▸ present), rfl⟩

theorem keywordNames_eq (fields : List (Key × Json)) :
    keywordNames fields = (Fields.keys fields).filterMap Key.text? := by
  simp only [keywordNames, keywordsOf, Fields.keys, List.map_filterMap, List.filterMap_map]
  refine List.filterMap_congr fun entry _ => ?_
  simp [Option.map_map, Function.comp_def]

theorem nodup_keywordNames (formed : (Json.object fields).wellFormed = true) : (keywordNames fields).Nodup := by
  obtain ⟨-, distinct, -⟩ := (Json.wellFormed_object fields).mp formed
  rw [keywordNames_eq]
  refine distinct.filterMap fun key key' name named named' => ?_
  cases key <;> cases key' <;> simp_all [Key.text?]

theorem keywordNames_perm (node : Reordered (.object fields) (.object others)) :
    (keywordNames fields).Perm (keywordNames others) := by
  rw [keywordNames_eq, keywordNames_eq]
  exact node.keys.filterMap _

theorem evaluateNode_alone (formed : (Json.object fields).wellFormed = true)
    (closed : Reference.count "$ref" (.object fields) = 0) (options : Options) (extent : Extent) (value : Json) :
    evaluateNode noReference "" fields (nodeWith noReference "" fields) options extent value =
      chain extent ((keywordNames fields).map (keywordStep options fields extent)) value := by
  obtain ⟨-, distinct, -⟩ := (Json.wellFormed_object fields).mp formed
  rw [evaluateNode_closed noReference "" (has_of_closed closed), keywordNames, List.map_map]
  congr 1
  refine List.map_congr_left fun entry listed => ?_
  exact (keywordStep_of_get? (Fields.get?_of_mem distinct (mem_keywordsOf.mp listed))).symm

theorem filling_eq_none_iff (node : Reordered (.object fields) (.object others)) (names : Names fields)
    (step : Step) :
    filling options others step = none ↔ filling options fields step = none := by
  rw [← Option.not_isSome_iff_eq_none, ← Option.not_isSome_iff_eq_none, isSome_filling_reordered node names]

/-- The keywords that fill no defaults in look at nothing that is filled in. -/
theorem Apart.free (apart : Apart options fields) (has : Fields.has fields keyword = true)
    (aside : keyword ≠ "properties") (aside' : keyword ≠ "required") {aspect : Aspect}
    (reads : Reads fields keyword aspect) :
    filling options fields aspect.step = none := by
  by_contra some
  exact apart.defaults keyword has aside aside' aspect (Option.isSome_iff_ne_none.mpr some) reads

/-- No keyword takes away what is filled in. -/
theorem Apart.safe (apart : Apart options fields) (has : Fields.has fields keyword = true) {step : Step}
    (edits : Edits options fields keyword (.presence step)) : filling options fields step = none := by
  by_cases aside : keyword = "properties" ∨ keyword = "required"
  · cases edits with
    | removal => exact absurd aside (by decide)
    | branch => exact absurd aside (by decide)
    | choice => exact absurd aside (by decide)
  · rw [not_or] at aside
    exact apart.free has aside.1 aside.2 edits.reads

end Schema

/-- Evaluating a keyword in two orders of keys is local in what is seen with the defaults filled in, and leaves none
missing; `properties` sees to that. -/
structure Steady (options : Options) (fields others : List (Key × Json)) (extent extent' : Extent)
    (keyword : String) :
    Prop where
  locally : Local (seen options fields) (seen options others) (Reads fields keyword) (Edits options fields keyword)
    (keywordStep options fields extent keyword) (keywordStep options others extent' keyword)
  completes : ∀ value last, value.wellFormed = true → keywordStep options fields extent keyword value = accept last →
    keyword = "properties" ∨ Completed options fields value → Completed options fields last
  completes' : ∀ value last, value.wellFormed = true →
    keywordStep options others extent' keyword value = accept last →
    keyword = "properties" ∨ Completed options others value → Completed options others last

section

variable (rearranged : Rearranged (.object fields) (.object others)) (below : FollowBelow options fields others)
  (orderly : Orderly options fields) (has : Fields.has fields keyword = true)

include rearranged orderly has

theorem Schema.Orderly.safe' {step : Step} (edits : Edits options fields keyword (.presence step)) :
    filling options fields step = none ∧ filling options others step = none := by
  have none := orderly.apart.safe has edits
  exact ⟨none, (filling_eq_none_iff rearranged.reordered
    (names_of_passes rearranged.reordered.formed rearranged.passes) step).mpr none⟩

theorem Steady.of_free (aside : keyword ≠ "properties") (aside' : keyword ≠ "required")
    (locally : Local child? child? (Reads fields keyword) (Edits options fields keyword)
      (keywordStep options fields extent keyword) (keywordStep options others extent' keyword)) :
    Steady options fields others extent extent' keyword where
  locally := by
    have names := names_of_passes rearranged.reordered.formed rearranged.passes
    have free := fun (aspect : Aspect) (reads : Reads fields keyword aspect) =>
      orderly.apart.free has aside aside' reads
    exact locally.of_free free fun aspect reads =>
      (filling_eq_none_iff rearranged.reordered names aspect.step).mpr (free aspect reads)
  completes value last formed ran completed := (completed.resolve_left aside).of_changed
    (locally.frame value last formed ran) fun _ edits => (orderly.safe' rearranged has edits).1
  completes' value last formed ran completed := (completed.resolve_left aside).of_changed
    (locally.frame' value last formed ran) fun _ edits => (orderly.safe' rearranged has edits).2

theorem Steady.of_filled {operation operation' : Json → Outcome}
    (locally : Local child? child? (Reads fields keyword) (Edits options fields keyword) operation operation')
    (same : ∀ value, keywordStep options fields extent keyword value = operation (filled options fields value))
    (same' : ∀ value, keywordStep options others extent' keyword value = operation' (filled options others value)) :
    Steady options fields others extent extent' keyword := by
  have names := names_of_passes rearranged.reordered.formed rearranged.passes
  have names' := names.reordered rearranged.reordered
  have safe := fun (step : Step) (edits : Edits options fields keyword (.presence step)) =>
    orderly.safe' rearranged has edits
  constructor
  · rw [funext same, funext same']
    exact locally.of_filled names names' (fun step edits => (safe step edits).1) fun step edits =>
      (safe step edits).2
  · intro value last formed ran _
    rw [same] at ran
    exact (completed_filled names formed).of_changed
      (locally.frame _ last (filled_filled options names formed).formed ran)
      fun step edits => (safe step edits).1
  · intro value last formed ran _
    rw [same'] at ran
    exact (completed_filled names' formed).of_changed
      (locally.frame' _ last (filled_filled options names' formed).formed ran)
      fun step edits => (safe step edits).2

end

namespace Structure

/-- On what is no object nothing is done for its members. -/
theorem editing_members_flat (members : List (Key × Json)) (notObject : value.isObject = false) :
    chain extent (editing options extent (memberEntries noReference "" members)) value = accept value := by
  have absent : ∀ key, value.child? (.member key) = none := by
    intro key
    cases value <;> first | rfl | cases notObject
  refine chain_of_accept fun step listed => ?_
  rcases List.mem_append.mp listed with listed | listed
  · split at listed
    · obtain ⟨_, present, rfl⟩ := List.mem_map.mp listed
      obtain ⟨member, -, rfl⟩ := List.mem_map.mp present
      simp only [Part.coerceAt, absent]
    · cases listed
  · obtain ⟨_, present, rfl⟩ := List.mem_map.mp listed
    obtain ⟨member, -, rfl⟩ := List.mem_map.mp present
    simp only [Part.descend, absent]

theorem properties_eq_filled (value : Json) :
    properties (argumentWith noReference "" (.object (declared fields))) options extent value =
      chain extent (editing options extent (memberEntries noReference "" (declared fields)))
        (filled options fields value) := by
  cases isObject : value.isObject with
  | true => exact properties_eq _ isObject
  | false =>
      have same : filled options fields value = value := by
        rw [filled, fillDefaults_of_flat _ isObject, ite_self]
      rw [same, editing_members_flat _ isObject, properties, isObject, if_neg Bool.false_ne_true]

theorem required_eq_filled (argument value : Json) :
    required (nodeWith noReference "" fields) argument options extent value =
      required (nodeWith noReference "" fields) argument .plain extent (filled options fields value) := by
  cases isObject : value.isObject with
  | true =>
      have isObject' : (filled options fields value).isObject = true := by
        unfold filled
        split
        · generalize memberPartsWith noReference "" (declared fields) = members
          induction members generalizing value with
          | nil => exact isObject
          | cons member rest ih => exact ih _ (isObject_fillDefault member.1 isObject)
        · exact isObject
      simp only [required, isObject, isObject', if_true, declared_nodeWith, Options.plain, Bool.false_eq_true,
        if_false]
      rfl
  | false =>
      have same : filled options fields value = value := by
        rw [filled, fillDefaults_of_flat _ isObject, ite_self]
      rw [same, required, required, isObject, if_neg Bool.false_ne_true, if_neg Bool.false_ne_true]

end Structure

section

variable (rearranged : Rearranged (.object fields) (.object others)) (below : FollowBelow options fields others)
  (orderly : Orderly options fields)

include rearranged below orderly

/-- Every keyword of a schema object is steady. -/
theorem keyword_steady (has : Fields.has fields keyword = true) :
    Steady options fields others extent extent' keyword := by
  obtain ⟨argument, found⟩ := Option.isSome_iff_exists.mp has
  obtain ⟨argument', found', argued⟩ := rearranged.reordered.argument found
  have names := names_of_passes rearranged.reordered.formed rearranged.passes
  by_cases carrying : keyword ∈ "required" :: carryingKeywords
  · simp only [carryingKeywords, List.mem_cons, List.not_mem_nil, or_false] at carrying
    rcases carrying with rfl | rfl | rfl | rfl | rfl | rfl | rfl | rfl | rfl
    · have locally : Local child? child? (Reads fields "required") (Edits options fields "required")
          (Structure.required (nodeWith noReference "" fields) argument .plain extent)
          (Structure.required (nodeWith noReference "" others) argument' .plain extent') :=
        required_local rearranged found argued
      refine .of_filled rearranged orderly has locally (fun value => ?_) fun value => ?_
      · rw [keywordStep_of_get? found, ← Structure.required_eq_filled]
        simp only [Structure.evaluate, argumentWith_self, partWith_schema]
      · rw [keywordStep_of_get? found', ← Structure.required_eq_filled]
        simp only [Structure.evaluate, argumentWith_self, partWith_schema]
    · have locally : Local child? child? (Reads fields "properties") (Edits options fields "properties")
          (chain extent (editing options extent (memberEntries noReference "" (declared fields))))
          (chain extent' (editing options extent' (memberEntries noReference "" (declared others)))) :=
        properties_local rearranged below
      refine .of_filled rearranged orderly has locally (fun value => ?_) fun value => ?_
      · rw [keywordStep_of_get? found, ← Structure.properties_eq_filled, names.object_of_get? found]
        rfl
      · rw [keywordStep_of_get? found', ← Structure.properties_eq_filled,
          (names.reordered rearranged.reordered).object_of_get? found']
        rfl
    · refine .of_free rearranged orderly has (by decide) (by decide) ?_
      rw [keywordStep_of_get? found, keywordStep_of_get? found']
      exact patternProperties_local rearranged below orderly.apart found found'
    · refine .of_free rearranged orderly has (by decide) (by decide) ?_
      rw [keywordStep_of_get? found, keywordStep_of_get? found']
      exact additionalProperties_local rearranged found found' argued below
    · refine .of_free rearranged orderly has (by decide) (by decide) ?_
      rw [keywordStep_of_get? found, keywordStep_of_get? found']
      exact items_local rearranged below found found' argued
    · refine .of_free rearranged orderly has (by decide) (by decide) ?_
      rw [keywordStep_of_get? found, keywordStep_of_get? found']
      exact additionalItems_local rearranged below found found' argued
    · refine .of_free rearranged orderly has (by decide) (by decide) ?_
      rw [keywordStep_of_get? found, keywordStep_of_get? found']
      exact allOf_local rearranged below found found' argued
    all_goals
      refine .of_free rearranged orderly has (by decide) (by decide) ?_
      rw [keywordStep_of_get? found, keywordStep_of_get? found']
      exact local_of_kept (fun _ => rfl) (fun _ => rfl) fun _ _ _ => compatible_refl _
  · obtain ⟨notRequired, notCarrying⟩ := not_or.mp (List.mem_cons.not.mp carrying)
    have notProperties : keyword ≠ "properties" := by
      rintro rfl
      exact notCarrying (by decide)
    refine .of_free rearranged orderly has notProperties notRequired ?_
    by_cases isIf : keyword = "if"
    · subst isIf
      rw [keywordStep_of_get? found, keywordStep_of_get? found']
      exact conditional_local rearranged below found found' argued
        (orderly.inert found (by decide) argument (List.mem_singleton_self _))
    · rw [keywordStep_of_get? found, keywordStep_of_get? found']
      refine silent_local rearranged found found' argued ⟨fun aside => ?_, notRequired, ?_,
        fun same => absurd same isIf⟩
      · refine notCarrying ?_
        simp only [childKeywords, carryingKeywords, List.mem_cons, List.not_mem_nil, or_false] at aside ⊢
        tauto
      · intro other there naming schema listed
        exact orderly.inert there (by simp [naming, notCarrying]) schema listed

end

end SchemaAlgebra
