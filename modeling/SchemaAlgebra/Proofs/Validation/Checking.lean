import SchemaAlgebra.Proofs.Validation.Outcome
import SchemaAlgebra.Proofs.Validation.Subschema

/-!
Without normalization evaluation only checks: whatever the schema is and whatever it refers to, the value
comes out as it went in. Each keyword keeps the value if its parts do; the induction on the schema ties the
parts together, and the induction on the number of references in a row ties the scope.
-/

namespace SchemaAlgebra

/-- The part leaves every value as it is. -/
def Part.Keeps (part : Part) (options : Options) : Prop :=
  ∀ extent value, (part.run options extent value).value = value ∧
    (part.enter options extent value).value = value

/-- Every part of an argument leaves every value as it is. -/
structure Parts.Keep (argument : Parts) (options : Options) : Prop where
  self : argument.self.Keeps options
  items : ∀ part ∈ argument.items, part.Keeps options
  members : ∀ member ∈ argument.members, member.2.Keeps options

namespace Part

variable {part : Part} {options : Options} {extent : Extent}

theorem runFlat_value (schema value : Json) : (runFlat schema value).value = value := by
  unfold runFlat
  split <;> try rfl
  · exact Outcome.reject_value ..
  · split <;> rfl

theorem flat_keeps (schema : Json) : (flat schema).Keeps options := by
  intro extent value
  exact ⟨runFlat_value schema value, Outcome.given_value fun _ _ => runFlat_value schema value⟩

theorem descend_value (keeps : part.Keeps options) (step : Step) (value : Json) :
    (part.descend options extent step value).value = value := by
  unfold descend
  split
  · next child found =>
      change value.setChild step (part.enter options extent child).value = value
      rw [(keeps extent child).2, Json.setChild_of_child? found]
  · rfl

theorem probe_value (keeps : part.Keeps options) {value : Json} {decide : Bool → Json → Outcome}
    (decided : ∀ valid, (decide valid value).value = value) :
    (part.probe options value decide).value = value := by
  have kept := (keeps .first value).1
  simp only [probe]
  split
  · exact kept
  · rw [kept]
    exact decided _

end Part

namespace Keyword

theorem checkType_value (argument value : Json) : (checkType argument value).value = value := by
  simp only [checkType]
  split
  · rfl
  · split <;> simp

theorem checkEnum_value (argument value : Json) : (checkEnum argument value).value = value := by
  unfold checkEnum
  split
  · split <;> simp
  · rfl

theorem checkConst_value (argument value : Json) : (checkConst argument value).value = value := by
  unfold checkConst
  split <;> simp

theorem checkBound_value (keyword : String) (refused : Number → Number → Bool) (verdict : String)
    (argument value : Json) : (checkBound keyword refused verdict argument value).value = value := by
  unfold checkBound
  split <;> try rfl
  split <;> simp

theorem checkMultiple_value (argument value : Json) :
    (checkMultiple argument value).value = value := by
  unfold checkMultiple
  split <;> try rfl
  split <;> simp

theorem checkSize_value (keyword : String) (size : Nat) (refused : Number → Number → Bool)
    (special : Int) (specialVerdict verdict : String) (argument value : Json) :
    (checkSize keyword size refused special specialVerdict verdict argument value).value = value := by
  unfold checkSize
  split
  · rfl
  · split <;> simp

theorem checkUnique_value (argument value : Json) : (checkUnique argument value).value = value := by
  unfold checkUnique
  split
  · split <;> simp
  · rfl

theorem checkPattern_value (argument value : Json) : (checkPattern argument value).value = value := by
  unfold checkPattern
  split
  · split
    · rfl
    · split <;> simp
  · rfl
  · rfl

theorem checkFormat_value (argument value : Json) : (checkFormat argument value).value = value := by
  unfold checkFormat
  split
  · split <;> simp
  · split <;> simp

/-- A keyword without subschemas never changes the value. -/
theorem check_value (keyword : String) (argument value : Json) :
    (check keyword argument value).value = value := by
  unfold check
  split
  · exact checkType_value ..
  · exact checkEnum_value ..
  · exact checkConst_value ..
  · exact checkBound_value ..
  · exact checkBound_value ..
  · exact checkBound_value ..
  · exact checkBound_value ..
  · exact checkMultiple_value ..
  -- the six sizes: of a text, of an array, of an object
  iterate 6
    · split
      · exact checkSize_value ..
      · rfl
  · exact checkUnique_value ..
  · exact checkPattern_value ..
  · exact checkFormat_value ..
  · rfl

end Keyword

namespace Structure

open Outcome

variable {options : Options} {extent : Extent} {argument : Parts} {part : Part} {node : Node}

theorem named_members {members : List (Key × Part)} (found : argument.named = .ok members) :
    members = argument.members := by
  unfold Parts.named at found
  split at found
  · exact (Except.ok.inj found).symm
  · simp at found

theorem branches_keep (keep : argument.Keep options) {branches : List Part}
    (found : argument.branches = .ok branches) : ∀ branch ∈ branches, branch.Keeps options := by
  unfold Parts.branches at found
  split at found
  · rw [← Except.ok.inj found]
    exact keep.items
  · split at found
    · rw [← Except.ok.inj found]
      intro branch member
      obtain ⟨element, -, rfl⟩ := List.mem_map.mp member
      exact Part.flat_keeps element
    · simp at found

theorem mem_atIndices {start : Nat} {parts : List Part} {entry : Nat × Part}
    (member : entry ∈ atIndices start parts) : entry.2 ∈ parts := by
  induction parts generalizing start with
  | nil => simp [atIndices] at member
  | cons part rest ih =>
      rcases List.mem_cons.mp member with rfl | later
      · simp
      · exact List.mem_cons_of_mem _ (ih later)

theorem mem_itemParts {count : Nat} {entry : Nat × Part} (member : entry ∈ itemParts argument count) :
    entry.2 = argument.self ∨ entry.2 ∈ argument.items := by
  unfold itemParts at member
  split at member
  · exact .inr (List.mem_of_mem_take (mem_atIndices member))
  · exact .inl (List.eq_of_mem_replicate (mem_atIndices member))

theorem properties_plain_value (keep : argument.Keep .plain) (value : Json) :
    (properties argument .plain extent value).value = value := by
  unfold properties
  split
  · apply given_value
    intro members found
    rw [named_members found]
    apply chain_value
    simp only [Options.plain, Bool.false_eq_true, if_false, List.nil_append, List.mem_map,
      forall_exists_index, and_imp, forall_apply_eq_imp_iff₂]
    intro member present
    exact Part.descend_value (keep.members member present) _ _
  · rfl

theorem required_plain_value (argument value : Json) :
    (required node argument .plain extent value).value = value := by
  unfold required
  split
  · simp only [Options.plain, Bool.false_eq_true, if_false]
    split
    · apply chain_value
      simp only [List.mem_map, forall_exists_index, and_imp, forall_apply_eq_imp_iff₂]
      intro name _
      apply given_value
      intro present _
      split <;> simp
    · rfl
  · rfl

theorem patternProperties_plain_value (keep : argument.Keep .plain) (value : Json) :
    (patternProperties argument .plain extent value).value = value := by
  unfold patternProperties
  split
  · apply given_value
    intro members found
    rw [named_members found]
    apply chain_value
    simp only [Options.plain, Bool.false_eq_true, if_false, List.nil_append, List.mem_map,
      forall_exists_index, and_imp, forall_apply_eq_imp_iff₂]
    intro member present
    apply given_value
    intro names _
    apply chain_value
    simp only [List.mem_map, forall_exists_index, and_imp, forall_apply_eq_imp_iff₂]
    intro name _
    exact Part.descend_value (keep.members member present) _ _
  · rfl

theorem additionalProperties_plain_value (keeps : part.Keeps .plain) (value : Json) :
    (additionalProperties node part .plain extent value).value = value := by
  unfold additionalProperties
  split
  · apply given_value
    intro names _
    simp only [Options.plain, Bool.false_and, Bool.false_eq_true, if_false, List.nil_append]
    split
    · apply chain_value
      simp only [List.mem_map, forall_exists_index, and_imp, forall_apply_eq_imp_iff₂]
      intro name _
      exact Part.descend_value keeps _ _
    · split
      · rfl
      · exact given_value fun _ _ => reject_value ..
  · rfl

theorem propertyNames_value (value : Json) :
    (propertyNames part options extent value).value = value := by
  apply chain_value
  simp

theorem dependency_value (keeps : part.Keeps options) (property : Key) (value : Json) :
    (dependency property part options extent value).value = value := by
  unfold dependency
  split
  · split
    · apply chain_value
      simp only [List.mem_map, forall_exists_index, and_imp, forall_apply_eq_imp_iff₂]
      intro name _
      apply given_value
      intro present _
      split <;> simp
    · exact (keeps extent value).2
  · rfl

theorem dependencies_value (keep : ∀ member ∈ argument.members, member.2.Keeps options) (value : Json) :
    (dependencies argument options extent value).value = value := by
  unfold dependencies
  split
  · apply given_value
    intro members found
    rw [named_members found]
    apply chain_value
    simp only [List.mem_map, forall_exists_index, and_imp, forall_apply_eq_imp_iff₂]
    intro member present
    exact dependency_value (keep member present) _ _
  · rfl

theorem items_plain_value (keep : argument.Keep .plain) (value : Json) :
    (items argument .plain extent value).value = value := by
  apply chain_value
  simp only [Options.plain, Bool.false_eq_true, if_false, List.nil_append, List.mem_map,
    forall_exists_index, and_imp, forall_apply_eq_imp_iff₂]
  intro entry member
  apply Part.descend_value
  rcases mem_itemParts member with same | listed
  · rw [same]
    exact keep.self
  · exact keep.items _ listed

theorem additionalItems_value (keeps : part.Keeps options) (value : Json) :
    (additionalItems node part options extent value).value = value := by
  unfold additionalItems
  split
  · split
    · rfl
    · apply given_value
      intro count _
      simp only
      split
      · apply chain_value
        simp only [List.mem_map, forall_exists_index, and_imp, forall_apply_eq_imp_iff₂]
        intro entry member
        apply Part.descend_value
        rw [List.eq_of_mem_replicate (mem_atIndices member)]
        exact keeps
      · split <;> simp
  · rfl

theorem contains_look_value (keeps : part.Keeps options) (indices : List Nat) (value : Json) :
    (contains.look part options indices value).value = value := by
  induction indices generalizing value with
  | nil => exact reject_value ..
  | cons i rest ih =>
      rw [contains.look]
      split
      · exact ih value
      · next item found =>
          simp only [(keeps .first item).1, Json.setChild_of_child? found]
          split
          · rfl
          · split
            · rfl
            · exact ih value

theorem contains_value (keeps : part.Keeps options) (value : Json) :
    (contains part options value).value = value := by
  unfold contains
  split
  · exact contains_look_value keeps _ _
  · rfl

theorem allOf_value {branches : List Part} (keep : ∀ branch ∈ branches, branch.Keeps options)
    (value : Json) : (allOf branches options extent value).value = value := by
  apply chain_value
  simp only [List.mem_map, forall_exists_index, and_imp, forall_apply_eq_imp_iff₂]
  intro branch member
  exact (keep branch member extent value).2

/-- The value after looking for the first branch that accepts. -/
theorem firstValid_value {branches : List Part} (keep : ∀ branch ∈ branches, branch.Keeps options)
    (value : Json) :
    (∀ left fault, firstValid options branches value = .error (left, fault) → left = value) ∧
      ∀ left found, firstValid options branches value = .ok (left, found) → left = value ∧
        ∀ branch rest, found = some (branch, rest) → ∀ other ∈ rest, other ∈ branches := by
  induction branches with
  | nil => simp [firstValid, eq_comm]
  | cons branch rest ih =>
      have kept := (keep branch (by simp) .all value).2
      obtain ⟨failed, found⟩ := ih fun other member => keep other (by simp [member])
      simp only [firstValid]
      split
      · simp [kept, eq_comm]
      · split
        · rw [kept]
          refine ⟨by simp, fun left choice equal => ?_⟩
          obtain ⟨rfl, rfl⟩ := Prod.mk.inj (Except.ok.inj equal)
          refine ⟨rfl, fun branch' rest' chosen other member => ?_⟩
          obtain ⟨rfl, rfl⟩ := Prod.mk.inj (Option.some.inj chosen)
          exact List.mem_cons_of_mem _ member
        · rw [kept]
          refine ⟨failed, fun left choice equal => ⟨(found left choice equal).1, ?_⟩⟩
          intro branch' rest' chosen other member
          exact List.mem_cons_of_mem _ ((found left choice equal).2 branch' rest' chosen other member)

theorem noBranch_value (keyword : String) (value : Json) : (noBranch keyword value).value = value :=
  reject_value ..

theorem anyOf_value {branches : List Part} (keep : ∀ branch ∈ branches, branch.Keeps options)
    (value : Json) : (anyOf branches options value).value = value := by
  obtain ⟨failed, found⟩ := firstValid_value keep value
  unfold anyOf
  split
  · next left fault equal => exact failed left fault equal
  · next left _ equal => exact (found left _ equal).1
  · next left equal => rw [noBranch_value, (found left _ equal).1]

theorem accepting_value {branches : List Part} (keep : ∀ branch ∈ branches, branch.Keeps options)
    (value : Json) :
    (∀ left fault, accepting options branches value = .error (left, fault) → left = value) ∧
      ∀ left others, accepting options branches value = .ok (left, others) → left = value := by
  induction branches with
  | nil => simp [accepting, eq_comm]
  | cons branch rest ih =>
      have kept := (keep branch (by simp) .first value).1
      obtain ⟨failed, found⟩ := ih fun other member => keep other (by simp [member])
      simp only [accepting]
      split
      · simp [kept, eq_comm]
      · rw [kept]
        cases later : accepting options rest value with
        | error ending =>
            refine ⟨fun left fault equal => ?_, fun left others equal => ?_⟩
            · exact failed left fault (later.trans equal)
            · simp [bind, Except.bind] at equal
        | ok ending =>
            refine ⟨fun left fault equal => ?_, fun left others equal => ?_⟩
            · simp [bind, Except.bind, pure, Except.pure] at equal
            · rw [← (Prod.mk.inj (Except.ok.inj equal)).1]
              exact found ending.1 ending.2 later

theorem oneOf_value {branches : List Part} (keep : ∀ branch ∈ branches, branch.Keeps options)
    (value : Json) : (oneOf branches options value).value = value := by
  obtain ⟨failed, found⟩ := firstValid_value keep value
  unfold oneOf
  split
  · next left fault equal => exact failed left fault equal
  · next left equal => rw [noBranch_value, (found left _ equal).1]
  · next left branch rest equal =>
      obtain ⟨rfl, listed⟩ := found left _ equal
      obtain ⟨failed', found'⟩ := accepting_value (fun other member =>
        keep other (listed branch rest rfl other member)) left
      split
      · next left' fault equal' => exact failed' left' fault equal'
      · next left' equal' => exact found' left' _ equal'
      · next left' others _ equal' =>
          simp only [reject_value]
          exact found' left' others equal'

theorem negation_value (keeps : part.Keeps options) (value : Json) :
    (negation part options value).value = value := by
  apply Part.probe_value keeps
  intro valid
  split <;> simp

theorem conditional_value (keeps : part.Keeps options)
    (keep : ∀ entry ∈ node, entry.2.self.Keeps options) (value : Json) :
    (conditional node part options extent value).value = value := by
  apply Part.probe_value keeps
  intro valid
  split
  · next parts found => exact (keep _ (Fields.mem_of_get? found) extent value).2
  · rfl

/-- Without normalization no keyword changes the value. -/
theorem evaluate_plain_value (keep : argument.Keep .plain)
    (others : ∀ entry ∈ node, entry.2.self.Keeps .plain) (keyword : String) (value : Json) :
    (evaluate node keyword argument .plain extent value).value = value := by
  unfold evaluate
  split
  · rfl
  · exact properties_plain_value keep value
  · exact required_plain_value ..
  · exact patternProperties_plain_value keep value
  · exact additionalProperties_plain_value keep.self value
  · exact propertyNames_value value
  · exact dependencies_value keep.members value
  · exact items_plain_value keep value
  · exact additionalItems_value keep.self value
  · exact contains_value keep.self value
  · exact given_value fun _ found => allOf_value (branches_keep keep found) value
  · exact given_value fun _ found => anyOf_value (branches_keep keep found) value
  · exact given_value fun _ found => oneOf_value (branches_keep keep found) value
  · exact negation_value keep.self value
  · exact conditional_value keep.self others value
  · exact Keyword.check_value ..

end Structure

namespace Evaluation

/-- References lead to evaluations that leave every value as it is. -/
def Meaning.Keeps (meaning : Meaning) : Prop :=
  ∀ location reference extent value, (meaning location reference .plain extent value).value = value

theorem optionsIn_plain {fields : List (Key × Json)} {options : Options}
    (found : optionsIn fields .plain = .ok options) : options = .plain := by
  unfold optionsIn at found
  split at found
  · split at found <;> exact (Except.ok.inj found).symm
  · split at found
    · simp at found
    · split at found
      · simp at found
      · exact (Except.ok.inj found).symm
  · exact (Except.ok.inj found).symm

variable {meaning : Meaning}

theorem evaluateNode_plain_value (kept : meaning.Keeps) (location : String)
    (fields : List (Key × Json)) {node : Node} (keep : ∀ entry ∈ node, entry.2.Keep .plain)
    (extent : Extent) (value : Json) :
    (evaluateNode meaning location fields node .plain extent value).value = value := by
  have chained : (Outcome.chain extent (node.map fun entry =>
      Structure.evaluate node entry.1 entry.2 .plain extent) value).value = value := by
    apply Outcome.chain_value
    simp only [List.mem_map, forall_exists_index, and_imp, forall_apply_eq_imp_iff₂]
    intro entry member
    exact Structure.evaluate_plain_value (keep entry member)
      (fun other present => (keep other present).self) _ _
  unfold evaluateNode
  split
  · exact chained
  · exact chained
  · exact kept _ _ _ _

theorem runNode_plain_value (kept : meaning.Keeps) (location : String)
    (fields : List (Key × Json)) {node : Node} (keep : ∀ entry ∈ node, entry.2.Keep .plain)
    (extent : Extent) (value : Json) :
    (runNode meaning fields node location .plain extent value).value = value := by
  apply Outcome.given_value
  intro options found
  rw [optionsIn_plain found]
  exact evaluateNode_plain_value kept location fields keep extent value

theorem argumentWith_keep_of {argument : Json} {location : String}
    (self : (partWith meaning location argument).Keeps .plain)
    (items : ∀ item ∈ argument.items, (partWith meaning location item).Keeps .plain)
    (members : ∀ member ∈ argument.members, (partWith meaning location member.2).Keeps .plain) :
    (argumentWith meaning location argument).Keep .plain := by
  refine ⟨self, fun part listed => ?_, fun part listed => ?_⟩
  · obtain ⟨schema, found, rfl⟩ := mem_argumentWith_items meaning location listed
    exact items schema found
  · obtain ⟨schema, found, equal⟩ := mem_argumentWith_members meaning location listed
    rw [equal]
    exact members _ found

/-- Without normalization a schema leaves every value as it is, if what it refers to does. -/
theorem partWith_keeps (kept : meaning.Keeps) (schema : Json) :
    ∀ location, (partWith meaning location schema).Keeps .plain := by
  induction schema using Json.schemaInduction with
  | flat schema notObject =>
      intro location
      rw [partWith_flat meaning location notObject]
      exact Part.flat_keeps schema
  | object fields ih =>
      have keep : ∀ location, ∀ entry ∈ nodeWith meaning location fields, entry.2.Keep .plain := by
        intro location entry member
        obtain ⟨argument, present, same⟩ := mem_nodeWith meaning location member
        obtain ⟨self, items, members⟩ := ih _ present
        rw [same]
        exact argumentWith_keep_of (self location) (fun item listed => items item listed location)
          fun member listed => members member listed location
      intro location extent value
      refine ⟨runNode_plain_value kept location fields (keep location) extent value, ?_⟩
      exact Outcome.given_value fun inner _ =>
        runNode_plain_value kept inner fields (keep inner) extent value

theorem argumentWith_keep (kept : meaning.Keeps) (argument : Json) (location : String) :
    (argumentWith meaning location argument).Keep .plain :=
  argumentWith_keep_of (partWith_keeps kept argument location)
    (fun item _ => partWith_keeps kept item location)
    fun member _ => partWith_keeps kept member.2 location

theorem nodeWith_keep (kept : meaning.Keeps) {fields : List (Key × Json)} (location : String) :
    ∀ entry ∈ nodeWith meaning location fields, entry.2.Keep .plain := by
  intro entry member
  obtain ⟨argument, -, same⟩ := mem_nodeWith meaning location member
  rw [same]
  exact argumentWith_keep kept argument location

theorem meaningIn_keeps {part : String → Json → Part} (scope : Reference.Scope)
    (keep : ∀ location schema, (part location schema).Keeps .plain) : (meaningIn part scope).Keeps := by
  intro location reference extent value
  exact Outcome.given_value fun found _ => (keep found.1 found.2 extent value).1

/-- Without normalization evaluation leaves every value as it is, in any scope. -/
theorem partIn_keeps (scope : Reference.Scope) (count : Nat) :
    ∀ location schema, (partIn scope count location schema).Keeps .plain := by
  induction count with
  | zero =>
      intro location schema
      exact partWith_keeps (fun _ _ _ _ => rfl) schema location
  | succ count ih =>
      intro location schema
      exact partWith_keeps (meaningIn_keeps scope ih) schema location

theorem meaningIn_partIn_keeps (scope : Reference.Scope) (count : Nat) :
    (meaningIn (partIn scope count) scope).Keeps :=
  meaningIn_keeps scope (partIn_keeps scope count)

end Evaluation

end SchemaAlgebra
