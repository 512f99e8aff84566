import SchemaAlgebra.Proofs.Json.Reordering

/-!
The names in an object that a schema object finds by its patterns, and those that are neither declared nor found.
Undeclared names are looked for with all patterns at once, as the branches of one expression; this says the same as
trying one pattern after the other only if the expression finds what some pattern finds.
-/

namespace SchemaAlgebra

namespace Schema

/-- The patterns of property names of a schema object, with their schemas. -/
def patterned (fields : List (Key × Json)) : List (Key × Json) :=
  match Fields.get? fields "patternProperties" with
  | some argument => argument.members
  | none => []

/-- The patterns of a schema object as the branches of one expression. -/
def joined (fields : List (Key × Json)) : String :=
  "|".intercalate ((patterned fields).filterMap fun member => member.1.text?)

/-- An expression can be read and finds a name. -/
def Finds (expression name : String) : Prop :=
  ∃ pattern, Pattern.parse expression = .ok pattern ∧ pattern.search name = true

/-- A name that is not declared and that the patterns, joined to one expression, do not find. -/
def Undeclared (fields : List (Key × Json)) (name : String) : Prop :=
  .text name ∉ declaredNames fields ∧ (joined fields ≠ "" →
    ∃ pattern, Pattern.parse (joined fields) = .ok pattern ∧ pattern.search name = false)

/-- The patterns, joined to one expression, can be read and find what some pattern finds. -/
structure Joins (fields : List (Key × Json)) : Prop where
  reads : joined fields ≠ "" → ∃ pattern, Pattern.parse (joined fields) = .ok pattern
  finds : ∀ name, (joined fields ≠ "" ∧ Finds (joined fields) name) ↔
    ∃ expression schema, (.text expression, schema) ∈ patterned fields ∧ Finds expression name

/-- The keywords that name properties have objects for arguments. -/
structure Names (fields : List (Key × Json)) : Prop where
  formed : (Json.object fields).wellFormed = true
  properties : ∀ argument, Fields.get? fields "properties" = some argument → argument.isObject = true
  patterns : ∀ argument, Fields.get? fields "patternProperties" = some argument → argument.isObject = true

variable {fields others : List (Key × Json)} {name : String}

theorem Joins.undeclared_iff (joins : Joins fields) :
    Undeclared fields name ↔ .text name ∉ declaredNames fields ∧
      ¬ ∃ expression schema, (.text expression, schema) ∈ patterned fields ∧ Finds expression name := by
  refine and_congr_right fun _ => ?_
  rw [← joins.finds]
  constructor
  · rintro found ⟨some, pattern, read, finds⟩
    obtain ⟨pattern', read', misses⟩ := found some
    obtain rfl := Except.ok.inj (read.symm.trans read')
    rw [misses] at finds
    cases finds
  · intro misses some
    obtain ⟨pattern, read⟩ := joins.reads some
    refine ⟨pattern, read, Bool.eq_false_iff.mpr fun finds => misses ⟨some, pattern, read, finds⟩⟩

/-- Without patterns nothing is joined. -/
theorem joins_of_missing (missing : Fields.get? fields "patternProperties" = none) : Joins fields where
  reads some := absurd (by simp [joined, patterned, missing]) some
  finds name := by simp [joined, patterned, missing]

theorem Names.object_of_get? {argument : Json} (names : Names fields)
    (found : Fields.get? fields "properties" = some argument) : argument = .object (declared fields) := by
  have isObject := names.properties argument found
  cases argument <;> simp_all [Json.isObject, declared, Json.members]

theorem Names.patterns_of_get? {argument : Json} (names : Names fields)
    (found : Fields.get? fields "patternProperties" = some argument) : argument = .object (patterned fields) := by
  have isObject := names.patterns argument found
  cases argument <;> simp_all [Json.isObject, patterned, Json.members]

theorem Names.declared_formed (names : Names fields) : (Json.object (declared fields)).wellFormed = true := by
  cases found : Fields.get? fields "properties" with
  | none => simp [declared, found, Json.wellFormed_object, Fields.keys]
  | some argument =>
      rw [← names.object_of_get? found]
      exact ((Json.wellFormed_object fields).mp names.formed).2.2 _ (Fields.mem_of_get? found)

theorem Names.patterned_formed (names : Names fields) : (Json.object (patterned fields)).wellFormed = true := by
  cases found : Fields.get? fields "patternProperties" with
  | none => simp [patterned, found, Json.wellFormed_object, Fields.keys]
  | some argument =>
      rw [← names.patterns_of_get? found]
      exact ((Json.wellFormed_object fields).mp names.formed).2.2 _ (Fields.mem_of_get? found)

theorem declared_reordered (reordered : Json.Reordered (.object fields) (.object others)) (names : Names fields) :
    Json.Reordered (.object (declared fields)) (.object (declared others)) := by
  rcases reordered.get? "properties" with ⟨missing, missing'⟩ | ⟨argument, argument', found, found', related⟩
  · simp only [declared, missing, missing']
    exact Json.reordered_refl rfl
  · obtain rfl := names.object_of_get? found
    have isObject := related.isObject
    cases argument' <;> simp only [Json.isObject, Bool.false_eq_true] at isObject
    simpa only [declared, found', Json.members] using related

theorem patterned_reordered (reordered : Json.Reordered (.object fields) (.object others)) (names : Names fields) :
    Json.Reordered (.object (patterned fields)) (.object (patterned others)) := by
  rcases reordered.get? "patternProperties" with ⟨missing, missing'⟩ | ⟨argument, argument', found, found', related⟩
  · simp only [patterned, missing, missing']
    exact Json.reordered_refl rfl
  · obtain rfl := names.patterns_of_get? found
    have isObject := related.isObject
    cases argument' <;> simp only [Json.isObject, Bool.false_eq_true] at isObject
    simpa only [patterned, found', Json.members] using related

theorem Names.reordered (names : Names fields) (reordered : Json.Reordered (.object fields) (.object others)) :
    Names others where
  formed := reordered.formed'
  properties argument' found' := by
    rcases reordered.get? "properties" with ⟨-, missing⟩ | ⟨argument, other, found, there, related⟩
    · cases found'.symm.trans missing
    · obtain rfl := Option.some.inj (found'.symm.trans there)
      rw [related.isObject, names.properties argument found]
  patterns argument' found' := by
    rcases reordered.get? "patternProperties" with ⟨-, missing⟩ | ⟨argument, other, found, there, related⟩
    · cases found'.symm.trans missing
    · obtain rfl := Option.some.inj (found'.symm.trans there)
      rw [related.isObject, names.patterns argument found]

theorem declaredNames_reordered (reordered : Json.Reordered (.object fields) (.object others)) (names : Names fields)
    (key : Key) : key ∈ declaredNames others ↔ key ∈ declaredNames fields :=
  (declared_reordered reordered names).keys.mem_iff.symm

/-- Which names are undeclared does not depend on the order of keys, if the patterns are joined faithfully. -/
theorem undeclared_reordered (reordered : Json.Reordered (.object fields) (.object others)) (names : Names fields)
    (joins : Joins fields) (joins' : Joins others) : Undeclared others name ↔ Undeclared fields name := by
  have matched := (patterned_reordered reordered names).members
  rw [joins.undeclared_iff, joins'.undeclared_iff, declaredNames_reordered reordered names]
  refine and_congr_right fun _ => not_congr ⟨?_, ?_⟩
  · rintro ⟨expression, schema, listed, finds⟩
    obtain ⟨⟨key, schema'⟩, listed', rfl, -⟩ := matched.back _ listed
    exact ⟨expression, schema', listed', finds⟩
  · rintro ⟨expression, schema, listed, finds⟩
    obtain ⟨⟨key, schema'⟩, listed', rfl, -⟩ := matched.there _ listed
    exact ⟨expression, schema', listed', finds⟩

end Schema

open Schema Evaluation

variable {value : Json}

/-- The names in a value that an expression finds. -/
theorem mem_matchingNames {expression : String} {found : List Key}
    (formed : value.wellFormed = true) (matching : matchingNames (.text expression) value = .ok found) :
    found.Nodup ∧ ∀ key, key ∈ found ↔ key ∈ namesOf value ∧ ∃ name, key = .text name ∧ Finds expression name := by
  unfold matchingNames at matching
  split at matching
  · next none => 
      obtain rfl := Except.ok.inj matching
      simp [none]
  · next same _ =>
      obtain rfl := Key.text.inj same
      split at matching
      · next pattern read =>
          obtain ⟨holds, each, rfl⟩ := filterM_eq_ok.mp matching
          refine ⟨(Json.namesOf_nodup formed).sublist List.filter_sublist, fun key => ?_⟩
          rw [List.mem_filter]
          refine and_congr_right fun listed => ?_
          obtain ⟨name, rfl⟩ := Json.namesOf_text formed listed
          have answered := each _ listed
          simp only [matchesName, Except.ok.injEq] at answered
          simp [Finds, read, ← answered]
      · cases matching
  · next other => exact absurd rfl (other expression)

variable {meaning : Meaning} {location : String} {fields : List (Key × Json)}

theorem patterns_nodeWith (names : Names fields) :
    (nodeWith meaning location fields).patterns = .ok
    ((patterned fields).filterMap fun member => member.1.text?) := by
  rw [Node.patterns, argument?_nodeWith]
  cases found : Fields.get? fields (.text "patternProperties") with
  | none => simp [patterned, found]
  | some argument =>
      obtain rfl := names.patterns_of_get? found
      simp only [Option.map_some, argumentWith_self, partWith_schema, Json.elements?]
      have textual := ((Json.wellFormed_object _).mp names.patterned_formed).1
      generalize patterned fields = members at textual
      induction members with
      | nil => rfl
      | cons member rest ih =>
          obtain ⟨name, named⟩ := textual member (by simp)
          have later := ih fun other listed => textual other (by simp [listed])
          simp only [Fields.keys, List.map_cons, List.mapM_cons, named, Key.toJson, bind, Except.bind] at later ⊢
          rw [later]
          simp [Key.text?, named, pure, Except.pure]

theorem declares_nodeWith (names : Names fields) (name : String) :
    (nodeWith meaning location fields).declares (.text name) = .ok (decide (.text name ∈ declaredNames fields)) := by
  rw [Node.declares, argument?_nodeWith]
  cases found : Fields.get? fields (.text "properties") with
  | none => simp [declaredNames, declared, found, Fields.keys]
  | some argument =>
      obtain rfl := names.object_of_get? found
      simp only [Option.map_some, argumentWith_self, partWith_schema, Json.has, Json.get?, Key.spelledIn_text]
      exact congrArg Except.ok (Fields.has_eq_decide _ _)

/-- The names in a value that count as undeclared. -/
theorem mem_undeclaredNames {found : List Key} (names : Names fields) (formed : value.wellFormed = true)
    (undeclared : undeclaredNames (nodeWith meaning location fields) value = .ok found) :
    found.Nodup ∧ ∀ key, key ∈ found ↔ key ∈ namesOf value ∧ ∃ name, key = .text name ∧ Undeclared fields name := by
  obtain ⟨patterns, listed, undeclared⟩ := bind_eq_ok.mp undeclared
  obtain rfl := Except.ok.inj ((patterns_nodeWith names).symm.trans listed)
  obtain ⟨left, picked, undeclared⟩ := bind_eq_ok.mp undeclared
  obtain ⟨holds, each, rfl⟩ := filterM_eq_ok.mp picked
  have declared : ∀ name, .text name ∈ namesOf value →
    (holds (.text name) = true ↔ .text name ∉ declaredNames fields) := by
    intro name listed
    have answered := each _ listed
    rw [declares_nodeWith names] at answered
    simp [← Except.ok.inj answered]
  have distinct : ((namesOf value).filter holds).Nodup := (Json.namesOf_nodup formed).sublist List.filter_sublist
  rw [← joined] at undeclared
  split at undeclared
  · next quiet =>
      simp only [Bool.or_eq_true, decide_eq_true_eq] at quiet
      obtain rfl := Except.ok.inj undeclared
      refine ⟨distinct, fun key => List.mem_filter.trans (and_congr_right fun listed => ?_)⟩
      obtain ⟨name, rfl⟩ := Json.namesOf_text formed listed
      simp only [declared name listed, Key.text.injEq, exists_eq_left', Undeclared]
      refine ⟨fun other => ⟨other, fun joins => ?_⟩, And.left⟩
      have left := List.mem_filter.mpr ⟨listed, (declared name listed).mpr other⟩
      rw [List.isEmpty_iff.mp (quiet.resolve_left joins)] at left
      cases left
  · next loud =>
      simp only [Bool.or_eq_true, decide_eq_true_eq, not_or] at loud
      split at undeclared
      · next pattern read =>
          obtain ⟨holds', each', rfl⟩ := filterM_eq_ok.mp undeclared
          refine ⟨distinct.sublist List.filter_sublist, fun key => ?_⟩
          rw [List.mem_filter, List.mem_filter, and_assoc]
          refine and_congr_right fun listed => ?_
          obtain ⟨name, rfl⟩ := Json.namesOf_text formed listed
          simp only [declared name listed, Key.text.injEq, exists_eq_left', Undeclared]
          refine and_congr_right fun other => ?_
          have answered := each' _ (List.mem_filter.mpr ⟨listed, (declared name listed).mpr other⟩)
          simp only [matchesName, Functor.map, Except.map, Except.ok.injEq] at answered
          simp [← answered, read, loud.1]
      · cases undeclared

end SchemaAlgebra
