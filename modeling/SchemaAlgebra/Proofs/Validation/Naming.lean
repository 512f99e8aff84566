import SchemaAlgebra.Proofs.Validation.Filling

/-!
The names in a value, in order. Defaults that are filled in add their names at the end, and what is undeclared and
removed leaves the other names in their order. So the names that come out can be told from those that were there.
-/

namespace SchemaAlgebra

open Outcome Evaluation Schema

/-- What is under distinct keys is the same if the keys are the same, in the same order, and lead to the same. -/
theorem Fields.eq_of_get? {κ α : Type} [DecidableEq κ] {fields others : Fields κ α} (distinct : fields.keys.Nodup)
    (keys : others.keys = fields.keys) (same : ∀ key ∈ fields.keys, others.get? key = fields.get? key) :
    others = fields := by
  induction fields generalizing others with
  | nil => exact List.map_eq_nil_iff.mp keys
  | cons entry rest ih =>
      obtain ⟨key, value⟩ := entry
      obtain ⟨⟨key', value'⟩, rest', rfl, first, later⟩ := List.map_eq_cons_iff.mp keys
      obtain rfl : key' = key := first
      obtain ⟨fresh, distinct'⟩ := List.nodup_cons.mp distinct
      have here : some value' = some value := by simpa [Fields.get?_cons] using same key' List.mem_cons_self
      have others : rest' = rest := ih distinct' later fun other listed => by
        have apart : key' ≠ other := by
          rintro rfl
          exact fresh listed
        simpa [Fields.get?_cons, apart] using same other (List.mem_cons_of_mem _ listed)
      rw [Option.some.inj here, others]

namespace Json

/-- The names in a value are texts, each of them there once. -/
structure Keyed (value : Json) : Prop where
  textual : ∀ key ∈ namesOf value, ∃ name, key = .text name
  distinct : (namesOf value).Nodup

theorem keyed_of_formed {value : Json} (formed : value.wellFormed = true) : value.Keyed :=
  ⟨fun _ => namesOf_text formed, namesOf_nodup formed⟩

theorem Keyed.of_names {value last : Json} (keyed : value.Keyed) (same : namesOf last = namesOf value) : last.Keyed := by
  obtain ⟨textual, distinct⟩ := keyed
  exact ⟨same ▸ textual, same ▸ distinct⟩

theorem Keyed.of_sublist {value last : Json} (keyed : value.Keyed) (inside : (namesOf last).Sublist (namesOf value)) :
    last.Keyed :=
  ⟨fun key listed => keyed.textual key (inside.subset listed), keyed.distinct.sublist inside⟩

/-- Objects are the same if they have the same names in the same order and each leads to the same. -/
theorem eq_of_children {value value' : Json} (isObject : value.isObject = true) (isObject' : value'.isObject = true)
    (keyed : value.Keyed) (names : namesOf value' = namesOf value)
    (children : ∀ name, .text name ∈ namesOf value →
      value'.child? (.member (.text name)) = value.child? (.member (.text name))) : value' = value := by
  cases value <;> try cases isObject
  next members =>
  cases value' <;> try cases isObject'
  next members' =>
  refine congrArg Json.object (Fields.eq_of_get? keyed.distinct names fun key listed => ?_)
  obtain ⟨name, rfl⟩ := keyed.textual key listed
  simpa only [child?_text] using children name listed

end Json

/-- The names with others at their end that are not among them. -/
def supplement (names others : List Key) : List Key :=
  others.foldl (fun names other => if other ∈ names then names else names ++ [other]) names

section Supplement

variable {names others : List Key} {key : Key}

theorem supplement_cons (names : List Key) (other : Key) (rest : List Key) :
    supplement names (other :: rest) = supplement (if other ∈ names then names else names ++ [other]) rest :=
  rfl

theorem mem_supplement : key ∈ supplement names others ↔ key ∈ names ∨ key ∈ others := by
  induction others generalizing names with
  | nil => simp [supplement]
  | cons other rest ih =>
      rw [supplement_cons, ih, List.mem_cons]
      split
      · next listed =>
          refine ⟨Or.imp_right .inr, ?_⟩
          rintro (old | rfl | later)
          · exact .inl old
          · exact .inl listed
          · exact .inr later
      · rw [List.mem_append, List.mem_singleton, or_assoc]

theorem nodup_supplement (distinct : names.Nodup) : (supplement names others).Nodup := by
  induction others generalizing names with
  | nil => exact distinct
  | cons other rest ih => exact ih (nodup_insert other distinct)

theorem supplement_of_subset (inside : ∀ other ∈ others, other ∈ names) : supplement names others = names := by
  induction others with
  | nil => rfl
  | cons other rest ih =>
      obtain ⟨here, later⟩ := List.forall_mem_cons.mp inside
      rw [supplement_cons, if_pos here]
      exact ih later

/-- What was added is there, and is not added again. -/
theorem supplement_supplement : supplement (supplement names others) others = supplement names others :=
  supplement_of_subset fun _ listed => mem_supplement.mpr (.inr listed)

theorem filter_supplement {test : Key → Bool} (kept : ∀ other ∈ others, test other = true) :
    (supplement names others).filter test = supplement (names.filter test) others := by
  induction others generalizing names with
  | nil => rfl
  | cons other rest ih =>
      obtain ⟨here, later⟩ := List.forall_mem_cons.mp kept
      rw [supplement_cons, supplement_cons, ih later]
      simp only [List.mem_filter, here, and_true]
      split
      · rfl
      · rw [List.filter_append, List.filter_singleton, here]
        rfl

/-- Names that are told apart after a renaming are added as they were before. -/
theorem map_supplement {rename : Key → Key} {known : Key → Prop}
    (injective : ∀ first second, known first → known second → rename first = rename second → first = second)
    (inside : ∀ key ∈ names, known key) (inside' : ∀ key ∈ others, known key) :
    (supplement names others).map rename = supplement (names.map rename) (others.map rename) := by
  induction others generalizing names with
  | nil => rfl
  | cons other rest ih =>
      obtain ⟨here, later⟩ := List.forall_mem_cons.mp inside'
      have listed : rename other ∈ names.map rename ↔ other ∈ names := by
        refine ⟨fun listed => ?_, List.mem_map_of_mem⟩
        obtain ⟨key, among, same⟩ := List.mem_map.mp listed
        exact injective key other (inside key among) here same ▸ among
      rw [supplement_cons, List.map_cons, supplement_cons, ih ?_ later]
      · simp only [listed]
        split
        · rfl
        · rw [List.map_append, List.map_singleton]
      · intro key among
        split at among
        · exact inside key among
        · rcases List.mem_append.mp among with old | new
          · exact inside key old
          · exact List.mem_singleton.mp new ▸ here

end Supplement

/-- The names of members that have a default. -/
def defaultedNames (members : List (Key × Json)) : List Key :=
  (members.filter fun member => member.2.default?.isSome).map Prod.fst

theorem namesOf_fillDefault {value : Json} (isObject : value.isObject = true) (name : String) (schema : Json) :
    namesOf (fillDefault value (.text name) schema) =
      if schema.default?.isSome then supplement (namesOf value) [.text name] else namesOf value := by
  cases value <;> try cases isObject
  next members =>
  have listed : Key.text name ∈ namesOf (.object members) ↔ (Json.object members).has (.text name) = true := by
    rw [Json.text_mem_namesOf]
    rfl
  cases found : schema.default? with
  | none => simp [fillDefault, found]
  | some default =>
      simp only [fillDefault, found, Option.isSome_some, if_true, supplement, List.foldl_cons, List.foldl_nil, listed]
      split
      · rfl
      · next missing =>
          have absent : Fields.get? members (.text name) = none := by simpa [Json.has, Json.get?] using missing
          rw [namesOf, Fields.keys_put, if_neg (by simp [Fields.has, absent])]
          rfl

/-- Filling defaults in adds their names at the end, as far as they are not there. -/
theorem namesOf_fillDefaults {members : List (Key × Json)} (textual : ∀ member ∈ members, ∃ name, member.1 = .text name)
    {value : Json} (isObject : value.isObject = true) :
    namesOf (fillDefaults (memberPartsWith noReference "" members) value) =
      supplement (namesOf value) (defaultedNames members) := by
  induction members generalizing value with
  | nil => rfl
  | cons member rest ih =>
      obtain ⟨⟨name, named⟩, others⟩ := List.forall_mem_cons.mp textual
      obtain ⟨_, schema⟩ := member
      obtain rfl : _ = Key.text name := named
      have unfolded : fillDefaults (memberPartsWith noReference "" ((.text name, schema) :: rest)) value =
          fillDefaults (memberPartsWith noReference "" rest) (fillDefault value (.text name) schema) := by
        simp [fillDefaults, memberPartsWith, partWith_schema]
      rw [unfolded, ih others (isObject_fillDefault _ isObject), namesOf_fillDefault isObject, defaultedNames,
        defaultedNames, List.filter_cons]
      split
      · rfl
      · rfl

theorem namesOf_removeNames (value : Json) (names : List Key) :
    namesOf (Structure.removeNames value names) = (namesOf value).filter (· ∉ names) := by
  cases value with
  | object fields =>
      induction names generalizing fields with
      | nil => simp [Structure.removeNames, namesOf]
      | cons name rest ih =>
          rw [Structure.removeNames, List.foldl_cons, ← Structure.removeNames, ih, namesOf, Fields.keys_erase, namesOf,
            List.filter_filter]
          refine List.filter_congr fun key _ => ?_
          simp only [List.mem_cons, not_or, Bool.decide_and]
          exact Bool.and_comm _ _
  | _ => rfl

end SchemaAlgebra
