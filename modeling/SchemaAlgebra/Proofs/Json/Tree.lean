import SchemaAlgebra.Validation.Part

/-!
JSON values as trees: the induction they come with, when they are well formed, and how a child is read
and replaced. Replacing a child by itself changes nothing, and replacing one child leaves the others.
-/

namespace SchemaAlgebra

namespace Fields

variable {κ α : Type} [DecidableEq κ]

theorem put_of_get? {fields : Fields κ α} {key : κ} {value : α}
    (found : fields.get? key = some value) : fields.put key value = fields := by
  induction fields with
  | nil => simp at found
  | cons entry rest ih =>
      obtain ⟨k, v⟩ := entry
      by_cases h : k = key
      · simp [get?, h] at found
        simp [put, h, found]
      · simp [get?, h] at found
        simp [put, h, ih found]

theorem mem_put {fields : Fields κ α} {key : κ} {value : α} {entry : κ × α}
    (member : entry ∈ fields.put key value) : entry = (key, value) ∨ entry ∈ fields := by
  induction fields with
  | nil => simpa [put] using member
  | cons first rest ih =>
      obtain ⟨k, v⟩ := first
      by_cases h : k = key
      · simp only [put, h, if_true, List.mem_cons] at member ⊢
        rcases member with same | later
        · exact .inl same
        · exact .inr (.inr later)
      · simp only [put, h, if_false, List.mem_cons] at member ⊢
        rcases member with same | later
        · exact .inr (.inl same)
        · rcases ih later with new | old
          · exact .inl new
          · exact .inr (.inr old)

theorem get?_eq_none_iff (fields : Fields κ α) (key : κ) :
    fields.get? key = none ↔ key ∉ fields.keys := by
  rw [← has_iff_mem_keys, has]
  cases fields.get? key <;> simp

theorem get?_of_mem {fields : Fields κ α} (distinct : fields.keys.Nodup) {key : κ} {value : α}
    (member : (key, value) ∈ fields) : fields.get? key = some value := by
  induction fields with
  | nil => simp at member
  | cons entry rest ih =>
      obtain ⟨k, v⟩ := entry
      simp only [keys, List.map_cons, List.nodup_cons] at distinct
      rcases List.mem_cons.mp member with same | later
      · obtain ⟨rfl, rfl⟩ := Prod.mk.inj same
        simp [get?]
      · have other : k ≠ key := by
          rintro rfl
          exact distinct.1 (List.mem_map_of_mem later)
        simpa [get?, other] using ih distinct.2 later

end Fields

namespace Json

/-- Induction on JSON values: a container follows from its parts. -/
@[elab_as_elim]
theorem treeInduction {motive : Json → Prop}
    (array : ∀ items, (∀ item ∈ items, motive item) → motive (.array items))
    (object : ∀ fields, (∀ entry ∈ fields, motive entry.2) → motive (.object fields))
    (scalar : ∀ value, value.isArray = false → value.isObject = false → motive value) :
    ∀ value, motive value
  | .array items => array items fun item _ => treeInduction array object scalar item
  | .object fields => object fields fun entry _ => treeInduction array object scalar entry.2
  | .null => scalar _ rfl rfl
  | .bool _ => scalar _ rfl rfl
  | .int _ => scalar _ rfl rfl
  | .double _ => scalar _ rfl rfl
  | .string _ => scalar _ rfl rfl
  | .foreign _ => scalar _ rfl rfl
termination_by value => sizeOf value
decreasing_by
  · have := List.sizeOf_lt_of_mem ‹_ ∈ items›
    simp only [Json.array.sizeOf_spec]
    omega
  · have := List.sizeOf_lt_of_mem ‹_ ∈ fields›
    obtain ⟨key, value⟩ := entry
    simp only [Prod.mk.sizeOf_spec, Json.object.sizeOf_spec] at this ⊢
    omega

mutual

/-- Whether the members of every object have different texts for keys. -/
def wellFormed : Json → Bool
  | .array items => itemsWellFormed items
  | .object fields =>
      fields.all (fun entry => entry.1.text?.isSome) && decide (Fields.keys fields).Nodup &&
        membersWellFormed fields
  | _ => true

/-- Whether every item is well formed. -/
def itemsWellFormed : List Json → Bool
  | [] => true
  | item :: rest => item.wellFormed && itemsWellFormed rest

/-- Whether the value of every member is well formed. -/
def membersWellFormed : List (Key × Json) → Bool
  | [] => true
  | (_, value) :: rest => value.wellFormed && membersWellFormed rest

end

theorem itemsWellFormed_iff (items : List Json) :
    itemsWellFormed items = true ↔ ∀ item ∈ items, item.wellFormed = true := by
  induction items with
  | nil => simp [itemsWellFormed]
  | cons item rest ih => simp [itemsWellFormed, ih]

theorem membersWellFormed_iff (fields : List (Key × Json)) :
    membersWellFormed fields = true ↔ ∀ entry ∈ fields, entry.2.wellFormed = true := by
  induction fields with
  | nil => simp [membersWellFormed]
  | cons entry rest ih => simp [membersWellFormed, ih]

theorem wellFormed_array (items : List Json) :
    (Json.array items).wellFormed = true ↔ ∀ item ∈ items, item.wellFormed = true := by
  simp [wellFormed, itemsWellFormed_iff]

theorem wellFormed_object (fields : List (Key × Json)) :
    (Json.object fields).wellFormed = true ↔
      (∀ entry ∈ fields, ∃ name, entry.1 = .text name) ∧ (Fields.keys fields).Nodup ∧
        ∀ entry ∈ fields, entry.2.wellFormed = true := by
  have textual : ∀ key : Key, key.text?.isSome = true ↔ ∃ name, key = .text name := by
    intro key
    cases key <;> simp [Key.text?]
  simp [wellFormed, membersWellFormed_iff, List.all_eq_true, textual, and_assoc]

theorem wellFormed_scalar {value : Json} (flat : value.isContainer = false) :
    value.wellFormed = true := by
  cases value <;> simp_all [isContainer, wellFormed]

theorem wellFormed_child {value child : Json} {step : Step} (formed : value.wellFormed = true)
    (found : value.child? step = some child) : child.wellFormed = true := by
  cases step with
  | member key =>
      cases value <;> simp only [child?, get?, reduceCtorEq] at found
      exact ((wellFormed_object _).mp formed).2.2 _ (Fields.mem_of_get? found)
  | index i =>
      cases value <;> simp only [child?, reduceCtorEq] at found
      exact (wellFormed_array _).mp formed _ (List.mem_of_getElem? found)

/-- Replacing a child by itself changes nothing. -/
theorem setChild_of_child? {value child : Json} {step : Step}
    (found : value.child? step = some child) : value.setChild step child = value := by
  cases step with
  | member key =>
      cases value <;> simp only [child?, get?, reduceCtorEq] at found
      simp only [setChild, Fields.put_of_get? found]
  | index i =>
      cases value <;> simp only [child?, reduceCtorEq] at found
      obtain ⟨bound, rfl⟩ := List.getElem?_eq_some_iff.mp found
      simp [setChild]

/-- A step that is found by what it is: an index, or a key that is a text. -/
inductive IsExact : Step → Prop
  | index (i : Nat) : IsExact (.index i)
  | text (name : String) : IsExact (.member (.text name))

theorem child?_setChild {value child : Json} {step : Step} (first : IsExact step)
    (found : value.child? step = some child) (new : Json) {other : Step} (second : IsExact other) :
    (value.setChild step new).child? other = if other = step then some new else value.child? other := by
  cases first with
  | index i =>
      cases value <;> simp only [child?, reduceCtorEq] at found
      obtain ⟨bound, -⟩ := List.getElem?_eq_some_iff.mp found
      cases second with
      | index j => by_cases same : j = i <;> simp [setChild, child?, same, Ne.symm, bound]
      | text name => simp [setChild, child?, get?]
  | text name =>
      cases value <;> simp only [child?, get?, reduceCtorEq, Key.spelledIn_text] at found
      cases second with
      | index j => simp [setChild, child?]
      | text name' =>
          by_cases same : name' = name <;>
            simp [setChild, child?, get?, Fields.get?_put, same, Ne.symm, eq_comm]

theorem keys_setChild {fields : List (Key × Json)} {child : Json} {key : Key}
    (found : (Json.object fields).child? (.member key) = some child) (new : Json) :
    ∃ others, (Json.object fields).setChild (.member key) new = .object others ∧
      Fields.keys others = Fields.keys fields := by
  refine ⟨_, rfl, ?_⟩
  simp only [child?, get?] at found
  rw [Fields.keys_put, Fields.has, found]
  rfl

end Json

end SchemaAlgebra
