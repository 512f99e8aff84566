import Mathlib.Data.List.Nodup
import SchemaAlgebra.Fields

/-!
Objects as finite maps: what putting, removing and picking entries do to the keys and to what is found.
-/

namespace SchemaAlgebra

theorem nodup_eraseDups {α : Type} [DecidableEq α] (items : List α) : items.eraseDups.Nodup := by
  induction known : items.length using Nat.strongRecOn generalizing items with
  | ind length ih =>
      cases items with
      | nil => simp
      | cons item rest =>
          subst known
          have fewer : (rest.filter fun other => !other == item).length < (item :: rest).length :=
            Nat.lt_succ_of_le (List.length_filter_le ..)
          rw [List.eraseDups_cons, List.nodup_cons, List.mem_eraseDups]
          exact ⟨by simp, ih _ fewer _ rfl⟩

theorem eraseDups_of_nodup {α : Type} [DecidableEq α] {items : List α} (distinct : items.Nodup) :
    items.eraseDups = items := by
  induction items with
  | nil => rfl
  | cons item rest ih =>
      obtain ⟨missing, distinct⟩ := List.nodup_cons.mp distinct
      have same : (rest.filter fun other => !other == item) = rest := by
        refine List.filter_eq_self.mpr fun other member => ?_
        rw [Bool.not_eq_true', beq_eq_false_iff_ne]
        rintro rfl
        exact missing member
      rw [List.eraseDups_cons, same, ih distinct]

theorem eraseDups_map {α β : Type} [DecidableEq α] [DecidableEq β] {f : α → β} (injective : f.Injective)
    (items : List α) : (items.map f).eraseDups = items.eraseDups.map f := by
  induction known : items.length using Nat.strongRecOn generalizing items with
  | ind length ih =>
      cases items with
      | nil => rfl
      | cons item rest =>
          subst known
          have fewer : (rest.filter fun other => !other == item).length < (item :: rest).length :=
            Nat.lt_succ_of_le (List.length_filter_le ..)
          have same : ((fun other => !other == f item) ∘ f) = fun other => !other == item := by
            funext other
            simp [beq_eq_decide, injective.eq_iff]
          rw [List.map_cons, List.eraseDups_cons, List.filter_map, same, ih _ fewer _ rfl, List.eraseDups_cons,
            List.map_cons]

theorem nodup_insert {α : Type} [DecidableEq α] (item : α) {items : List α} (distinct : items.Nodup) :
    (if item ∈ items then items else items ++ [item]).Nodup := by
  split
  · exact distinct
  · next missing =>
      refine List.nodup_append.mpr ⟨distinct, List.nodup_singleton item, ?_⟩
      rintro other member _ added rfl
      exact missing (List.mem_singleton.mp added ▸ member)

theorem mem_of_mem_insert {α : Type} [DecidableEq α] {item other : α} {items : List α}
    (listed : other ∈ if item ∈ items then items else items ++ [item]) : other = item ∨ other ∈ items := by
  split at listed
  · exact .inr listed
  · exact (List.mem_append.mp listed).symm.imp_left List.mem_singleton.mp

namespace Fields

variable {κ α β : Type} [DecidableEq κ]

theorem has_eq_decide (fields : Fields κ α) (key : κ) : fields.has key = decide (key ∈ fields.keys) := by
  rw [Bool.eq_iff_iff, has_iff_mem_keys, decide_eq_true_iff]

theorem erase_of_get?_eq_none {fields : Fields κ α} {key : κ} (missing : fields.get? key = none) :
    fields.erase key = fields := by
  induction fields with
  | nil => rfl
  | cons entry rest ih =>
      obtain ⟨k, v⟩ := entry
      rw [get?_cons] at missing
      split at missing
      · cases missing
      · next different => rw [erase, if_neg different, ih missing]

theorem mem_erase {fields : Fields κ α} {key : κ} {entry : κ × α} (member : entry ∈ fields.erase key) :
    entry ∈ fields := by
  induction fields with
  | nil => exact member
  | cons first rest ih =>
      rw [erase] at member
      split at member
      · exact List.mem_cons_of_mem first (ih member)
      · rcases List.mem_cons.mp member with rfl | member
        · exact List.mem_cons_self
        · exact List.mem_cons_of_mem first (ih member)

theorem nodup_keys_erase {fields : Fields κ α} (distinct : fields.keys.Nodup) (key : κ) :
    (fields.erase key).keys.Nodup := by
  rw [keys_erase]
  exact distinct.filter _

theorem put_of_get?_eq_none {fields : Fields κ α} {key : κ} {value : α} (missing : fields.get? key = none) :
    fields.put key value = fields ++ [(key, value)] := by
  induction fields with
  | nil => rfl
  | cons entry rest ih =>
      obtain ⟨k, v⟩ := entry
      rw [get?_cons] at missing
      split at missing
      · cases missing
      · next different => rw [put, if_neg different, ih missing, List.cons_append]

theorem nodup_keys_put {fields : Fields κ α} {key : κ} {value : α} (distinct : fields.keys.Nodup) :
    (fields.put key value).keys.Nodup := by
  rw [keys_put]
  split
  · exact distinct
  · next missing =>
      rw [has_iff_mem_keys] at missing
      exact List.nodup_append.mpr ⟨distinct, List.nodup_singleton key, by
        rintro a listed b member rfl
        exact missing (List.mem_singleton.mp member ▸ listed)⟩

theorem mem_keys_put {fields : Fields κ α} {key other : κ} {value : α} (member : other = key ∨ other ∈ fields.keys) :
    other ∈ (fields.put key value).keys := by
  rw [← has_iff_mem_keys, has, get?_put]
  split
  · rfl
  · next different => exact (has_iff_mem_keys _ _).mpr (member.resolve_left (Ne.symm different))

theorem keys_relabel (fields : Fields κ α) (old new : κ) :
    (fields.relabel old new).keys = fields.keys.map fun key => if key = old then new else key := by
  simp [relabel, keys, Function.comp_def]

theorem nodup_keys_relabel {fields : Fields κ α} {old new : κ} (distinct : fields.keys.Nodup)
    (free : fields.has new = false) : (fields.relabel old new).keys.Nodup := by
  rw [has_eq_decide, decide_eq_false_iff_not] at free
  rw [keys_relabel]
  refine (List.nodup_map_iff_inj_on distinct).mpr fun a member b member' same => ?_
  split at same <;> split at same
  · next first second => exact first.trans second.symm
  · next first second => exact absurd (same ▸ member') free
  · next first second => exact absurd (same ▸ member) free
  · exact same

/-- The entries with some keys, in the order in which the keys are first named. -/
def restrict (fields : Fields κ α) (keys : List κ) : Fields κ α :=
  keys.eraseDups.filterMap fun key => (fields.get? key).map fun value => (key, value)

@[simp] theorem restrict_nil (fields : Fields κ α) : fields.restrict [] = [] := rfl

theorem restrict_cons {fields : Fields κ α} {key : κ} {value : α} (found : fields.get? key = some value)
    (rest : List κ) : fields.restrict (key :: rest) = (key, value) :: fields.restrict (rest.filter (· ≠ key)) := by
  rw [restrict, List.eraseDups_cons, List.filterMap_cons, found]
  simp only [Option.map_some, restrict, List.cons.injEq, true_and]
  congr 2
  exact List.filter_congr fun other _ => by simp [beq_eq_decide]

theorem keys_restrict (fields : Fields κ α) (keys : List κ) :
    (fields.restrict keys).keys = keys.eraseDups.filter fun key => fields.has key := by
  rw [restrict]
  induction keys.eraseDups with
  | nil => rfl
  | cons key rest ih =>
      rw [List.filterMap_cons, List.filter_cons, has]
      cases found : fields.get? key with
      | none => simpa using ih
      | some value => simpa [Fields.keys] using ih

theorem nodup_keys_restrict (fields : Fields κ α) (keys : List κ) : (fields.restrict keys).keys.Nodup := by
  rw [keys_restrict]
  exact (nodup_eraseDups keys).filter _

theorem mem_restrict {fields : Fields κ α} {keys : List κ} {entry : κ × α} :
    entry ∈ fields.restrict keys ↔ entry.1 ∈ keys ∧ fields.get? entry.1 = some entry.2 := by
  simp only [restrict, List.mem_filterMap, List.mem_eraseDups, Option.map_eq_some_iff]
  constructor
  · rintro ⟨key, listed, value, found, rfl⟩
    exact ⟨listed, found⟩
  · rintro ⟨listed, found⟩
    exact ⟨entry.1, listed, entry.2, found, rfl⟩

/-- The same keys in the same order, with values that are related. -/
def Rel (r : α → β → Prop) (fields : Fields κ α) (others : Fields κ β) : Prop :=
  List.Forall₂ (fun entry other => entry.1 = other.1 ∧ r entry.2 other.2) fields others

namespace Rel

variable {r s : α → β → Prop} {fields : Fields κ α} {others : Fields κ β}

omit [DecidableEq κ] in
theorem keys (related : Rel r fields others) : fields.keys = others.keys := by
  induction related with
  | nil => rfl
  | cons first _ ih => exact congrArg₂ List.cons first.1 ih

theorem get? (related : Rel r fields others) (key : κ) :
    (fields.get? key = none ∧ others.get? key = none) ∨
      ∃ value other, fields.get? key = some value ∧ others.get? key = some other ∧ r value other := by
  induction related with
  | nil => exact .inl ⟨rfl, rfl⟩
  | @cons entry other fields others first _ ih =>
      obtain ⟨k, value⟩ := entry
      obtain ⟨k', value'⟩ := other
      obtain ⟨same, holds⟩ := first
      obtain rfl : k = k' := same
      rw [get?_cons, get?_cons]
      split
      · exact .inr ⟨value, value', rfl, rfl, holds⟩
      · exact ih

theorem exists_of_get? (related : Rel r fields others) {key : κ} {value : α} (found : fields.get? key = some value) :
    ∃ other, others.get? key = some other ∧ r value other := by
  rcases related.get? key with ⟨missing, -⟩ | ⟨value', other, found', held, holds⟩
  · cases found.symm.trans missing
  · obtain rfl := Option.some.inj (found.symm.trans found')
    exact ⟨other, held, holds⟩

theorem has (related : Rel r fields others) (key : κ) : fields.has key = others.has key := by
  rw [has_eq_decide, has_eq_decide, related.keys]

omit [DecidableEq κ] in
theorem imp (related : Rel r fields others) (each : ∀ entry ∈ fields, ∀ other, r entry.2 other → s entry.2 other) :
    Rel s fields others :=
  ((List.forall₂_and_left ..).mpr ⟨each, related⟩).imp fun _ other both => ⟨both.2.1, both.1 other.2 both.2.2⟩

omit [DecidableEq κ] in
theorem exists_of_mem (related : Rel r fields others) {entry : κ × α} (listed : entry ∈ fields) :
    ∃ other, r entry.2 other := by
  induction related with
  | nil => exact absurd listed List.not_mem_nil
  | @cons first other _ _ here _ ih =>
      rcases List.mem_cons.mp listed with rfl | listed
      · exact ⟨other.2, here.2⟩
      · exact ih listed

theorem put (related : Rel r fields others) (key : κ) {value : α} {other : β} (holds : r value other) :
    Rel r (fields.put key value) (others.put key other) := by
  induction related with
  | nil => exact .cons ⟨rfl, holds⟩ .nil
  | @cons entry entry' fields others first rest ih =>
      obtain ⟨k, v⟩ := entry
      obtain ⟨k', v'⟩ := entry'
      obtain ⟨same, holds'⟩ := first
      obtain rfl : k = k' := same
      rw [Fields.put, Fields.put]
      split
      · exact .cons ⟨rfl, holds⟩ rest
      · exact .cons ⟨rfl, holds'⟩ ih

theorem erase (related : Rel r fields others) (key : κ) : Rel r (fields.erase key) (others.erase key) := by
  induction related with
  | nil => exact .nil
  | @cons entry entry' _ _ first _ ih =>
      obtain ⟨k, v⟩ := entry
      obtain ⟨k', v'⟩ := entry'
      obtain ⟨same, holds⟩ := first
      obtain rfl : k = k' := same
      rw [Fields.erase, Fields.erase]
      split
      · exact ih
      · exact .cons ⟨rfl, holds⟩ ih

theorem relabel (related : Rel r fields others) (old new : κ) : Rel r (fields.relabel old new) (others.relabel old new) := by
  induction related with
  | nil => exact .nil
  | cons first _ ih => exact .cons ⟨by dsimp only; rw [first.1], first.2⟩ ih

theorem restrict (related : Rel r fields others) (keys : List κ) : Rel r (fields.restrict keys) (others.restrict keys) := by
  rw [Fields.restrict, Fields.restrict]
  induction keys.eraseDups with
  | nil => exact .nil
  | cons key rest ih =>
      rw [List.filterMap_cons, List.filterMap_cons]
      rcases related.get? key with ⟨missing, missing'⟩ | ⟨value, other, found, found', holds⟩
      · rw [missing, missing']
        exact ih
      · rw [found, found']
        exact .cons ⟨rfl, holds⟩ ih

end Rel

end Fields

end SchemaAlgebra
