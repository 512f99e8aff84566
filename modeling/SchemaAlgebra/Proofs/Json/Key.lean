import SchemaAlgebra.Json.Equality

/-!
When keys find the same member. Being alike is symmetric, a key is present in some spelling exactly if some
key of the object is like it, and names whose keys are alike are plainly equal.
-/

namespace SchemaAlgebra

theorem Number.same_comm (a b : Number) : a.same b = b.same a := by
  have points : ∀ p q : Point, p.order q = .eq → q.order p = .eq := by
    intro p q equal
    cases p <;> cases q <;> simp only [Point.order, reduceCtorEq] at equal ⊢
    rw [Std.compare_eq_iff_eq] at equal ⊢
    exact equal.symm
  have flip : ∀ a b : Number, a.same b = true → b.same a = true := by
    intro a b same
    simp only [Number.same, order?, decide_eq_true_eq, Option.bind_eq_bind, Option.bind_eq_some_iff,
      Option.pure_def, Option.some.injEq] at same ⊢
    obtain ⟨p, here, q, there, equal⟩ := same
    exact ⟨q, there, p, here, points p q equal⟩
  exact Bool.eq_iff_iff.mpr ⟨flip a b, flip b a⟩

namespace Key

theorem alike_refl (key : Key) : key.alike key = true := by
  simp [alike]

theorem alike_comm (a b : Key) : a.alike b = b.alike a := by
  simp only [alike]
  congr 1
  · exact decide_eq_decide.mpr eq_comm
  · cases a.number? <;> cases b.number? <;> simp only
    exact Number.same_comm _ _

/-- A key is present in some spelling exactly if a key of the object is like it. -/
theorem has_spelledIn {α : Type} (fields : Fields Key α) (key : Key) :
    Fields.has fields (key.spelledIn (Fields.keys fields)) = true ↔
      ∃ other ∈ Fields.keys fields, key.alike other = true := by
  rw [Fields.has_iff_mem_keys, spelledIn]
  split
  · next member => exact iff_of_true member ⟨key, member, key.alike_refl⟩
  · next missing =>
      cases found : (Fields.keys fields).find? key.alike with
      | none =>
          refine iff_of_false missing ?_
          rintro ⟨other, member, alike⟩
          exact absurd alike (List.find?_eq_none.mp found other member)
      | some other => exact iff_of_true (List.mem_of_find?_eq_some found) ⟨other, List.mem_of_find?_eq_some found, List.find?_some found⟩

theorem spelledIn_cases (key : Key) (keys : List Key) : key.spelledIn keys ∈ keys ∨ key.spelledIn keys = key := by
  unfold spelledIn
  split
  · exact .inr rfl
  · cases found : keys.find? key.alike with
    | none => exact .inr rfl
    | some other => exact .inl (List.mem_of_find?_eq_some found)

/-- A key that no other is like has its own spelling. -/
theorem spelledIn_of_free {keys : List Key} {key : Key} (free : ∀ other ∈ keys, key.alike other = false) :
    key.spelledIn keys = key := by
  unfold spelledIn
  split
  · rfl
  · rw [List.find?_eq_none.mpr fun other member => by simp [free other member]]
    rfl

end Key

theorem Json.eq_toJson_of_key? {name : Json} {key : Key} (keyed : name.key? = some key) :
    name = key.toJson := by
  cases name <;> simp only [Json.key?, reduceCtorEq, Option.some.injEq, Option.ite_none_right_eq_some] at keyed
  all_goals first
    | (subst keyed; rfl)
    | (obtain ⟨-, rfl⟩ := keyed; rfl)

theorem Number.alike_of_same {a b : Number} (equal : a.same b = true) : a.alike b = true := by
  simp [alike, equal]

theorem Number.alike_self (a : Number) : a.alike a = true := by
  have equal : ∀ p : Point, p.order p = .eq := by
    intro p
    cases p with
    | value num den => exact Std.compare_eq_iff_eq.mpr rfl
    | _ => rfl
  cases placed : a.point? with
  | some p => exact alike_of_same (by simp [same, order?, placed, equal])
  | none =>
      have undefined : a.isNan = true := by
        rcases a with n | d
        · simp [point?] at placed
        · cases d <;> simp [point?, isNan] at placed ⊢
      simp [alike, undefined]

theorem Key.agrees_toJson_self (key : Key) : key.toJson.agrees key.toJson = true := by
  cases key <;> simp [Key.toJson, Json.agrees, Json.plainNumber?, Json.number?, Number.alike_self]

/-- Names whose keys are alike are plainly equal. -/
theorem Key.agrees_of_alike {k l : Key} (alike : k.alike l = true) : k.toJson.agrees l.toJson = true := by
  simp only [Key.alike, Bool.or_eq_true, decide_eq_true_eq] at alike
  rcases alike with rfl | alike
  · exact k.agrees_toJson_self
  · cases k <;> cases l <;> simp only [Key.number?, Bool.false_eq_true] at alike <;>
      simpa [Key.toJson, Json.agrees, Json.plainNumber?, Json.number?] using Number.alike_of_same alike

end SchemaAlgebra
