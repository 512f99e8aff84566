import SchemaAlgebra.Proofs.Running
import SchemaAlgebra.Proofs.Validation.Conversion
import SchemaAlgebra.Proofs.Validation.Indifference
import SchemaAlgebra.Schema.Metaschema

/-!
What a value is brought to by the types that are declared for it. A conversion that makes something makes a value of
the type that it is named for, in the eyes of either type checker: whole numbers are integers and numbers for both, and
the conversion to integers makes no doubles. So what was converted once has a declared type and is left alone
afterwards.
-/

namespace SchemaAlgebra.Coercion

open Metaschema (typeNames)

variable {checker : TypeChecker} {value converted : Json} {name : String} {names : List String}

/-- A declaration of types, by a list of names or by the name of one. -/
inductive Declares : Json → List String → Prop
  | one (name : String) : Declares (.string name) [name]
  | list (names : List String) : Declares (.array (names.map .string)) names

theorem Declares.listedTypes_eq {types : Json} (declares : Declares types names) :
    listedTypes types = .ok (names.map .string) := by
  cases declares <;> rfl

/-- Every value has a type of a known name or has it not. -/
theorem hasType?_known (checker : TypeChecker) (value : Json) (known : name ∈ typeNames) :
    ∃ answer, value.hasType? checker name = some answer := by
  simp only [typeNames, List.mem_cons, List.not_mem_nil, or_false] at known
  rcases known with rfl | rfl | rfl | rfl | rfl | rfl | rfl
  all_goals exact ⟨_, rfl⟩

theorem isOfType_string {answer : Bool} (typed : value.hasType? checker name = some answer) :
    value.isOfType checker (.string name) = .ok answer := by
  rw [Json.isOfType, typed]

/-- Looking for a type of known name among several ends with an answer. -/
theorem hasOneOf_known (checker : TypeChecker) (value : Json) (known : ∀ name ∈ names, name ∈ typeNames) :
    (value.hasOneOf checker (names.map .string) = .ok true ∧
        ∃ name ∈ names, value.hasType? checker name = some true) ∨
      (value.hasOneOf checker (names.map .string) = .ok false ∧
        ∀ name ∈ names, value.hasType? checker name = some false) := by
  induction names with
  | nil => exact .inr ⟨rfl, by simp⟩
  | cons name rest ih =>
      obtain ⟨hereKnown, restKnown⟩ := List.forall_mem_cons.mp known
      obtain ⟨answer, typed⟩ := hasType?_known checker value hereKnown
      simp only [List.map_cons, Json.hasOneOf, isOfType_string typed, bind, Except.bind]
      cases answer with
      | true => exact .inl ⟨rfl, name, List.mem_cons_self, typed⟩
      | false =>
          rcases ih restKnown with ⟨found, other, listed, typed'⟩ | ⟨missed, none⟩
          · exact .inl ⟨found, other, List.mem_cons_of_mem _ listed, typed'⟩
          · exact .inr ⟨missed, List.forall_mem_cons.mpr ⟨typed, none⟩⟩

/-- A conversion makes values of the type that it is named for. -/
theorem convert?_typed (checker : TypeChecker) (made : convert? value (.string name) = .ok (some converted)) :
    converted.hasType? checker name = some true := by
  unfold convert? at made
  split at made
  · next same =>
      obtain rfl := Json.string.inj same
      obtain ⟨text, rfl⟩ := eq_string_of_toText? made
      rfl
  · next same =>
      obtain rfl := Json.string.inj same
      obtain ⟨n, rfl⟩ | ⟨d, rfl, -⟩ := eq_number_of_toNumber? (Except.ok.inj made)
      all_goals rfl
  · next same =>
      obtain rfl := Json.string.inj same
      obtain ⟨n, rfl⟩ := eq_int_of_toInteger? (Except.ok.inj made)
      rfl
  · next same =>
      obtain rfl := Json.string.inj same
      obtain ⟨b, rfl⟩ := eq_bool_of_toBoolean? (Except.ok.inj made)
      rfl
  · next same =>
      obtain rfl := Json.string.inj same
      obtain rfl := eq_null_of_toNull? (Except.ok.inj made)
      rfl
  · simp at made

/-- The first conversion that makes something decides, and those before it made nothing. -/
theorem convertFirst?_eq_some {types : List Json} (made : convertFirst? value types = .ok (some converted)) :
    ∃ before type after, types = before ++ type :: after ∧
      (∀ earlier ∈ before, convert? value earlier = .ok none) ∧ convert? value type = .ok (some converted) := by
  induction types with
  | nil => simp [convertFirst?] at made
  | cons type rest ih =>
      rw [convertFirst?] at made
      split at made
      · next nothing =>
          obtain ⟨before, chosen, after, rfl, earlier, here⟩ := ih made
          exact ⟨type :: before, chosen, after, rfl, List.forall_mem_cons.mpr ⟨nothing, earlier⟩, here⟩
      · exact ⟨[], type, rest, rfl, by simp, made⟩

theorem convertFirst?_eq_none {types : List Json} (left : convertFirst? value types = .ok none) :
    ∀ type ∈ types, convert? value type = .ok none := by
  induction types with
  | nil => simp
  | cons type rest ih =>
      rw [convertFirst?] at left
      split at left
      · next nothing => exact List.forall_mem_cons.mpr ⟨nothing, ih left⟩
      · next something => exact absurd left something

/-- A value without the one type that is declared is converted to it, if that is possible. -/
theorem conversion?_single (missing : value.hasType? checker name = some false) :
    conversion? checker [.string name] value = convert? value (.string name) := by
  have alone : convertFirst? value [.string name] = convert? value (.string name) := by
    rw [convertFirst?]
    split
    · next nothing => rw [nothing]; rfl
    · rfl
  simp [conversion?, Json.hasOneOf, isOfType_string missing, alone, bind, Except.bind]

/-- What has one of the types is left alone. -/
theorem conversion?_of_typed (known : ∀ name ∈ names, name ∈ typeNames) (listed : name ∈ names)
    (typed : value.hasType? checker name = some true) : conversion? checker (names.map .string) value = .ok none := by
  unfold conversion?
  rcases hasOneOf_known checker value known with ⟨found, -⟩ | ⟨-, none⟩
  · simp [found, bind, Except.bind, pure, Except.pure]
  · simp [none name listed] at typed

/-- The one way in which a value is converted: it has none of the types, and the first of them that it can be
converted to makes a value of its own. -/
theorem conversion?_eq_some (known : ∀ name ∈ names, name ∈ typeNames)
    (made : conversion? checker (names.map .string) value = .ok (some converted)) :
    (∀ name ∈ names, value.hasType? checker name = some false) ∧
      ∃ before name after, names = before ++ name :: after ∧
        (∀ earlier ∈ before, convert? value (.string earlier) = .ok none) ∧
          convert? value (.string name) = .ok (some converted) ∧ converted.hasType? checker name = some true := by
  unfold conversion? at made
  split at made
  · simp [pure, Except.pure] at made
  · obtain ⟨held, looked, made⟩ := bind_eq_ok.mp made
    rcases hasOneOf_known checker value known with ⟨found, -⟩ | ⟨missed, none⟩
    · obtain rfl := Except.ok.inj (looked.symm.trans found)
      simp [pure, Except.pure] at made
    · obtain rfl := Except.ok.inj (looked.symm.trans missed)
      obtain ⟨before, type, after, order, earlier, here⟩ := convertFirst?_eq_some made
      obtain ⟨before, later, rfl, rfl, rest⟩ := List.map_eq_append_iff.mp order
      obtain ⟨name, after, rfl, rfl, rfl⟩ := List.map_eq_cons_iff.mp rest
      exact ⟨none, before, name, after, rfl, fun name listed => earlier _ (List.mem_map_of_mem listed), here,
        convert?_typed checker here⟩

/-- A value is left alone for one of two reasons: it has a declared type, or it cannot be converted to any. -/
theorem conversion?_eq_none (known : ∀ name ∈ names, name ∈ typeNames)
    (left : conversion? checker (names.map .string) value = .ok none) :
    (∃ name ∈ names, value.hasType? checker name = some true) ∨
      ∀ name ∈ names, convert? value (.string name) = .ok none := by
  unfold conversion? at left
  split at left
  · next empty => simp_all
  · obtain ⟨held, looked, left⟩ := bind_eq_ok.mp left
    rcases hasOneOf_known checker value known with ⟨-, typed⟩ | ⟨missed, -⟩
    · exact .inl typed
    · obtain rfl := Except.ok.inj (looked.symm.trans missed)
      exact .inr fun name listed => convertFirst?_eq_none left _ (List.mem_map_of_mem listed)

/-- Bringing a value to declared types is sound, minimal and done once. A value with a declared type stays, and so
does one that no declared type takes; any other becomes a value of the first declared type that takes it. What comes
out is left alone when it is brought to the same types again. -/
theorem conversion?_sound {types : Json} (declares : Declares types names)
    (known : ∀ name ∈ names, name ∈ typeNames) {found : Option Json}
    (returned : (listedTypes types >>= fun listed => conversion? checker listed value) = .ok found) :
    (∀ converted, found = some converted →
      (∀ name ∈ names, value.hasType? checker name = some false) ∧
        ∃ before name after, names = before ++ name :: after ∧
          (∀ earlier ∈ before, convert? value (.string earlier) = .ok none) ∧
            convert? value (.string name) = .ok (some converted) ∧ converted.hasType? checker name = some true) ∧
      (found = none → (∃ name ∈ names, value.hasType? checker name = some true) ∨
        ∀ name ∈ names, convert? value (.string name) = .ok none) ∧
      ((∃ name ∈ names, value.hasType? checker name = some true) → found = none) ∧
      (listedTypes types >>= fun listed => conversion? checker listed (found.getD value)) = .ok none := by
  rw [declares.listedTypes_eq] at returned ⊢
  change conversion? checker (names.map .string) value = .ok found at returned
  change _ ∧ _ ∧ _ ∧ conversion? checker (names.map .string) (found.getD value) = .ok none
  refine ⟨?made, ?left, ?typed, ?again⟩
  case made =>
    rintro converted rfl
    exact conversion?_eq_some known returned
  case left =>
    rintro rfl
    exact conversion?_eq_none known returned
  case typed =>
    rintro ⟨name, listed, typed⟩
    exact Except.ok.inj (returned.symm.trans (conversion?_of_typed known listed typed))
  case again =>
    cases found with
    | none => exact returned
    | some converted =>
        obtain ⟨-, before, name, after, rfl, -, -, typed⟩ := conversion?_eq_some known returned
        exact conversion?_of_typed known (by simp) typed

/-- A numeral with an exponent is no truth value and nothing null, and it becomes a whole number, also where doubles
without fraction are no integers. -/
theorem thousand_converted :
    (∀ name ∈ ["null", "boolean", "integer", "number"], name ∈ typeNames) ∧
      (listedTypes (.array [.string "null", .string "boolean", .string "integer", .string "number"]) >>= fun listed =>
        conversion? .byKind listed (.string "1e3")) = .ok (some (.int 1000)) ∧
      (listedTypes (.array [.string "null", .string "boolean", .string "integer", .string "number"]) >>= fun listed =>
        conversion? .byKind listed (.int 1000)) = .ok none := by
  have returned : (listedTypes (.array (["null", "boolean", "integer", "number"].map .string)) >>= fun listed =>
      conversion? .byKind listed (.string "1e3")) = .ok (some (.int 1000)) := by rfl
  have known : ∀ name ∈ ["null", "boolean", "integer", "number"], name ∈ typeNames := by decide
  exact ⟨known, returned, (conversion?_sound (.list _) known returned).2.2.2⟩

end SchemaAlgebra.Coercion
