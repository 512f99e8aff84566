import SchemaAlgebra.Proofs.Validation.Concurrence
import SchemaAlgebra.Proofs.Validation.NumeralTexts
import SchemaAlgebra.Proofs.Validation.Rewriting

/-!
Values as they come from JSON texts: the members of objects have different texts for keys, and doubles have a place in
64 bits. It can be known besides that no whole number in a value is too long to be shown. Nothing that normalization
does to a value changes any of this, and what a conversion makes can always be shown. A conversion fails in one case
only: when text is asked for a whole number that is too long.
-/

namespace SchemaAlgebra

namespace Json

mutual

/-- Whether every double in the value has a place in 64 bits. -/
def real : Json → Bool
  | .double d => decide d.Proper
  | .array items => itemsReal items
  | .object fields => membersReal fields
  | _ => true

/-- Whether every item is real. -/
def itemsReal : List Json → Bool
  | [] => true
  | item :: rest => item.real && itemsReal rest

/-- Whether the value of every member is real. -/
def membersReal : List (Key × Json) → Bool
  | [] => true
  | (_, value) :: rest => value.real && membersReal rest

end

theorem itemsReal_iff (items : List Json) : itemsReal items = true ↔ ∀ item ∈ items, item.real = true := by
  induction items with
  | nil => simp [itemsReal]
  | cons item rest ih => simp [itemsReal, ih]

theorem membersReal_iff (fields : List (Key × Json)) :
    membersReal fields = true ↔ ∀ entry ∈ fields, entry.2.real = true := by
  induction fields with
  | nil => simp [membersReal]
  | cons entry rest ih => simp [membersReal, ih]

/-- A value as it comes from a JSON text; if `short` holds, no whole number in it is too long to be shown. -/
structure Ordinary (short : Prop) (value : Json) : Prop where
  formed : value.wellFormed = true
  real : value.real = true
  shown : short → value.isShowable = true

variable {short : Prop} {value part : Json} {items : List Json} {fields : List (Key × Json)}

theorem ordinary_array : Ordinary short (.array items) ↔ ∀ item ∈ items, Ordinary short item := by
  constructor
  · rintro ⟨formed, real, shown⟩ item listed
    exact ⟨(wellFormed_array items).mp formed item listed, (itemsReal_iff items).mp real item listed,
      fun holds => (itemsShowable_iff items).mp (shown holds) item listed⟩
  · intro each
    exact ⟨(wellFormed_array items).mpr fun item listed => (each item listed).formed,
      (itemsReal_iff items).mpr fun item listed => (each item listed).real,
      fun holds => (itemsShowable_iff items).mpr fun item listed => (each item listed).shown holds⟩

/-- Objects whose keys are different texts are ordinary if the values of their members are. -/
theorem ordinary_object : Ordinary short (.object fields) ↔ (∀ entry ∈ fields, ∃ name, entry.1 = .text name) ∧
    (Fields.keys fields).Nodup ∧ ∀ entry ∈ fields, Ordinary short entry.2 := by
  constructor
  · rintro ⟨formed, real, shown⟩
    obtain ⟨textual, distinct, values⟩ := (wellFormed_object fields).mp formed
    exact ⟨textual, distinct, fun entry listed => ⟨values entry listed, (membersReal_iff fields).mp real entry listed,
      fun holds => ((fieldsShowable_iff fields).mp (shown holds) entry listed).2⟩⟩
  · rintro ⟨textual, distinct, each⟩
    refine ⟨(wellFormed_object fields).mpr ⟨textual, distinct, fun entry listed => (each entry listed).formed⟩,
      (membersReal_iff fields).mpr fun entry listed => (each entry listed).real,
      fun holds => (fieldsShowable_iff fields).mpr fun entry listed => ⟨?_, (each entry listed).shown holds⟩⟩
    obtain ⟨name, same⟩ := textual entry listed
    rw [same]
    rfl

theorem Ordinary.child (ordinary : Ordinary short value) {step : Step} (found : value.child? step = some part) :
    Ordinary short part := by
  cases step with
  | member key =>
      cases value <;> simp only [child?, get?, reduceCtorEq] at found
      exact (ordinary_object.mp ordinary).2.2 _ (Fields.mem_of_get? found)
  | index i =>
      cases value <;> simp only [child?, reduceCtorEq] at found
      exact ordinary_array.mp ordinary _ (List.mem_of_getElem? found)

theorem Ordinary.setChild (ordinary : Ordinary short value) {step : Step} (found : value.child? step = some part)
    {new : Json} (ordinary' : Ordinary short new) : Ordinary short (value.setChild step new) := by
  have formed := wellFormed_setChild ordinary.formed found ordinary'.formed
  cases step with
  | member key =>
      cases value <;> simp only [child?, get?, reduceCtorEq] at found
      obtain ⟨textual, distinct, -⟩ := (wellFormed_object _).mp formed
      refine ordinary_object.mpr ⟨textual, distinct, fun entry listed => ?_⟩
      rcases Fields.mem_put listed with rfl | old
      · exact ordinary'
      · exact (ordinary_object.mp ordinary).2.2 entry old
  | index i =>
      cases value <;> simp only [child?, reduceCtorEq] at found
      refine ordinary_array.mpr fun item listed => ?_
      rcases List.mem_or_eq_of_mem_set listed with old | rfl
      · exact ordinary_array.mp ordinary item old
      · exact ordinary'

theorem Ordinary.removeNames (ordinary : Ordinary short value) (names : List Key) :
    Ordinary short (Structure.removeNames value names) := by
  have formed : (Structure.removeNames value names).wellFormed = true := Structure.removeNames_formed ordinary.formed
  cases value with
  | object fields =>
      obtain ⟨textual, distinct, -⟩ := (wellFormed_object _).mp formed
      exact ordinary_object.mpr ⟨textual, distinct, fun entry listed =>
        (ordinary_object.mp ordinary).2.2 entry ((Fields.sublist_foldl_erase names fields).subset listed)⟩
  | _ => exact ordinary

theorem Ordinary.fillDefault (ordinary : Ordinary short value) {key : Key} (textual : ∃ name, key = .text name)
    {schema : Json} (fills : ∀ default, schema.default? = some default → Ordinary short default) :
    Ordinary short (fillDefault value key schema) := by
  have formed := (fillDefault_filled textual (List.mem_singleton_self key) ordinary.formed
    fun default found => (fills default found).formed).formed
  revert formed
  unfold SchemaAlgebra.fillDefault
  split
  · next fields default found =>
      split
      · exact fun _ => ordinary
      · intro formed
        obtain ⟨textual, distinct, -⟩ := (wellFormed_object _).mp formed
        refine ordinary_object.mpr ⟨textual, distinct, fun entry listed => ?_⟩
        rcases Fields.mem_put listed with rfl | old
        · exact fills default found
        · exact (ordinary_object.mp ordinary).2.2 entry old
  · exact fun _ => ordinary

theorem Ordinary.fillDefaults (ordinary : Ordinary short value) {members : List (Key × Part)}
    (textual : ∀ member ∈ members, ∃ name, member.1 = .text name)
    (fills : ∀ member ∈ members, ∀ default, member.2.schema.default? = some default → Ordinary short default) :
    Ordinary short (fillDefaults members value) := by
  induction members generalizing value with
  | nil => exact ordinary
  | cons member rest ih =>
      exact ih (ordinary.fillDefault (textual member (by simp)) (fills member (by simp)))
        (fun other listed => textual other (by simp [listed])) fun other listed => fills other (by simp [listed])

end Json

/-! Numbers that can be written. -/

theorem writable_of_lt {n : Int} (small : n.natAbs < 10 ^ Numeral.digitLimit) : Json.writable n = true := by
  rw [Json.writable, decide_eq_true_eq, powerOfTen_eq]
  exact small

/-- The whole numbers that doubles are have at most 309 digits. -/
theorem writable_of_toInt? {d : Double} (proper : d.Proper) {n : Int} (whole : d.toInt? = some n) :
    Json.writable n = true := by
  have wider := pow_le_pow_left₀ (by decide : 0 ≤ 2) (by decide : 2 ≤ 10) 1024
  have longer := pow_le_pow_right₀ (by decide : 1 ≤ 10) (by decide : 1024 ≤ Numeral.digitLimit)
  exact writable_of_lt ((Double.natAbs_lt_of_toInt? proper whole).trans_le (wider.trans longer))

namespace Numeral

theorem DigitTail.lt_ten {row : List Char} {ds : List Nat} (tail : DigitTail row ds) : ∀ d ∈ ds, d < 10 := by
  induction tail with
  | done => simp
  | digit digit _ ih => exact List.forall_mem_cons.mpr ⟨Text.digitValue?_lt digit, ih⟩
  | spaced digit _ ih => exact List.forall_mem_cons.mpr ⟨Text.digitValue?_lt digit, ih⟩

theorem DigitRow.worth_lt {row : List Char} {ds : List Nat} (digits : DigitRow row ds) :
    worth ds < 10 ^ ds.length := by
  obtain ⟨digit, tail⟩ := digits
  rw [worth, ← List.length_reverse]
  refine Nat.ofDigits_lt_base_pow_length (by decide) fun d listed => ?_
  rcases List.mem_cons.mp (List.mem_reverse.mp listed) with rfl | later
  · exact Text.digitValue?_lt digit
  · exact tail.lt_ten d later

/-- What is read as a whole numeral is short enough to be written. -/
theorem DenotesWhole.writable {text : List Char} {n : Int} (whole : DenotesWhole text n) :
    Json.writable n = true := by
  obtain ⟨before, numeral, after, count, -, -, -, ⟨signed, digits⟩, short⟩ := whole
  have longer := pow_le_pow_right₀ (by decide : 1 ≤ 10) short
  refine writable_of_lt (lt_of_eq_of_lt ?_ (digits.worth_lt.trans_le longer))
  split <;> simp

end Numeral

namespace Coercion

open Metaschema (typeNames)

variable {short : Prop} {checker : TypeChecker} {value converted : Json} {name : String} {names : List String}

theorem ordinary_int {n : Int} (writable : Json.writable n = true) : Json.Ordinary short (.int n) :=
  ⟨rfl, rfl, fun _ => writable⟩

theorem ordinary_string (text : String) : Json.Ordinary short (.string text) :=
  ⟨rfl, rfl, fun _ => rfl⟩

/-- The numbers that stand for truth values and null can be written. -/
theorem writable_of_le_one {n : Int} (small : n.natAbs ≤ 1) : Json.writable n = true :=
  writable_of_lt (small.trans_lt (Nat.one_lt_pow (by decide) (by decide)))

theorem toNumber?_ordinary (made : toNumber? value = some converted) : Json.Ordinary short converted := by
  cases value with
  | null => exact Option.some.inj made ▸ ordinary_int (writable_of_le_one (by decide))
  | bool b =>
      obtain rfl := Option.some.inj made
      exact ordinary_int (writable_of_le_one (by cases b <;> decide))
  | string text =>
      obtain ⟨n, rfl⟩ | ⟨d, rfl, -⟩ := eq_number_of_toNumber? made
      · exact ordinary_int (toNumber?_int made).writable
      · obtain ⟨-, q, -, nearest⟩ := toNumber?_double made
        exact ⟨rfl, decide_eq_true nearest.proper, fun _ => rfl⟩
  | _ => cases made

theorem toInteger?_ordinary (real : value.real = true) (made : toInteger? value = some converted) :
    Json.Ordinary short converted := by
  obtain ⟨d, n, source, whole, rfl⟩ | ⟨number, -⟩ := toInteger?_cases made
  · have proper : d.Proper := by
      rcases source with rfl | found
      · exact of_decide_eq_true real
      · have ordinary : Json.Ordinary True (.double d) := toNumber?_ordinary found
        exact of_decide_eq_true ordinary.real
    exact ordinary_int (writable_of_toInt? proper whole)
  · exact toNumber?_ordinary number

/-- What a conversion makes can be shown, whatever is converted. -/
theorem convert?_ordinary {type : Json} (real : value.real = true)
    (made : convert? value type = .ok (some converted)) : Json.Ordinary short converted := by
  unfold convert? at made
  split at made
  · obtain ⟨text, rfl⟩ := eq_string_of_toText? made
    exact ordinary_string text
  · exact toNumber?_ordinary (Except.ok.inj made)
  · exact toInteger?_ordinary real (Except.ok.inj made)
  · obtain ⟨b, rfl⟩ := eq_bool_of_toBoolean? (Except.ok.inj made)
    exact ⟨rfl, rfl, fun _ => rfl⟩
  · obtain rfl := eq_null_of_toNull? (Except.ok.inj made)
    exact ⟨rfl, rfl, fun _ => rfl⟩
  · simp at made

theorem integerText_eq_error {n : Int} {fault : Fault} :
    some <$> integerText n = .error fault ↔ Json.writable n = false ∧ fault = .tooManyDigits := by
  unfold integerText
  split
  · next writable => simp [Functor.map, Except.map, writable]
  · next long => simp [Functor.map, Except.map, long, eq_comm]

/-- A conversion fails only if text is asked for a whole number that is too long. -/
theorem convert?_eq_error (real : value.real = true) {fault : Fault} :
    convert? value (.string name) = .error fault ↔
      name = "string" ∧ fault = .tooManyDigits ∧ ∃ n, value = .int n ∧ Json.writable n = false := by
  constructor
  · intro failed
    unfold convert? at failed
    split at failed
    · next same =>
        refine ⟨Json.string.inj same, ?_⟩
        unfold toText? at failed
        split at failed
        · simp at failed
        · simp at failed
        · next n =>
            obtain ⟨long, rfl⟩ := integerText_eq_error.mp failed
            exact ⟨rfl, n, rfl, long⟩
        · split at failed
          · next d n whole =>
              obtain ⟨long, -⟩ := integerText_eq_error.mp failed
              have writable := writable_of_toInt? (of_decide_eq_true real) whole
              cases writable.symm.trans long
          · simp at failed
        · simp at failed
    all_goals simp at failed
  · rintro ⟨rfl, rfl, n, rfl, long⟩
    exact integerText_eq_error.mpr ⟨long, rfl⟩

theorem same_int (m n : Int) : (Number.int m).same (.int n) = decide (m = n) := by
  simp [Number.same, Number.order?, Number.point?, Number.Point.order]

/-- Only text or a number can be made of a whole number that is too long. -/
theorem convert?_long {n : Int} (long : Json.writable n = false) (noText : name ≠ "string") :
    convert? (.int n) (.string name) = .ok none := by
  have large : n ≠ 0 ∧ n ≠ 1 := by
    constructor
    all_goals
      rintro rfl
      cases (writable_of_le_one (by decide)).symm.trans long
  unfold convert?
  split
  · next same => exact absurd (Json.string.inj same) noText
  · rfl
  · rfl
  · simp [toBoolean?, Json.number?, same_int, large, Number.isZero]
  · simp [toNull?, Json.number?, same_int, large, Number.isZero]
  · rfl

theorem conversion?_ordinary {types : List Json} (real : value.real = true)
    (made : conversion? checker types value = .ok (some converted)) : Json.Ordinary short converted := by
  unfold conversion? at made
  split at made
  · simp [pure, Except.pure] at made
  · obtain ⟨held, -, made⟩ := bind_eq_ok.mp made
    split at made
    · simp [pure, Except.pure] at made
    · obtain ⟨-, type, -, -, -, here⟩ := convertFirst?_eq_some made
      exact convert?_ordinary real here

/-- Trying several conversions fails where one fails before any makes something. -/
theorem convertFirst?_eq_error {types : List Json} {fault : Fault} :
    convertFirst? value types = .error fault ↔ ∃ before type after, types = before ++ type :: after ∧
      (∀ earlier ∈ before, convert? value earlier = .ok none) ∧ convert? value type = .error fault := by
  constructor
  · intro failed
    induction types with
    | nil => simp [convertFirst?] at failed
    | cons type rest ih =>
        rw [convertFirst?] at failed
        split at failed
        · next nothing =>
            obtain ⟨before, chosen, after, rfl, earlier, here⟩ := ih failed
            exact ⟨type :: before, chosen, after, rfl, List.forall_mem_cons.mpr ⟨nothing, earlier⟩, here⟩
        · exact ⟨[], type, rest, rfl, by simp, failed⟩
  · rintro ⟨before, type, after, rfl, earlier, failed⟩
    induction before with
    | nil => simp [convertFirst?, failed]
    | cons first rest ih =>
        obtain ⟨nothing, later⟩ := List.forall_mem_cons.mp earlier
        rw [List.cons_append, convertFirst?, nothing]
        exact ih later

/-- Bringing a value to types of known names fails in one case only: it is a whole number too long to be written, and
text is among the types but neither integers nor numbers are. -/
theorem conversion?_eq_error (known : ∀ name ∈ names, name ∈ typeNames) (real : value.real = true) {fault : Fault} :
    conversion? checker (names.map .string) value = .error fault ↔
      fault = .tooManyDigits ∧ "string" ∈ names ∧ "integer" ∉ names ∧ "number" ∉ names ∧
        ∃ n, value = .int n ∧ Json.writable n = false := by
  constructor
  · intro failed
    unfold conversion? at failed
    split at failed
    · simp [pure, Except.pure] at failed
    · rcases hasOneOf_known checker value known with ⟨found, -⟩ | ⟨missed, none⟩
      · simp [found, bind, Except.bind, pure, Except.pure] at failed
      · simp only [missed, bind, Except.bind, Bool.false_eq_true, if_false] at failed
        obtain ⟨before, type, after, order, -, failed⟩ := convertFirst?_eq_error.mp failed
        obtain ⟨before, later, rfl, rfl, rest⟩ := List.map_eq_append_iff.mp order
        obtain ⟨name, after, rfl, rfl, rfl⟩ := List.map_eq_cons_iff.mp rest
        obtain ⟨rfl, rfl, n, rfl, long⟩ := (convert?_eq_error real).mp failed
        have noInteger := none "integer"
        have noNumber := none "number"
        simp only [Json.hasType?, Json.isInteger, Json.number?, Option.isSome_some, Option.some.injEq,
          Bool.true_eq_false, imp_false] at noInteger noNumber
        exact ⟨rfl, by simp, noInteger, noNumber, n, rfl, long⟩
  · rintro ⟨rfl, text, noInteger, noNumber, n, rfl, long⟩
    obtain ⟨before, after, rfl, fresh⟩ := List.eq_append_cons_of_mem text
    have failed : convertFirst? (.int n) ((before ++ "string" :: after).map .string) = .error .tooManyDigits := by
      rw [convertFirst?_eq_error, List.map_append, List.map_cons]
      refine ⟨_, _, _, rfl, fun earlier listed => ?_, (convert?_eq_error rfl).mpr ⟨rfl, rfl, n, rfl, long⟩⟩
      obtain ⟨name, among, rfl⟩ := List.mem_map.mp listed
      exact convert?_long long fun same => fresh (same ▸ among)
    have missed : (Json.int n).hasOneOf checker ((before ++ "string" :: after).map .string) = .ok false := by
      rcases hasOneOf_known checker (.int n) known with ⟨-, name, listed, typed⟩ | ⟨missed, -⟩
      · unfold Json.hasType? at typed
        split at typed
        any_goals cases typed
        · exact absurd listed noInteger
        · exact absurd listed noNumber
      · exact missed
    have some : ((before ++ "string" :: after).map Json.string).isEmpty = false := by simp
    simp only [conversion?, some, missed, failed, bind, Except.bind, Bool.false_eq_true, if_false]

end Coercion

end SchemaAlgebra
