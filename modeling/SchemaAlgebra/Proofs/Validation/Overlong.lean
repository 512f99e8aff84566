import SchemaAlgebra.Proofs.Validation.Endings
import SchemaAlgebra.Proofs.Validation.Lists

/-!
Numbers that are too long to be written make validations fail: one in the value if the value has to be told to be no
text, and one in a default if the default is filled in before that. So simple schemas are safe for exactly those values
and defaults that can be shown.
-/

namespace SchemaAlgebra.Validation

open Outcome Schema Evaluation

variable {options : Options} {value : Json}

/-- The schema that asks for text. -/
def textSchema : Json :=
  .object [("type", .string "string")]

/-- The schema that offers a default for a property before it asks for text. -/
def defaultSchema (default : Json) : Json :=
  .object [("properties", .object [("a", .object [("default", default)])]), ("type", .string "string")]

theorem writable_limit : Json.writable (10 ^ Numeral.digitLimit) = false := by
  simp [Json.writable, powerOfTen_eq, Int.natAbs_pow]

/-! Schemas with a single keyword that holds no schemas. -/

theorem within_single {keyword : String} {argument : Json} (simple : IsSimple keyword)
    (flat : heldBy keyword argument = []) : Within IsSimple (.object [(.text keyword, argument)]) := by
  refine .object (fun other argument' present => ?_) (fun other argument' present schema held => ?_)
  all_goals
    rw [List.mem_singleton, Prod.mk.injEq, Key.text.injEq] at present
    obtain ⟨rfl, rfl⟩ := present
  · exact simple
  · cases flat ▸ held

theorem offers_single {keyword : String} {argument : Json} (other : keyword ≠ "properties")
    (flat : heldBy keyword argument = []) (default : Json) :
    ¬Offers (.object [(.text keyword, argument)]) default := by
  intro offers
  cases offers with
  | here found =>
      obtain ⟨same, -⟩ := Prod.mk.inj (List.mem_singleton.mp (Fields.mem_of_get? found))
      exact other (Key.text.inj same).symm
  | deeper found held =>
      obtain ⟨same, rfl⟩ := Prod.mk.inj (List.mem_singleton.mp (Fields.mem_of_get? found))
      obtain rfl := Key.text.inj same
      cases flat ▸ held

theorem textSchema_simple : Simple textSchema where
  within := within_single (.inl (by decide)) rfl
  formed := by decide
  real := by decide
  checked := by decide

theorem textSchema_offers (default : Json) : ¬Offers textSchema default :=
  offers_single (by decide) rfl default

theorem defaultSchema_simple {default : Json} (formed : default.wellFormed = true) (real : default.real = true) :
    Simple (defaultSchema default) where
  within := by
    refine .object (fun keyword argument present => ?_) (fun keyword argument present schema held => ?_)
    all_goals
      simp only [List.mem_cons, List.not_mem_nil, or_false, Prod.mk.injEq, Key.text.injEq] at present
      obtain ⟨rfl, rfl⟩ | ⟨rfl, rfl⟩ := present
    · exact .inl (by decide)
    · exact .inl (by decide)
    · obtain rfl := List.mem_singleton.mp held
      exact within_single (.inr (.inr (by decide))) rfl
    · cases held
  formed := by simp [defaultSchema, Json.wellFormed, Json.membersWellFormed, formed, Fields.keys, Key.text?]
  real := by simp [defaultSchema, Json.real, Json.membersReal, real]
  checked := by cases default <;> rfl

/-- The schema offers its default and nothing else. -/
theorem defaultSchema_offers {default other : Json} : Offers (defaultSchema default) other ↔ other = default := by
  constructor
  · intro offers
    cases offers with
    | here found listed given =>
        obtain rfl := Json.object.inj (Option.some.inj found)
        obtain ⟨rfl, rfl⟩ := Prod.mk.inj (List.mem_singleton.mp listed)
        exact (Option.some.inj given).symm
    | deeper found held offers =>
        have present := Fields.mem_of_get? found
        simp only [List.mem_cons, List.not_mem_nil, or_false, Prod.mk.injEq, Key.text.injEq] at present
        obtain ⟨rfl, rfl⟩ | ⟨rfl, rfl⟩ := present
        · obtain rfl := List.mem_singleton.mp held
          exact absurd offers (offers_single (by decide) rfl other)
        · cases held
  · rintro rfl
    exact .here rfl (List.mem_singleton_self _) rfl

/-- What cannot be shown cannot be told to be no text. -/
theorem checkType_long (long : value.isShowable = false) :
    Keyword.checkType (.string "string") value = .fail value .tooManyDigits := by
  have missed : value.hasOneOf .byValue [.string "string"] = .ok false := by
    cases value with
    | string text => cases long
    | _ => rfl
  simp [Keyword.checkType, missed, reject, long]

theorem conversion?_long {n : Int} (long : Json.writable n = false) :
    Coercion.conversion? .byValue [.string "string"] (.int n) = .error .tooManyDigits := by
  have known : ∀ name ∈ ["string"], name ∈ Metaschema.typeNames := by decide
  exact (Coercion.conversion?_eq_error known rfl).mpr ⟨rfl, by decide, by decide, by decide, n, rfl, long⟩

/-- What cannot be shown is not brought to text: a container never is, and a whole number would be written. -/
theorem textSchema_coerce (options : Options) (long : value.isShowable = false) :
    (alone textSchema).coerce options value = .ok none ∨
      (alone textSchema).coerce options value = .error .tooManyDigits := by
  cases value with
  | int n => exact .inr (conversion?_long long)
  | array items => exact .inl rfl
  | object fields => exact .inl rfl
  | _ => cases long

theorem textSchema_long (options : Options) (long : value.isShowable = false) :
    (validate options textSchema value).verdict = .faulty .tooManyDigits := by
  have closed : Reference.count "$ref" textSchema = 0 := by decide
  have root : rootOutcome options textSchema value = fail value .tooManyDigits := by
    rw [textSchema, rootOutcome_closed closed, evaluateNode_closed _ _ (by decide)]
    change chain .all [Keyword.checkType (.string "string")] value = _
    rw [chain_cons, checkType_long long, andThen_of_fault (by simp [fail])]
  rcases textSchema_coerce options long with left | failed
  · rw [validate_unconverted closed left, root]
    rfl
  · by_cases converts : options.coerceTypes = true
    · simp [validate, partIn_closed closed, coerceRoot, converts, failed, bind, Except.bind]
    · simp only [validate, partIn_closed closed, coerceRoot, converts, Bool.false_eq_true, if_false]
      exact resultOf_faulty.mpr (congrArg Outcome.fault root)

/-- A schema that does nothing but offer a default takes every value as it is. -/
theorem offer_idle (default : Json) (meaning : Meaning) (location : String) (options : Options) (extent : Extent)
    (value : Json) :
    (partWith meaning location (.object [("default", default)])).coerce options value = .ok none ∧
      (partWith meaning location (.object [("default", default)])).enter options extent value = accept value := by
  have absent : ∀ keyword ∈ ["oneOf", "anyOf", "allOf"],
      Fields.get? [(Key.text "default", default)] (.text keyword) = none := by
    simp [Fields.get?]
  rw [partWith_object]
  constructor
  · have untyped : Coercion.declaredTypes (.object [("default", default)]) = [] := rfl
    simp [coerceNode, untyped, coercionBranches_eq_nil absent, bind, Except.bind, pure, Except.pure]
  · have entered : Reference.enter location (.object [("default", default)]) = .ok location := rfl
    have inForce : optionsIn [("default", default)] options = .ok options := rfl
    simp only [enterNode, entered, given, runNode, inForce]
    rw [evaluateNode_closed _ _ rfl]
    refine chain_of_accept fun step listed => ?_
    obtain rfl := List.mem_singleton.mp listed
    have silent : "default" ∉ evaluatedKeywords := by decide
    exact Structure.evaluate_silent silent ..

/-- The declared property is filled in before the type is looked at. -/
theorem defaultSchema_fills (default : Json) (meaning : Meaning) (location : String)
    (fills : options.useDefaults = true) (extent : Extent) :
    Structure.properties (argumentWith meaning location (.object [("a", .object [("default", default)])])) options
      extent (.object []) = accept (.object [("a", default)]) := by
  have filled : fillDefaults (memberPartsWith meaning location [("a", .object [("default", default)])])
      (.object []) = .object [("a", default)] := by
    rw [memberPartsWith_eq_map]
    simp [fillDefaults, fillDefault, Json.default?, Json.get?, Json.has, Fields.get?, Fields.put]
  have found : (Json.object [("a", default)]).child? (.member "a") = some default := rfl
  have idle := offer_idle default meaning location options extent default
  rw [Structure.properties_eq _ rfl, if_pos fills, filled]
  refine chain_of_accept fun step listed => ?_
  rcases List.mem_append.mp listed with coercion | descent
  · split at coercion
    · obtain rfl := List.mem_singleton.mp coercion
      simp only [Part.coerceAt, found, idle.1, given]
    · cases coercion
  · obtain rfl := List.mem_singleton.mp descent
    simp only [Part.descend, found, idle.2]
    exact within_eq_accept.mpr ⟨default, rfl, Json.setChild_of_child? found⟩

theorem defaultSchema_long (fills : options.useDefaults = true) {default : Json}
    (long : default.isShowable = false) :
    (validate options (defaultSchema default) (.object [])).verdict = .faulty .tooManyDigits := by
  have long' : (Json.object [("a", default)]).isShowable = false := by
    simp [Json.isShowable, Json.fieldsShowable, long]
  simp only [validate, coerceRoot_container (show (Json.object []).isContainer = true from rfl)]
  refine resultOf_faulty.mpr ?_
  simp only [defaultSchema, evaluateRoot]
  rw [evaluateNode_closed _ _ (by rfl)]
  change (chain .all [Structure.properties (argumentWith _ _ (.object [("a", .object [("default", default)])])) options
    .all, Keyword.checkType (.string "string")] (.object [])).fault = _
  rw [chain_cons, defaultSchema_fills default _ _ fills, accept_andThen, chain_cons, checkType_long long',
    andThen_of_fault (by simp [fail])]
  rfl

/-- If a validation with a simple schema fails, then for a whole number that is too long to be written, which stands in
the value or in a default that can be filled in. -/
theorem overlong_of_faulty {schema : Json} (simple : Simple schema) (formed : value.wellFormed = true)
    (real : value.real = true) {fault : Fault} (faulty : (validate options schema value).verdict = .faulty fault) :
    fault = .tooManyDigits ∧ (value.isShowable = false ∨
      options.useDefaults = true ∧ ∃ default, Offers schema default ∧ default.isShowable = false) := by
  -- What is short here is everything that the validation can come across.
  let short := value.isShowable = true ∧
    (options.useDefaults = true → ∀ default, Offers schema default → default.isShowable = true)
  have ordinary : Json.Ordinary short value := ⟨formed, real, And.left⟩
  have filled : options.useDefaults = true → ∀ default, Offers schema default → Json.Ordinary short default :=
    fun fill default offers =>
      have ⟨formed, real⟩ := offers.ordinary simple.formed simple.real
      ⟨formed, real, fun holds => holds.2 fill default offers⟩
  obtain ⟨rfl, long⟩ := validate_tame simple ordinary filled faulty
  refine ⟨rfl, ?_⟩
  by_cases shown : value.isShowable = true
  · have given := not_and.mp long shown
    push Not at given
    obtain ⟨fill, default, offers, hidden⟩ := given
    exact .inr ⟨fill, default, offers, Bool.eq_false_iff.mpr hidden⟩
  · exact .inl (Bool.eq_false_iff.mpr shown)

/-- A validation with a simple schema fails only for a whole number that is too long to be written, in the value or in a
default that can be filled in. A value with such a number makes the validation with some simple schema fail, and if
defaults are filled in, then as a default as well. Bringing the value to types fails exactly if it is such a number
itself, text is among the types, and none of them is a type of numbers. -/
theorem faults_iff_overlong (options : Options) (formed : value.wellFormed = true) (real : value.real = true) :
    (∀ schema fault, Simple schema → (validate options schema value).verdict = .faulty fault →
      fault = .tooManyDigits ∧ (value.isShowable = false ∨
        options.useDefaults = true ∧ ∃ default, Offers schema default ∧ default.isShowable = false)) ∧
    (value.isShowable = false ↔ ∃ schema, Simple schema ∧ (∀ default, ¬Offers schema default) ∧
      ∃ fault, (validate options schema value).verdict = .faulty fault) ∧
    (options.useDefaults = true → (value.isShowable = false ↔ ∃ schema, Simple schema ∧
      (∀ default, Offers schema default → default = value) ∧
        ∃ fault, (validate options schema (.object [])).verdict = .faulty fault)) ∧
    ∀ (checker : TypeChecker) (names : List String) (fault : Fault), (∀ name ∈ names, name ∈ Metaschema.typeNames) →
      (Coercion.conversion? checker (names.map .string) value = .error fault ↔
        fault = .tooManyDigits ∧ "string" ∈ names ∧ "integer" ∉ names ∧ "number" ∉ names ∧
          ∃ n, value = .int n ∧ Json.writable n = false) := by
  refine ⟨fun schema fault simple faulty => overlong_of_faulty simple formed real faulty, ⟨fun long => ?_, ?_⟩,
    fun fills => ⟨fun long => ?_, ?_⟩, fun checker names fault known => Coercion.conversion?_eq_error known real⟩
  · exact ⟨textSchema, textSchema_simple, textSchema_offers, _, textSchema_long options long⟩
  · rintro ⟨schema, simple, offersNone, fault, faulty⟩
    obtain ⟨-, long | ⟨-, default, offers, -⟩⟩ := overlong_of_faulty simple formed real faulty
    · exact long
    · exact absurd offers (offersNone default)
  · exact ⟨defaultSchema value, defaultSchema_simple formed real, fun default => defaultSchema_offers.mp, _,
      defaultSchema_long fills long⟩
  · rintro ⟨schema, simple, offersIt, fault, faulty⟩
    obtain ⟨-, long | ⟨-, default, offers, long⟩⟩ := overlong_of_faulty simple (by decide) (by decide) faulty
    · cases long
    · exact offersIt default offers ▸ long

/-- A number of two digits is told to be no text, and bringing it to texts or truth values does not fail. -/
theorem twelve_told : (Json.int 12).wellFormed = true ∧ (Json.int 12).real = true ∧
    (∀ fault, (validate .all textSchema (.int 12)).verdict ≠ .faulty fault) ∧
    ∀ fault, Coercion.conversion? .byValue [.string "boolean", .string "string"] (.int 12) ≠ .error fault := by
  have short : Json.writable 12 = true :=
    writable_of_lt ((show 12 < 10 ^ 2 by decide).trans_le (Nat.pow_le_pow_right (by decide) (by decide)))
  have formed : (Json.int 12).wellFormed = true := rfl
  have real : (Json.int 12).real = true := rfl
  obtain ⟨ends, -, -, converts⟩ := faults_iff_overlong .all formed real
  refine ⟨formed, real, fun fault faulty => ?_, fun fault failed => ?_⟩
  · obtain ⟨-, long | ⟨-, default, offers, -⟩⟩ := ends _ _ textSchema_simple faulty
    · cases short.symm.trans long
    · exact textSchema_offers default offers
  · have known : ∀ name ∈ ["boolean", "string"], name ∈ Metaschema.typeNames := by decide
    obtain ⟨-, -, -, -, n, same, long⟩ := (converts .byValue _ fault known).mp failed
    obtain rfl := Json.int.inj same
    cases short.symm.trans long

/-- The least number that is too long is no text, but it cannot be told so, nor can it be made one. -/
theorem leastOverlong_fails : Simple textSchema ∧ (validate .all textSchema (.int (10 ^ 4300))).verdict =
      .faulty .tooManyDigits ∧
    Coercion.conversion? .byValue [.string "string"] (.int (10 ^ 4300)) = .error .tooManyDigits := by
  exact ⟨textSchema_simple, textSchema_long .all writable_limit, conversion?_long writable_limit⟩

end SchemaAlgebra.Validation
