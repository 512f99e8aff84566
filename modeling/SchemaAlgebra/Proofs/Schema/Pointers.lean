import SchemaAlgebra.Proofs.Running
import SchemaAlgebra.Schema.Pointer

/-!
Reading pointers. A pointer is a row of tokens, and a token names one part of a value: the member of an object
with exactly this key, or the item of a list whose index it is, in decimal digits without leading zeros. A pointer
that is written for tokens is read as these tokens, whatever characters they hold, so different tokens have
different pointers.
-/

namespace SchemaAlgebra

namespace Text

variable {separator : Char} {text : List Char}

theorem splitAtAll_of_notMem (free : separator ∉ text) : splitAtAll separator text = [text] := by
  induction text with
  | nil => rfl
  | cons c rest ih =>
      obtain ⟨other, later⟩ := List.ne_and_not_mem_of_not_mem_cons free
      rw [splitAtAll, if_neg (Ne.symm other), ih later]

theorem splitAtAll_append (free : separator ∉ text) (rest : List Char) :
    splitAtAll separator (text ++ separator :: rest) = text :: splitAtAll separator rest := by
  induction text with
  | nil => rw [List.nil_append, splitAtAll, if_pos rfl]
  | cons c text ih =>
      obtain ⟨other, later⟩ := List.ne_and_not_mem_of_not_mem_cons free
      rw [List.cons_append, splitAtAll, if_neg (Ne.symm other), ih later]

theorem splitAtAll_append_cons (separator : Char) (text rest : List Char) :
    splitAtAll separator (text ++ separator :: rest) = splitAtAll separator text ++ splitAtAll separator rest := by
  induction text with
  | nil => simp [splitAtAll]
  | cons c text ih =>
      obtain ⟨first, others, parts⟩ := List.exists_cons_of_ne_nil (splitAtAll_ne_nil separator text)
      rw [List.cons_append, splitAtAll, splitAtAll, ih, parts]
      split <;> rfl

theorem notMem_of_mem_splitAtAll {text part : List Char} (listed : part ∈ splitAtAll separator text) :
    separator ∉ part := by
  induction text generalizing part with
  | nil => simp_all [splitAtAll]
  | cons c text ih =>
      obtain ⟨first, others, parts⟩ := List.exists_cons_of_ne_nil (splitAtAll_ne_nil separator text)
      rw [parts] at ih
      rw [splitAtAll, parts] at listed
      split at listed
      · rcases List.mem_cons.mp listed with rfl | listed
        · exact List.not_mem_nil
        · exact ih listed
      next other =>
        rcases List.mem_cons.mp listed with rfl | listed
        · simp [Ne.symm other, ih (List.mem_cons_self)]
        · exact ih (List.mem_cons_of_mem _ listed)

theorem splitAtAll_joinWith {parts : List (List Char)} (some : parts ≠ [])
    (free : ∀ part ∈ parts, separator ∉ part) : splitAtAll separator (joinWith separator parts) = parts := by
  induction parts with
  | nil => exact absurd rfl some
  | cons part rest ih =>
      obtain ⟨first, later⟩ := List.forall_mem_cons.mp free
      cases rest with
      | nil => exact splitAtAll_of_notMem first
      | cons other rest =>
          rw [joinWith, splitAtAll_append first, ih (List.cons_ne_nil _ _) later]
          simp

/-- Texts that are alike are alike before the first separator and behind it. -/
theorem append_cons_inj {first first' rest rest' : List Char} (free : separator ∉ first) (free' : separator ∉ first')
    (same : first ++ separator :: rest = first' ++ separator :: rest') : first = first' ∧ rest = rest' := by
  have parts := congrArg (splitAtAll separator) same
  rw [splitAtAll_append free, splitAtAll_append free'] at parts
  obtain ⟨head, later⟩ := List.cons.inj parts
  refine ⟨head, ?_⟩
  rw [← joinWith_splitAtAll separator rest, later, joinWith_splitAtAll]

end Text

namespace Pointer

/-- The part of a value that a token names: the member with this key, or the item with this index. -/
def part? (value : Json) (token : String) : Option Json :=
  match value with
  | .object fields => Fields.get? fields token
  | .array items =>
      ((List.range items.length).find? fun index => toString index = token).bind fun index => items[index]?
  | _ => none

/-- The part of a value that a row of tokens leads to. -/
def follow? (value : Json) (tokens : List String) : Option Json :=
  tokens.foldlM part? value

/-- The tokens of a pointer: what stands behind each of its slashes. -/
def tokens (pointer : String) : List String :=
  ((Text.splitAtAll '/' pointer.toList).drop 1).map fun token => String.ofList (unescape token)

/-- The part of a document that a pointer names. -/
def read? (document : Json) (pointer : String) : Option Json :=
  follow? document (tokens pointer)

/-- The pointer of a row of tokens. -/
def ofTokens (tokens : List String) : String :=
  tokens.foldl extend ""

example : read? (.object [("a/b", .array [.null, .bool true])]) "/a~1b/1" = some (.bool true) := by rfl
example : read? (.array [.null, .bool true]) "/01" = none := by rfl

/-! Parts of values. -/

/-- Numbers that are written alike are the same number. -/
theorem toString_injective {n m : Nat} (same : toString n = toString m) : n = m := by
  have digits : Nat.toDigits 10 n = Nat.toDigits 10 m := by
    rw [← Nat.toList_repr, ← Nat.toList_repr]
    exact congrArg String.toList same
  rw [← Nat.ofDigitChars_toDigits (b := 10) (n := n) (by decide) (by decide), digits,
    Nat.ofDigitChars_toDigits (by decide) (by decide)]

theorem part?_array_eq_some_iff {items : List Json} {token : String} {item : Json} :
    part? (.array items) token = some item ↔ ∃ index : Nat, toString index = token ∧ items[index]? = some item := by
  rw [part?, Option.bind_eq_some_iff]
  constructor
  · rintro ⟨index, found, there⟩
    exact ⟨index, by simpa using List.find?_some found, there⟩
  · rintro ⟨index, rfl, there⟩
    refine ⟨index, ?_, there⟩
    obtain ⟨bound, -⟩ := List.getElem?_eq_some_iff.mp there
    rw [List.find?_range_eq_some]
    refine ⟨by simp, by simpa using bound, fun other less => ?_⟩
    have apart : toString other ≠ toString index := fun same => Nat.ne_of_lt less (toString_injective same)
    simpa using apart

theorem part?_array {items : List Json} (index : Nat) : part? (.array items) (toString index) = items[index]? := by
  cases there : items[index]? with
  | some item => exact part?_array_eq_some_iff.mpr ⟨index, rfl, there⟩
  | none =>
      refine Option.eq_none_iff_forall_ne_some.mpr fun item named => ?_
      obtain ⟨other, same, found⟩ := part?_array_eq_some_iff.mp named
      obtain rfl := toString_injective same
      rw [there] at found
      cases found

theorem follow?_append (value : Json) (tokens later : List String) :
    follow? value (tokens ++ later) = (follow? value tokens).bind fun part => follow? part later := by
  rw [follow?, List.foldlM_append]
  rfl

theorem follow?_concat {value part : Json} {tokens : List String} (led : follow? value tokens = some part)
    (token : String) : follow? value (tokens ++ [token]) = part? part token := by
  rw [follow?_append, led, Option.bind_some, follow?, List.foldlM_cons]
  cases part? part token <;> rfl

/-- A property that objects hand down to their members and lists to their items. -/
structure Inherited (property : Json → Prop) : Prop where
  member : ∀ {fields : List (Key × Json)}, property (.object fields) → ∀ entry ∈ fields, property entry.2
  item : ∀ {items : List Json}, property (.array items) → ∀ item ∈ items, property item

section

variable {property : Json → Prop} {value child found : Json}

theorem Inherited.step (inherited : Inherited property) {token : List Char} (holds : property value)
    (stepped : step value token = .ok child) : property child := by
  unfold Pointer.step at stepped
  cases value with
  | object fields =>
      simp only at stepped
      split at stepped
      · next there =>
          obtain rfl := Except.ok.inj stepped
          exact inherited.member holds _ (Fields.mem_of_get? there)
      · cases stepped
  | array items =>
      simp only at stepped
      split at stepped
      · obtain ⟨i, -, stepped⟩ := bind_eq_ok.mp stepped
        split at stepped
        · next there =>
            obtain rfl := Except.ok.inj stepped
            exact inherited.item holds _ (List.mem_of_getElem? there)
        · cases stepped
      · cases stepped
  | _ => cases stepped

/-- What tokens lead to inherits what is handed down. -/
theorem Inherited.leadTokens (inherited : Inherited property) {tokens : List (List Char)} (holds : property value)
    (led : leadTokens value tokens = .ok found) : property found := by
  induction tokens generalizing value with
  | nil =>
      obtain rfl := Except.ok.inj led
      exact holds
  | cons token rest ih =>
      rw [Pointer.leadTokens] at led
      split at led
      · exact ih holds led
      · obtain ⟨child, stepped, led⟩ := bind_eq_ok.mp led
        exact ih (inherited.step holds stepped) led

end

/-! Pointers of tokens. -/

theorem toList_extend (pointer token : String) :
    (extend pointer token).toList = pointer.toList ++ '/' :: escape token.toList := by
  simp [extend]

theorem ofTokens_concat (tokens : List String) (token : String) :
    ofTokens (tokens ++ [token]) = extend (ofTokens tokens) token := by
  simp [ofTokens]

theorem toList_ofTokens (tokens : List String) :
    (ofTokens tokens).toList = tokens.flatMap fun token => '/' :: escape token.toList := by
  have behind : ∀ pointer, (tokens.foldl extend pointer).toList =
      pointer.toList ++ tokens.flatMap fun token => '/' :: escape token.toList := by
    induction tokens with
    | nil => simp
    | cons token rest ih =>
        intro pointer
        rw [List.foldl_cons, ih, toList_extend, List.flatMap_cons, List.append_assoc]
  exact behind ""

/-- The text behind one slash goes to the next one. -/
theorem splitAtAll_tokens {text : List Char} (free : '/' ∉ text) (tokens : List String) :
    Text.splitAtAll '/' (text ++ tokens.flatMap fun token => '/' :: escape token.toList) =
      text :: tokens.map fun token => escape token.toList := by
  induction tokens generalizing text with
  | nil => simpa using Text.splitAtAll_of_notMem free
  | cons token rest ih =>
      rw [List.flatMap_cons, List.cons_append, Text.splitAtAll_append free,
        ih (slash_notMem_escape token.toList), List.map_cons]

theorem splitAtAll_ofTokens (tokens : List String) :
    Text.splitAtAll '/' (ofTokens tokens).toList = [] :: tokens.map fun token => escape token.toList := by
  rw [toList_ofTokens, ← List.nil_append (tokens.flatMap _), splitAtAll_tokens List.not_mem_nil]

theorem tokens_ofTokens (tokens : List String) : Pointer.tokens (ofTokens tokens) = tokens := by
  rw [Pointer.tokens, splitAtAll_ofTokens, List.drop_one, List.tail_cons, List.map_map]
  have back : ∀ token ∈ tokens, String.ofList (unescape (escape token.toList)) = token := fun token _ => by
    rw [unescape_escape, String.ofList_toList]
  exact (List.map_congr_left back).trans (List.map_id tokens)

theorem ofTokens_injective {tokens others : List String} (same : ofTokens tokens = ofTokens others) :
    tokens = others := by
  rw [← tokens_ofTokens tokens, same, tokens_ofTokens]

theorem read?_ofTokens (document : Json) (tokens : List String) :
    read? document (ofTokens tokens) = follow? document tokens := by
  rw [read?, tokens_ofTokens]

/-- A token without slashes and tildes is written as it is. -/
theorem escape_of_plain {token : List Char} (plain : ∀ c ∈ token, c ≠ '~' ∧ c ≠ '/') : escape token = token := by
  induction token with
  | nil => rfl
  | cons c rest ih =>
      have here := plain c (by simp)
      have later := ih fun other member => plain other (by simp [member])
      rw [escape, List.flatMap_cons, if_neg here.1, if_neg here.2, ← escape, later]
      rfl

theorem extend_of_plain {token : String} (plain : ∀ c ∈ token.toList, c ≠ '~' ∧ c ≠ '/') (pointer : String) :
    extend pointer token = pointer ++ "/" ++ token := by
  rw [extend, escape_of_plain plain, String.ofList_toList]

theorem extend_toString (pointer : String) (index : Nat) :
    extend pointer (toString index) = pointer ++ "/" ++ toString index := by
  refine extend_of_plain (fun c listed => ?_) pointer
  have digit : c.isDigit = true :=
    Nat.isDigit_of_mem_toDigits (by decide) (by decide) (Nat.toList_repr ▸ listed)
  constructor
  · rintro rfl
    exact absurd digit (by decide)
  · rintro rfl
    exact absurd digit (by decide)

end Pointer

end SchemaAlgebra
