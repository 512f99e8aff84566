import SchemaAlgebra.Proofs.Json.Tree
import SchemaAlgebra.Proofs.Number.Numerals
import SchemaAlgebra.Proofs.Schema.Pointers

/-!
Pointers in the fragments of references. A fragment is a pointer with its percent signs encoded, and decoding gives
the pointer back. Inlining follows a fragment as the pointer is read, in every document, exactly if none of its
tokens is empty and each one that looks like a number is an index: an empty token is passed over, and any other text
of digits is read as a number, or is an error of its own.
-/

namespace SchemaAlgebra

namespace Text

/-- Write percent signs so that decoding leaves them. -/
def percentEncoded (text : List Char) : List Char :=
  text.flatMap fun c => if c = '%' then ['%', '2', '5'] else [c]

theorem percentEncoded_append (text later : List Char) :
    percentEncoded (text ++ later) = percentEncoded text ++ percentEncoded later :=
  List.flatMap_append

theorem utf8Chars_signs (count : Nat) :
    utf8Chars count (List.replicate count 37) = List.replicate count '%' := by
  induction count with
  | zero => rfl
  | succ count ih =>
      rw [List.replicate_succ, utf8Chars, if_pos (by decide), ih, List.replicate_succ]

theorem flushBytes_signs (count : Nat) : flushBytes (List.replicate count 37) = List.replicate count '%' := by
  rw [flushBytes, List.reverse_replicate, List.length_replicate, utf8Chars_signs]

theorem decodeFrom_percentEncoded (count : Nat) (text : List Char) :
    decodeFrom (List.replicate count 37) (percentEncoded text) = List.replicate count '%' ++ text := by
  induction text generalizing count with
  | nil => simpa [percentEncoded, decodeFrom] using flushBytes_signs count
  | cons c rest ih =>
      by_cases sign : c = '%'
      · -- an encoded sign joins the bytes of the run before it
        subst sign
        have collected := ih (count + 1)
        rw [List.replicate_succ, List.replicate_succ', List.append_assoc] at collected
        exact collected
      · have written : percentEncoded (c :: rest) = c :: percentEncoded rest := by
          rw [percentEncoded, List.flatMap_cons, if_neg sign]
          rfl
        rw [written, decodeFrom, flushBytes_signs]
        · exact congrArg _ (congrArg _ (ih 0))
        · rintro a b tail rfl
          exact absurd rfl sign

theorem percentDecoded_percentEncoded (text : List Char) : percentDecoded (percentEncoded text) = text :=
  decodeFrom_percentEncoded 0 text

theorem trimNumeral_of_visible {text : List Char} (visible : Numeral.Visible text) : trimNumeral text = text := by
  have kept : ∀ text : List Char, Numeral.Visible text → text.dropWhile isNumeralBlank = text := by
    intro text visible
    cases text with
    | nil => rfl
    | cons c rest =>
        have shown := visible c (by simp)
        rw [List.dropWhile_cons_of_neg]
        simp [isNumeralBlank, shown]
  have visible' : Numeral.Visible text.reverse := fun c listed => visible c (List.mem_reverse.mp listed)
  rw [trimNumeral, kept text visible, kept _ visible', List.reverse_reverse]

theorem isDigitLike_toString (n : Nat) : (toString n).toList.all isDigitLike = true := by
  have like : ∀ d < 10, isDigitLike (Nat.digitChar d) = true := by decide
  have digits : ∀ n, (Nat.toDigits 10 n).all isDigitLike = true := by
    intro n
    induction n using Nat.strongRecOn with
    | ind n ih =>
        by_cases single : n < 10
        · rw [Nat.toDigits_of_lt_base single]
          simpa using like n single
        · rw [Nat.toDigits_of_base_le (by decide) (not_lt.mp single), List.all_append, ih (n / 10) (by omega)]
          simpa using like (n % 10) (Nat.mod_lt n (by decide))
  have written := digits n
  rwa [← Nat.toList_repr] at written

end Text

namespace Numeral

/-- What is written for a number reads as that number, if it is not too long. -/
theorem readWhole_toString (n : Nat) :
    readWhole (toString n).toList =
      if (toString n).length ≤ digitLimit then .ok n else .error (.tooManyDigits (toString n).length) := by
  obtain ⟨ds, digits, length, value⟩ := digitRow_toDigits n
  have written : (toString n).toList = Nat.toDigits 10 n := Nat.toList_repr
  have long : (toString n).length = ds.length := by
    rw [← String.length_toList, written, length]
  obtain ⟨cut, run⟩ := digits.read_signed Sign.none
  obtain ⟨d, later, rfl⟩ := List.exists_cons_of_ne_nil digits.ne_nil
  rw [List.nil_append] at cut
  simp only [readWhole, written, long, Text.trimNumeral_of_visible digits.visible, cut, run, signed_eq_worth, value]
  by_cases short : (d :: later).length ≤ digitLimit
  · rw [if_neg (not_lt.mpr short), if_pos short]
    rfl
  · rw [if_pos (not_le.mp short), if_neg short]

end Numeral

namespace Pointer

/-- The fragment of a row of tokens. -/
def fragment (tokens : List String) : String :=
  String.ofList (tokens.flatMap fun token => '/' :: Text.percentEncoded (escape token.toList))

theorem toList_fragment (tokens : List String) :
    (fragment tokens).toList = Text.percentEncoded (ofTokens tokens).toList := by
  rw [fragment, String.toList_ofList, toList_ofTokens]
  induction tokens with
  | nil => rfl
  | cons token rest ih =>
      rw [List.flatMap_cons, List.flatMap_cons, Text.percentEncoded_append, ← ih]
      rfl

theorem escape_eq_nil_iff {token : List Char} : escape token = [] ↔ token = [] := by
  constructor
  · intro empty
    rw [← unescape_escape token, empty]
    rfl
  · rintro rfl
    rfl

theorem leadTokens_escaped (value : Json) (tokens : List String) :
    leadTokens value (tokens.map fun token => escape token.toList) =
      (tokens.filter (· ≠ "")).foldlM (fun value token => step value token.toList) value := by
  induction tokens generalizing value with
  | nil => rfl
  | cons token rest ih =>
      by_cases empty : token = ""
      · subst empty
        simpa [leadTokens, escape] using ih value
      · have filled : (escape token.toList).isEmpty = false := by
          simpa [escape_eq_nil_iff, List.isEmpty_iff] using empty
        rw [List.map_cons, leadTokens, filled, if_neg Bool.false_ne_true, unescape_escape,
          List.filter_cons_of_pos (by simpa using empty), List.foldlM_cons]
        exact bind_congr ih

/-- Following a fragment is following its tokens but for the empty ones. -/
theorem lead_fragment (document : Json) (tokens : List String) :
    lead document (fragment tokens) =
      (tokens.filter (· ≠ "")).foldlM (fun value token => step value token.toList) document := by
  rw [lead, toList_fragment, Text.percentDecoded_percentEncoded, splitAtAll_ofTokens, leadTokens,
    if_pos List.isEmpty_nil, leadTokens_escaped]

theorem lead_empty (document : Json) (rest : List String) :
    lead document (fragment ("" :: rest)) = lead document (fragment rest) := by
  rw [lead_fragment, lead_fragment, List.filter_cons_of_neg (by simp)]

theorem lead_cons {token : String} (filled : token ≠ "") (document : Json) (rest : List String) :
    lead document (fragment (token :: rest)) =
      step document token.toList >>= fun child => lead child (fragment rest) := by
  rw [lead_fragment, List.filter_cons_of_pos (by simpa using filled), List.foldlM_cons]
  exact bind_congr fun child => (lead_fragment child rest).symm

theorem follow?_cons (document : Json) (token : String) (rest : List String) :
    follow? document (token :: rest) = (part? document token).bind fun child => follow? child rest :=
  List.foldlM_cons

/-! Tokens. -/

theorem index_toString (n : Nat) :
    index (toString n).toList = if (toString n).length ≤ Numeral.digitLimit then .ok n
      else .error (.flawed (.tooManyDigits (toString n).length)) := by
  rw [index, Numeral.readWhole_toString]
  by_cases short : (toString n).length ≤ Numeral.digitLimit
  · rw [if_pos short, if_pos short]
    rfl
  · rw [if_neg short, if_neg short]

theorem flawed_of_index {token : List Char} {cause : Error} (failed : index token = .error cause) :
    ∃ flaw, cause = .flawed flaw := by
  unfold index at failed
  split at failed
  · cases failed
  · next flaw _ => exact ⟨flaw, (Except.error.inj failed).symm⟩

/-- Whether a token is read alike in a pointer and in a fragment: it is not empty and, if it looks like a number,
an index that is not too long to be read. -/
def Regular (token : String) : Prop :=
  token ≠ "" ∧ (token.toList.all Text.isDigitLike = true →
    ∃ n : Nat, toString n = token ∧ token.length ≤ Numeral.digitLimit)

theorem part?_array_eq_none {items : List Json} {token : String} (unlike : ∀ n : Nat, toString n ≠ token) :
    part? (.array items) token = none := by
  refine Option.eq_none_iff_forall_ne_some.mpr fun item named => ?_
  obtain ⟨n, same, -⟩ := part?_array_eq_some_iff.mp named
  exact unlike n same

theorem step_of_regular {token : String} (regular : Regular token) (value : Json) :
    step value token.toList = (part? value token).elim (.error (.missing token)) .ok := by
  have name : String.ofList token.toList = token := String.ofList_toList
  cases value with
  | object fields =>
      simp only [step, part?, name]
      cases Fields.get? fields (Key.text token) <;> rfl
  | array items =>
      have filled : token.toList.isEmpty = false := by simpa using regular.1
      by_cases digits : token.toList.all Text.isDigitLike = true
      · obtain ⟨n, rfl, short⟩ := regular.2 digits
        have read : index (toString n).toList = .ok n := by rw [index_toString, if_pos short]
        rw [part?_array]
        simp only [step, filled, digits, read, name, Bool.not_false, Bool.and_self, if_true, bind, Except.bind]
        cases items[n]? <;> rfl
      · have unlike : ∀ n : Nat, toString n ≠ token := by
          rintro n rfl
          exact digits (Text.isDigitLike_toString n)
        rw [part?_array_eq_none unlike]
        simp only [step, filled, digits, name, Bool.not_false, Bool.and_false, Bool.false_eq_true, if_false]
        rfl
  | _ =>
      simp only [step, part?, name]
      rfl

/-! Fragments. -/

/-- Whether the fragment of a row of tokens leads where the tokens lead: to the same part or, if they lead nowhere,
to the error that one of them is missing. -/
def Agrees (document : Json) (tokens : List String) : Prop :=
  match follow? document tokens with
  | some part => lead document (fragment tokens) = .ok part
  | none => ∃ token ∈ tokens, lead document (fragment tokens) = .error (.missing token)

variable {document part : Json} {tokens : List String} {token : String}

theorem agrees_iff_of_some (led : follow? document tokens = some part) :
    Agrees document tokens ↔ lead document (fragment tokens) = .ok part := by
  rw [Agrees, led]

theorem agrees_iff_of_none (nowhere : follow? document tokens = none) :
    Agrees document tokens ↔ ∃ token ∈ tokens, lead document (fragment tokens) = .error (.missing token) := by
  rw [Agrees, nowhere]

theorem agrees_of_regular (regular : ∀ token ∈ tokens, Regular token) (document : Json) :
    Agrees document tokens := by
  induction tokens generalizing document with
  | nil => exact lead_fragment document []
  | cons token rest ih =>
      have here := regular token (by simp)
      have later := ih fun other listed => regular other (by simp [listed])
      rw [Agrees, follow?_cons, lead_cons here.1, step_of_regular here]
      cases part? document token with
      | none => exact ⟨token, by simp, rfl⟩
      | some child =>
          have follows := later child
          simp only [Agrees, Option.bind_some, Option.elim_some, bind, Except.bind] at follows ⊢
          split at follows
          · exact follows
          · obtain ⟨other, listed, missing⟩ := follows
            exact ⟨other, by simp [listed], missing⟩

theorem step_missing {value : Json} {token other : String}
    (missing : step value token.toList = .error (.missing other)) : other = token := by
  have name : String.ofList token.toList = token := String.ofList_toList
  cases value with
  | object fields =>
      simp only [step, name] at missing
      split at missing
      · cases missing
      · cases missing
        rfl
  | array items =>
      simp only [step, name] at missing
      split at missing
      · cases read : index token.toList with
        | ok n =>
            simp only [read, bind, Except.bind] at missing
            split at missing
            · cases missing
            · cases missing
              rfl
        | error cause =>
            obtain ⟨flaw, rfl⟩ := flawed_of_index read
            simp only [read, bind, Except.bind] at missing
            cases missing
      · cases missing
        rfl
  | _ =>
      cases missing
      exact name

theorem mem_of_lead_missing
    (missing : lead document (fragment tokens) = .error (.missing token)) : token ∈ tokens := by
  induction tokens generalizing document with
  | nil =>
      rw [lead_fragment] at missing
      cases missing
  | cons front rest ih =>
      by_cases empty : front = ""
      · rw [empty, lead_empty] at missing
        exact List.mem_cons_of_mem _ (ih missing)
      · rw [lead_cons empty] at missing
        cases stepped : step document front.toList with
        | ok child =>
            rw [stepped] at missing
            exact List.mem_cons_of_mem _ (ih missing)
        | error cause =>
            rw [stepped] at missing
            cases missing
            rw [step_missing stepped]
            exact List.mem_cons_self

/-- Objects inside each other, one for each token, around a part. -/
def nest (tokens : List String) (part : Json) : Json :=
  tokens.foldr (fun token inner => .object [(.text token, inner)]) part

theorem part?_member (token : String) (inner : Json) : part? (.object [(.text token, inner)]) token = some inner := by
  simp [part?, Fields.get?]

theorem step_member (token : String) (inner : Json) :
    step (.object [(.text token, inner)]) token.toList = .ok inner := by
  simp [step, Fields.get?]

theorem wellFormed_member {token : String} {inner : Json} (formed : inner.wellFormed = true) :
    (Json.object [(.text token, inner)]).wellFormed = true := by
  rw [Json.wellFormed_object]
  exact ⟨by simp, by simp [Fields.keys], by simpa using formed⟩

theorem wellFormed_nest (tokens : List String) : (nest tokens .null).wellFormed = true := by
  induction tokens with
  | nil => rfl
  | cons token rest ih => exact wellFormed_member ih

theorem follow?_nest (tokens : List String) (part : Json) : follow? (nest tokens part) tokens = some part := by
  induction tokens with
  | nil => rfl
  | cons token rest ih =>
      rw [follow?_cons, nest, List.foldr_cons, part?_member]
      exact ih

theorem lead_nest (tokens : List String) (part : Json) :
    lead (nest (tokens.filter (· ≠ "")) part) (fragment tokens) = .ok part := by
  rw [lead_fragment]
  induction tokens.filter (· ≠ "") with
  | nil => rfl
  | cons token rest ih =>
      rw [List.foldlM_cons, nest, List.foldr_cons, step_member]
      exact ih

/-- The empty name is passed over, and no other one leads into an object that has only this name. -/
theorem lead_blank (inner : Json) (tokens : List String) :
    lead (.object [(.text "", inner)]) (fragment tokens) ≠ .ok .null := by
  induction tokens with
  | nil =>
      rw [lead_fragment]
      intro same
      cases same
  | cons token rest ih =>
      by_cases empty : token = ""
      · rwa [empty, lead_empty]
      · have missing : step (.object [(.text "", inner)]) token.toList = .error (.missing token) := by
          simp [step, Fields.get?, Ne.symm empty]
        rw [lead_cons empty, missing]
        intro same
        cases same

theorem filled_of_agrees (agrees : ∀ document : Json, document.wellFormed = true → Agrees document (token :: tokens)) :
    token ≠ "" := by
  rintro rfl
  have follows := agrees (nest ("" :: tokens) .null) (wellFormed_nest _)
  rw [agrees_iff_of_some (follow?_nest _ _), lead_empty] at follows
  exact lead_blank _ tokens follows

theorem numeral_of_agrees (agrees : ∀ document : Json, document.wellFormed = true → Agrees document (token :: tokens))
    (filled : token ≠ "") (digits : token.toList.all Text.isDigitLike = true) :
    ∃ n : Nat, toString n = token ∧ token.length ≤ Numeral.digitLimit := by
  have guarded : (!token.toList.isEmpty && token.toList.all Text.isDigitLike) = true := by
    simpa [filled] using digits
  cases read : index token.toList with
  | error cause =>
      obtain ⟨flaw, rfl⟩ := flawed_of_index read
      obtain ⟨other, -, same⟩ := (agrees_iff_of_none rfl).mp (agrees (.array []) rfl)
      simp only [lead_cons filled, step, guarded, if_true, read, bind, Except.bind] at same
      cases same
  | ok n =>
      by_cases written : ∃ m : Nat, toString m = token
      · obtain ⟨m, rfl⟩ := written
        rw [index_toString] at read
        split at read
        · next short => exact ⟨m, rfl, short⟩
        · cases read
      · -- a list that is long enough has an item where the token leads nowhere
        have unlike : ∀ m : Nat, toString m ≠ token := fun m same => written ⟨m, same⟩
        let inner := nest (tokens.filter (· ≠ "")) .null
        have formed : (Json.array (List.replicate (n + 1) inner)).wellFormed = true := by
          rw [Json.wellFormed_array]
          intro item listed
          obtain rfl := List.eq_of_mem_replicate listed
          exact wellFormed_nest _
        have nowhere : follow? (.array (List.replicate (n + 1) inner)) (token :: tokens) = none := by
          rw [follow?_cons, part?_array_eq_none unlike, Option.bind_none]
        have item : (List.replicate (n + 1) inner)[n]? = some inner := by simp
        obtain ⟨other, -, same⟩ := (agrees_iff_of_none nowhere).mp (agrees _ formed)
        simp only [lead_cons filled, step, guarded, if_true, read, item, bind, Except.bind, pure, Except.pure, inner,
          lead_nest] at same
        cases same

/-- A fragment leads where its tokens lead in every document exactly if all of its tokens are read alike. -/
theorem fragments_agree_iff (tokens : List String) :
    (∀ document : Json, document.wellFormed = true → Agrees document tokens) ↔ ∀ token ∈ tokens, Regular token := by
  refine ⟨fun agrees => ?_, fun regular document _ => agrees_of_regular regular document⟩
  induction tokens with
  | nil => simp
  | cons token rest ih =>
      have filled := filled_of_agrees agrees
      have within : ∀ document : Json, document.wellFormed = true → Agrees document rest := by
        intro document formed
        have follows := agrees (.object [(.text token, document)]) (wellFormed_member formed)
        simp only [Agrees, follow?_cons, part?_member, lead_cons filled, step_member, Option.bind_some, bind,
          Except.bind] at follows ⊢
        split at follows
        · exact follows
        · obtain ⟨other, -, missing⟩ := follows
          exact ⟨other, mem_of_lead_missing missing, missing⟩
      exact List.forall_mem_cons.mpr ⟨⟨filled, numeral_of_agrees agrees filled⟩, ih within⟩

/-- Separators, indexes and percent signs are read alike. -/
theorem separators_agree :
    (∀ token ∈ ["a/b", "10", "~%25"], Regular token) ∧
      ∀ document : Json, document.wellFormed = true → Agrees document ["a/b", "10", "~%25"] := by
  have regular : ∀ token ∈ ["a/b", "10", "~%25"], Regular token := by
    simp only [List.forall_mem_cons, List.not_mem_nil, false_imp_iff, implies_true, and_true]
    exact ⟨⟨by decide, fun digits => absurd digits (by decide)⟩, ⟨by decide, fun _ => ⟨10, rfl, by decide⟩⟩,
      ⟨by decide, fun digits => absurd digits (by decide)⟩⟩
  exact ⟨regular, (fragments_agree_iff _).mpr regular⟩

/-- An empty token is passed over, a number in other digits or with a leading zero is read, and a raised digit is
an error of another kind. -/
theorem unlike_tokens_stray :
    (follow? (.object [(.text "", .null)]) [""] = some .null ∧
        lead (.object [(.text "", .null)]) (fragment [""]) = .ok (.object [(.text "", .null)]) ∧
        ¬ Agrees (.object [(.text "", .null)]) [""]) ∧
      (∀ token ∈ ["00", "\u0660"], follow? (.array [.null]) [token] = none ∧
        lead (.array [.null]) (fragment [token]) = .ok .null ∧ ¬ Agrees (.array [.null]) [token]) ∧
      follow? (.array [.null]) ["\u00b2"] = none ∧
        lead (.array [.null]) (fragment ["\u00b2"]) = .error (.flawed (.notANumber "\u00b2")) ∧
        ¬ Agrees (.array [.null]) ["\u00b2"] := by
  have stray : ∀ token ∈ ["00", "\u0660"], follow? (.array [.null]) [token] = none ∧
      lead (.array [.null]) (fragment [token]) = .ok .null := by
    simp only [List.forall_mem_cons, List.not_mem_nil, false_imp_iff, implies_true, and_true]
    exact ⟨⟨rfl, rfl⟩, rfl, rfl⟩
  refine ⟨⟨rfl, rfl, ?_⟩, fun token listed => ?_, rfl, rfl, ?_⟩
  · rw [agrees_iff_of_some rfl]
    nofun
  · obtain ⟨nowhere, led⟩ := stray token listed
    refine ⟨nowhere, led, ?_⟩
    rw [agrees_iff_of_none nowhere, led]
    nofun
  · rw [agrees_iff_of_none rfl]
    nofun

end Pointer

end SchemaAlgebra
