import SchemaAlgebra.Json.Basic
import SchemaAlgebra.Number.Numeral
import SchemaAlgebra.Text.Percent
import SchemaAlgebra.Text.Split

/-!
JSON pointers. A pointer is a row of tokens, each after a slash; inside a token a tilde is written
`~0` and a slash `~1`. `lead` follows the pointer in the fragment of a reference, where percent encoding
is undone first and empty tokens are passed over.
-/

namespace SchemaAlgebra.Pointer

/-- Write a token. -/
def escape (token : List Char) : List Char :=
  token.flatMap fun c => if c = '~' then ['~', '0'] else if c = '/' then ['~', '1'] else [c]

/-- Read a token. -/
def unescape : List Char → List Char
  | '~' :: '1' :: rest => '/' :: unescape rest
  | '~' :: '0' :: rest => '~' :: unescape rest
  | c :: rest => c :: unescape rest
  | [] => []

theorem unescape_escape (token : List Char) : unescape (escape token) = token := by
  induction token with
  | nil => rfl
  | cons c rest ih =>
      by_cases tilde : c = '~'
      · simp_all [escape, unescape]
      · by_cases slash : c = '/'
        · simp_all [escape, unescape]
        · simp only [escape, List.flatMap_cons, tilde, slash, if_false] at ih ⊢
          rw [List.cons_append, List.nil_append, unescape]
          · rw [ih]
          · simp [tilde]
          · simp [tilde]

theorem slash_notMem_escape (token : List Char) : '/' ∉ escape token := by
  simp only [escape, List.mem_flatMap, not_exists, not_and]
  intro c _
  split
  · decide
  · split <;> simp_all [eq_comm]

/-- A pointer followed by one more token. -/
def extend (pointer : String) (token : String) : String :=
  pointer ++ "/" ++ String.ofList (escape token.toList)

/-- Why a pointer leads nowhere. -/
inductive Error
  /-- There is no such part. -/
  | missing (token : String)
  /-- A token that looks like a number is none. -/
  | flawed (flaw : Numeral.Flaw)

/-- The index that a token of digits denotes. -/
def index (token : List Char) : Except Error Nat :=
  match Numeral.readWhole token with
  | .ok n => .ok n.toNat
  | .error flaw => .error (.flawed flaw)

/-- The part of a value that one token names. -/
def step (value : Json) (token : List Char) : Except Error Json :=
  let name := String.ofList token
  match value with
  | .object fields =>
      match Fields.get? fields name with
      | some child => .ok child
      | none => .error (.missing name)
  | .array items =>
      if !token.isEmpty && token.all Text.isDigitLike then do
        match items[← index token]? with
        | some item => return item
        | none => .error (.missing name)
      else .error (.missing name)
  | _ => .error (.missing name)

/-- Follow tokens from a value; empty ones are passed over. -/
def leadTokens (value : Json) : List (List Char) → Except Error Json
  | [] => .ok value
  | token :: rest =>
      if token.isEmpty then leadTokens value rest
      else do leadTokens (← step value (unescape token)) rest

/-- Follow the fragment of a reference from the root of a document. -/
def lead (document : Json) (fragment : String) : Except Error Json :=
  leadTokens document (Text.splitAtAll '/' (Text.percentDecoded fragment.toList))

end SchemaAlgebra.Pointer
