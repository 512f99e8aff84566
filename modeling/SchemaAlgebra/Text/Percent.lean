import SchemaAlgebra.Text.Code

/-!
Percent encoding. A percent sign with two hexadecimal digits stands for a byte; runs of bytes are read
as UTF-8, and what is not UTF-8 becomes replacement characters. A percent sign without two digits
stands for itself.
-/

namespace SchemaAlgebra.Text

/-- The value of a hexadecimal digit. -/
def nibble? (c : Char) : Option Nat :=
  if '0' ≤ c ∧ c ≤ '9' then some (c.toNat - 48)
  else if 'a' ≤ c ∧ c ≤ 'f' then some (c.toNat - 87)
  else if 'A' ≤ c ∧ c ≤ 'F' then some (c.toNat - 55)
  else none

/-- The bytes that may follow a first byte of UTF-8: how many, and the bounds of the second one. -/
def continuation? (first : Nat) : Option (Nat × Nat × Nat) :=
  if 0xC2 ≤ first ∧ first ≤ 0xDF then some (1, 0x80, 0xBF)
  else if first = 0xE0 then some (2, 0xA0, 0xBF)
  else if first = 0xED then some (2, 0x80, 0x9F)
  else if 0xE1 ≤ first ∧ first ≤ 0xEF then some (2, 0x80, 0xBF)
  else if first = 0xF0 then some (3, 0x90, 0xBF)
  else if 0xF1 ≤ first ∧ first ≤ 0xF3 then some (3, 0x80, 0xBF)
  else if first = 0xF4 then some (3, 0x80, 0x8F)
  else none

/-- The longest start of a list of bytes that continues a character: the bits it adds and how many
bytes it takes. -/
def takeContinuation : (count low high : Nat) → (code : Nat) → List Nat → Nat × Nat
  | 0, _, _, code, _ => (code, 0)
  | _ + 1, _, _, code, [] => (code, 0)
  | count + 1, low, high, code, byte :: rest =>
      if low ≤ byte ∧ byte ≤ high then
        let (final, taken) := takeContinuation count 0x80 0xBF (code * 64 + byte % 64) rest
        (final, taken + 1)
      else (code, 0)

/-- The characters of a list of bytes. -/
def utf8Chars : (fuel : Nat) → List Nat → List Char
  | 0, _ => []
  | _, [] => []
  | fuel + 1, byte :: rest =>
      if byte < 0x80 then Char.ofNat byte :: utf8Chars fuel rest
      else
        match continuation? byte with
        | none => '\ufffd' :: utf8Chars fuel rest
        | some (count, low, high) =>
            let lead := byte % (if count = 1 then 32 else if count = 2 then 16 else 8)
            let (code, taken) := takeContinuation count low high lead rest
            if taken = count then ofCode code ++ utf8Chars fuel (rest.drop count)
            else '\ufffd' :: utf8Chars fuel (rest.drop taken)

/-- The characters of bytes collected last first. -/
def flushBytes (bytes : List Nat) : List Char :=
  utf8Chars bytes.length bytes.reverse

/-- Decode percent signs; `bytes` holds the bytes of the present run, last first. -/
def decodeFrom (bytes : List Nat) : List Char → List Char
  | '%' :: a :: b :: rest =>
      match nibble? a, nibble? b with
      | some x, some y => decodeFrom ((16 * x + y) :: bytes) rest
      | _, _ => flushBytes bytes ++ '%' :: decodeFrom [] (a :: b :: rest)
  | c :: rest => flushBytes bytes ++ c :: decodeFrom [] rest
  | [] => flushBytes bytes

/-- Undo percent encoding. -/
def percentDecoded (text : List Char) : List Char :=
  decodeFrom [] text

/-- Whether bytes are UTF-8. -/
def isUtf8 : (fuel : Nat) → List Nat → Bool
  | 0, bytes => bytes.isEmpty
  | _, [] => true
  | fuel + 1, byte :: rest =>
      if byte < 0x80 then isUtf8 fuel rest
      else
        match continuation? byte with
        | none => false
        | some (count, low, high) =>
            (takeContinuation count low high 0 rest).2 = count && isUtf8 fuel (rest.drop count)

/-- Whether bytes collected last first are UTF-8. -/
def areUtf8 (bytes : List Nat) : Bool :=
  isUtf8 bytes.length bytes.reverse

/-- Whether every percent sign stands before a byte and every run of bytes is UTF-8; `bytes` holds the
bytes of the present run, last first. -/
def isEncodedFrom (bytes : List Nat) : List Char → Bool
  | '%' :: a :: b :: rest =>
      match nibble? a, nibble? b with
      | some x, some y => isEncodedFrom ((16 * x + y) :: bytes) rest
      | _, _ => false
  | '%' :: _ => false
  | _ :: rest => areUtf8 bytes && isEncodedFrom [] rest
  | [] => areUtf8 bytes

/-- Whether percent encoding is used correctly in a text. -/
def isEncoded (text : List Char) : Bool :=
  isEncodedFrom [] text

example : isEncoded "a%C3%A9b".toList ∧ ¬ isEncoded "a%C3b".toList := by decide
example : percentDecoded "a%2Fb%C3%A9%".toList = "a/bé%".toList := by decide

end SchemaAlgebra.Text
