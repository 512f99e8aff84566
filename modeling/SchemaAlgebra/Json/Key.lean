import SchemaAlgebra.Fields
import SchemaAlgebra.Number.Order

/-!
The keys of objects. A key is a text nearly always; documents in YAML, and edits that are given
another scalar for a name, can make null, a truth value, a number or a foreign value a key. Truth values
are found under the numbers zero and one and numbers under any number of their value, and the key that
came first keeps its spelling.
-/

namespace SchemaAlgebra

/-- The kinds of values that a YAML document can denote and JSON cannot. -/
inductive ForeignKind
  | date
  | moment
  | bytes
  | set
  /-- A list that is met inside itself. -/
  | listInItself
  /-- An object that is met inside itself. -/
  | objectInItself
  deriving DecidableEq, Inhabited

/-- A value that JSON cannot denote: its kind, how it is shown in literals, and how as running
text. -/
structure Foreign where
  kind : ForeignKind
  literal : String
  display : String
  deriving DecidableEq, Inhabited

namespace Foreign

/-- The name of the kind, as messages give it. -/
def kindName (value : Foreign) : String :=
  match value.kind with
  | .date => "date"
  | .moment => "datetime"
  | .bytes => "bytes"
  | .set => "set"
  | .listInItself => "list"
  | .objectInItself => "dict"

/-- Whether the value stands for a container that is met inside itself. -/
def isCycle (value : Foreign) : Bool :=
  value.kind = .listInItself || value.kind = .objectInItself

/-- Whether the value can be a key: sets and containers cannot. -/
def canBeKey (value : Foreign) : Bool :=
  value.kind = .date || value.kind = .moment || value.kind = .bytes

/-- Whether the value holds nothing: no bytes, or no members. -/
def isEmpty (value : Foreign) : Bool :=
  value.literal = "b''" || value.literal = "set()"

end Foreign

/-- The key of a member of an object. -/
inductive Key
  | text (s : String)
  | null
  | bool (b : Bool)
  | int (n : Int)
  | double (d : Double)
  | foreign (value : Foreign)
  deriving DecidableEq, Inhabited

namespace Key

instance : Coe String Key := ⟨.text⟩

/-- The text that a key is. -/
def text? : Key → Option String
  | .text s => some s
  | _ => none

/-- The number under which a key is found; truth values count as zero and one. -/
def number? : Key → Option Number
  | .bool b => some (.int (if b then 1 else 0))
  | .int n => some (.int n)
  | .double d => some (.double d)
  | _ => none

/-- Whether two keys find the same member. -/
def alike (a b : Key) : Bool :=
  a = b ||
    match a.number?, b.number? with
    | some x, some y => x.same y
    | _, _ => false

/-- The spelling under which a key is present among others, its own if it is not. -/
def spelledIn (key : Key) (keys : List Key) : Key :=
  if key ∈ keys then key else (keys.find? key.alike).getD key

theorem alike_text (s : String) (key : Key) : (Key.text s).alike key = true ↔ key = .text s := by
  simp [alike, number?, eq_comm]

@[simp] theorem spelledIn_text (s : String) (keys : List Key) :
    (Key.text s).spelledIn keys = .text s := by
  simp only [spelledIn]
  split
  · rfl
  · cases found : keys.find? (Key.text s).alike with
    | none => rfl
    | some key => simpa [alike_text] using List.find?_some found

end Key

end SchemaAlgebra
