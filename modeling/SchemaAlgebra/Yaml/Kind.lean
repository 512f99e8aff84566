import SchemaAlgebra.Pattern.Parser
import SchemaAlgebra.Pattern.Search

/-!
The kinds of YAML nodes. A tag says the kind; without one a quoted scalar is text, and a plain scalar
is what its spelling says. The spellings are those of YAML 1.1, where `yes` is a truth value, `010` is
octal and `1:30` counts in sixties.
-/

namespace SchemaAlgebra.Yaml

/-- A kind of nodes. -/
inductive Kind
  | null
  | truth
  | whole
  | decimal
  | text
  | time
  | merge
  | default
  | binary
  | sequence
  | mapping
  | set
  | orderedMapping
  | pairs
  | unknown
  deriving DecidableEq

namespace Kind

/-- What the standard tags begin with. -/
def standard : String := "tag:yaml.org,2002:"

/-- The standard tags, without what they begin with. -/
def tags : List (String × Kind) :=
  [("null", .null), ("bool", .truth), ("int", .whole), ("float", .decimal), ("str", .text),
    ("timestamp", .time), ("merge", .merge), ("value", .default), ("binary", .binary),
    ("seq", .sequence), ("map", .mapping), ("set", .set), ("omap", .orderedMapping),
    ("pairs", .pairs)]

/-- The kind that a tag says. -/
def ofTag (tag : String) : Kind :=
  ((tags.find? fun entry => standard ++ entry.1 = tag).map Prod.snd).getD .unknown

/-- A kind that plain scalars can be of: the characters they begin with, and a regular expression. -/
structure Spelling where
  kind : Kind
  leads : String
  expression : String

/-- The spellings of plain scalars, in the order in which they are tried. -/
def spellings : List Spelling :=
  [⟨.truth, "yYnNtTfFoO",
      "^(?:yes|Yes|YES|no|No|NO|true|True|TRUE|false|False|FALSE|on|On|ON|off|Off|OFF)$"⟩,
    ⟨.decimal, "-+0123456789.", "^(?:[-+]?[0-9][0-9_]*\\.[0-9_]*(?:[eE][-+][0-9]+)?" ++
      "|\\.[0-9][0-9_]*(?:[eE][-+][0-9]+)?" ++
      "|[-+]?[0-9][0-9_]*(?::[0-5]?[0-9])+\\.[0-9_]*" ++
      "|[-+]?\\.(?:inf|Inf|INF)|\\.(?:nan|NaN|NAN))$"⟩,
    ⟨.whole, "-+0123456789",
      "^(?:[-+]?0b[0-1_]+|[-+]?0[0-7_]+|[-+]?(?:0|[1-9][0-9_]*)|[-+]?0x[0-9a-fA-F_]+" ++
      "|[-+]?[1-9][0-9_]*(?::[0-5]?[0-9])+)$"⟩,
    ⟨.merge, "<", "^<<$"⟩,
    ⟨.null, "~nN", "^(?:~|null|Null|NULL)$"⟩,
    ⟨.time, "0123456789", "^(?:[0-9][0-9][0-9][0-9]-[0-9][0-9]-[0-9][0-9]" ++
      "|[0-9][0-9][0-9][0-9]-[0-9][0-9]?-[0-9][0-9]?(?:[Tt]|[ \\t]+)[0-9][0-9]?" ++
      ":[0-9][0-9]:[0-9][0-9](?:\\.[0-9]*)?" ++
      "(?:[ \\t]*(?:Z|[-+][0-9][0-9]?(?::[0-9][0-9])?))?)$"⟩,
    ⟨.default, "=", "^=$"⟩]

/-- Whether a text that begins with a character has a spelling. -/
def Spelling.fits (spelling : Spelling) (lead : Char) (text : String) : Bool :=
  spelling.leads.toList.contains lead &&
    match Pattern.parse spelling.expression with
    | .ok pattern => pattern.search text
    | .error _ => false

/-- The kind of a plain scalar; the empty one is null. -/
def ofPlain (text : String) : Kind :=
  match text.toList with
  | [] => .null
  | lead :: _ =>
      ((spellings.find? fun spelling => spelling.fits lead text).map Spelling.kind).getD .text

end Kind

end SchemaAlgebra.Yaml
