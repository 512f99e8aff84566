import SchemaAlgebra.Json.Key
import SchemaAlgebra.Json.Literal
import SchemaAlgebra.Text.Quoted
import SchemaAlgebra.Yaml.Node
import SchemaAlgebra.Yaml.Number

/-!
Bytes in YAML, written in base 64. Characters that are no digits of that base are passed over, and a
padding that completes four digits ends the bytes; digits that are left over are an error.
-/

namespace SchemaAlgebra.Yaml.Binary

/-- The value of a digit in base 64. -/
def digit? (c : Char) : Option Nat :=
  if 'A' ≤ c ∧ c ≤ 'Z' then some (c.toNat - 65)
  else if 'a' ≤ c ∧ c ≤ 'z' then some (c.toNat - 71)
  else if '0' ≤ c ∧ c ≤ '9' then some (c.toNat + 4)
  else if c = '+' then some 62
  else if c = '/' then some 63
  else none

/-- Read bytes: `count` digits of the present four were read, with `left` bits of the last one, and
then `pads` padding characters. -/
def read? (count left pads : Nat) : List Char → Option (List Nat)
  | [] => if count = 0 then some [] else none
  | '=' :: rest =>
      if 2 ≤ count then
        if 4 ≤ count + pads + 1 then some [] else read? count left (pads + 1) rest
      else read? count left pads rest
  | c :: rest =>
      match digit? c, count with
      | none, _ => read? count left pads rest
      | some d, 0 => read? 1 d 0 rest
      | some d, 1 => (read? 2 (d % 16) 0 rest).map ((left * 4 + d / 16) :: ·)
      | some d, 2 => (read? 3 (d % 4) 0 rest).map ((left * 16 + d / 4) :: ·)
      | some d, _ => (read? 0 0 0 rest).map ((left * 64 + d) :: ·)

/-- The bytes of a text in base 64, which holds Basic Latin characters only. -/
def ofText? (text : List Char) : Option (List Nat) :=
  if text.all fun c => c.toNat < 128 then read? 0 0 0 text else none

/-- The literal form of a byte that stands in the given quotes. -/
def byteLiteral (quote : Char) (byte : Nat) : List Char :=
  if byte = quote.toNat ∨ byte = 92 then ['\\', Char.ofNat byte]
  else if byte = 9 then ['\\', 't']
  else if byte = 10 then ['\\', 'n']
  else if byte = 13 then ['\\', 'r']
  else if 32 ≤ byte ∧ byte < 127 then [Char.ofNat byte]
  else '\\' :: 'x' :: Text.hexDigits 2 byte

/-- The literal form of bytes. -/
def literal (bytes : List Nat) : String :=
  let quote := if bytes.contains 39 && !bytes.contains 34 then '"' else '\''
  String.ofList ('b' :: quote :: (bytes.flatMap (byteLiteral quote) ++ [quote]))

/-- Bytes as a foreign value. -/
def toForeign (bytes : List Nat) : Foreign :=
  ⟨.bytes, literal bytes, literal bytes⟩

example : (ofText? "aGk=".toList).map literal = some "b'hi'" := by decide

end SchemaAlgebra.Yaml.Binary

/-!
The values of YAML documents. The graph is worked through level by level: a collection is made empty
when it is met and filled later, after the collections that were met before it. So the first error is
the one that is nearest to the root, and a collection may hold itself. Entries that are merged into a
mapping come before its own, and merging changes the node for whoever else holds it.
-/

namespace SchemaAlgebra.Yaml

/-- What a node stands for: a value, a collection by the number of its node, or a pair. -/
inductive Item
  | value (value : Json)
  | collection (number : Nat)
  | pair (first second : Item)

/-- What a collection holds. -/
inductive Contents
  | items (items : List Item)
  | members (members : Fields Key Item)
  | keys (keys : List Key)
  deriving Inhabited

/-- A document being worked through: its nodes, what the collections hold that were filled, and the
collections that were met, the last one first. -/
structure Workshop where
  nodes : Array Node
  filled : Array Contents
  met : List Nat

/-- A step of the work. -/
abbrev Work (α : Type) := StateT Workshop (Except Error) α

namespace Work

/-- A node by its number. -/
def node (number : Nat) : Work Node := do
  return (← get).nodes.getD number (.scalar .null "")

/-- Replace a node. -/
def setNode (number : Nat) (node : Node) : Work Unit :=
  modify fun shop => { shop with nodes := shop.nodes.setIfInBounds number node }

/-- The text of a node that should be a scalar. A mapping stands for its default. -/
def text : (fuel : Nat) → (number : Nat) → Work (List Char)
  | 0, _ => throw .endless
  | fuel + 1, number => do
      match ← node number with
      | .scalar _ text => return text.toList
      | .sequence _ _ => throw .malformed
      | .mapping _ entries => do
          let shop ← get
          let default? := entries.find? fun entry =>
            (shop.nodes.getD entry.1 (.scalar .null "")).kind = .default
          match default? with
          | some (_, value) => text fuel value
          | none => throw .malformed

/-- The text of a node that should be a scalar. -/
def scalarText (number : Nat) : Work (List Char) := do
  text ((← get).nodes.size + 1) number

/-- A truth value. -/
def truth (text : List Char) : Except Error Bool :=
  let word := String.ofList (inSmallLetters text)
  if ["yes", "true", "on"].contains word then .ok true
  else if ["no", "false", "off"].contains word then .ok false
  else .error .notATruthWord

/-- The moment that a text denotes. -/
def moment (text : List Char) : Except Error Moment :=
  match Moment.ofText? text with
  | none => .error .notATime
  | some moment =>
      match moment.error? with
      | some cause => .error (.noSuchTime cause)
      | none => .ok moment

/-- The moment that a node denotes. -/
def momentOf (number : Nat) : Work Moment := do
  let _ ← scalarText number
  match ← node number with
  | .scalar _ text => moment text.toList
  | _ => throw .timeWithoutText

/-- Meet a collection: it is filled later, and only once. -/
def meet (number : Nat) : Work Item := do
  modify fun shop =>
    if shop.met.contains number then shop else { shop with met := number :: shop.met }
  return .collection number

/-- What a node stands for. -/
def item (number : Nat) : Work Item := do
  match (← node number).kind with
  | .null => do
      let _ ← scalarText number
      return .value .null
  | .truth => return .value (.bool (← truth (← scalarText number)))
  | .whole => return .value (.int (← whole (← scalarText number)))
  | .decimal => return .value (.double (← decimal (← scalarText number)))
  | .text => return .value (.string (String.ofList (← scalarText number)))
  | .time => return .value (.foreign (← momentOf number).toForeign)
  | .binary =>
      match Binary.ofText? (← scalarText number) with
      | some bytes => return .value (.foreign (Binary.toForeign bytes))
      | none => throw .malformed
  | .sequence | .mapping | .set | .orderedMapping | .pairs => meet number
  | .merge | .default | .unknown => throw .malformed

/-- What nodes stand for. -/
def items : List Nat → Work (List Item)
  | [] => return []
  | number :: rest => do
      let first ← item number
      return first :: (← items rest)

/-- The kind of the key of an entry. -/
def keyKind (entry : Nat × Nat) : Work Kind := do
  return (← node entry.1).kind

/-- From an index on, take the mark for a default as a text, up to the first key that asks for entries
to be merged: its index, if there is one. -/
def nextMerge? (index : Nat) : List (Nat × Nat) → Work (Option Nat)
  | [] => return none
  | entry :: rest => do
      match ← node entry.1 with
      | .scalar .default text => do
          setNode entry.1 (.scalar .text text)
          nextMerge? (index + 1) rest
      | .sequence .default items => do
          setNode entry.1 (.sequence .text items)
          nextMerge? (index + 1) rest
      | .mapping .default entries => do
          setNode entry.1 (.mapping .text entries)
          nextMerge? (index + 1) rest
      | other => if other.kind = .merge then return some index else nextMerge? (index + 1) rest

/-- The entries of a node that should be a mapping. -/
def entriesOf (number : Nat) : Work (List (Nat × Nat)) := do
  match ← node number with
  | .mapping _ entries => return entries
  | _ => throw .malformed

/-- Replace the entries of a mapping. -/
def setEntries (number : Nat) (entries : List (Nat × Nat)) : Work Unit := do
  match ← node number with
  | .mapping kind _ => setNode number (.mapping kind entries)
  | _ => return ()

mutual

/-- Take the keys that ask for merging out of a mapping, from an index on: what is to be merged. Every
such key is taken out once, so their number bounds the steps. -/
def takeMerges : (fuel : Nat) → (number index : Nat) → Work (List (Nat × Nat))
  | 0, _, _ => return []
  | fuel + 1, number, index => do
      let entries ← entriesOf number
      match ← nextMerge? index (entries.drop index) with
      | none => return []
      | some place => do
          setEntries number (entries.eraseIdx place)
          let source := (entries.getD place (0, 0)).2
          let merged ← match ← node source with
            | .mapping _ _ => mergeFrom fuel source
            | .sequence _ sources =>
                (fun rows => rows.reverse.flatten) <$> mergeFromEach fuel sources
            | .scalar _ _ => throw .malformed
          return merged ++ (← takeMerges fuel number place)

/-- The entries of a mapping after everything is merged into it. -/
def mergeFrom : (fuel : Nat) → (number : Nat) → Work (List (Nat × Nat))
  | 0, _ => return []
  | fuel + 1, number => do
      let merged ← takeMerges fuel number 0
      let entries := merged ++ (← entriesOf number)
      setEntries number entries
      return entries

/-- The entries of several mappings after everything is merged into them. -/
def mergeFromEach : (fuel : Nat) → List Nat → Work (List (List (Nat × Nat)))
  | _, [] => return []
  | 0, _ => return []
  | fuel + 1, number :: rest => do
      match ← node number with
      | .mapping _ _ => do
          let first ← mergeFrom fuel number
          return first :: (← mergeFromEach fuel rest)
      | _ => throw .malformed

end

/-- How many entries a node holds. -/
def entryCount : Node → Nat
  | .mapping _ entries => entries.length
  | .sequence _ items => items.length
  | .scalar _ _ => 0

/-- The entries of a mapping, in the order in which they count. -/
def merged (number : Nat) : Work (List (Nat × Nat)) := do
  let _ ← entriesOf number
  let sizes := (← get).nodes.foldl (fun n node => n + entryCount node + 1) 0
  mergeFrom ((sizes + 2) * (sizes + 2)) number

/-- The key that an item can be. -/
def keyOf : Item → Work Key
  | .value value =>
      match value.key? with
      | some key => return key
      | none => throw .malformed
  | _ => throw .malformed

/-- The members that entries stand for: of two with one key the first gives the place and the
spelling and the last the value. -/
def members (known : Fields Key Item) : List (Nat × Nat) → Work (Fields Key Item)
  | [] => return known
  | (key, value) :: rest => do
      let key ← keyOf (← item key)
      let value ← item value
      members (known.put (key.spelledIn known.keys) value) rest

/-- The pairs that mappings with one entry each stand for. -/
def pairs : List Nat → Work (List Item)
  | [] => return []
  | number :: rest => do
      match ← node number with
      | .mapping _ [(key, value)] => do
          let first ← item key
          let second ← item value
          return .pair first second :: (← pairs rest)
      | _ => throw .malformed

/-- What a collection holds. -/
def contents (number : Nat) : Work Contents := do
  match ← node number with
  | .sequence .sequence numbers => return .items (← items numbers)
  | .sequence .orderedMapping numbers | .sequence .pairs numbers => return .items (← pairs numbers)
  | .mapping .mapping _ => return .members (← members [] (← merged number))
  | .mapping .set _ => return .keys (← members [] (← merged number)).keys
  | _ => throw .malformed

/-- Fill the collections that were met, in the order in which they were. -/
def fillFrom (index : Nat) : (fuel : Nat) → Work Unit
  | 0 => return ()
  | fuel + 1 => do
      match (← get).met.reverse[index]? with
      | none => return ()
      | some number => do
          let contents ← contents number
          modify fun shop => { shop with filled := shop.filled.setIfInBounds number contents }
          fillFrom (index + 1) fuel

/-- Work through a document. -/
def document (root : Nat) : Work Item := do
  let made ← item root
  fillFrom 0 ((← get).nodes.size + 1)
  return made

end Work

/-- A set as a foreign value. -/
def setValue (keys : List Key) : Json :=
  let literal := if keys.isEmpty then "set()"
    else "\x7b" ++ ", ".intercalate (keys.map Key.literal) ++ "\x7d"
  .foreign ⟨.set, literal, literal⟩

/-- A collection that is met inside itself, as a foreign value. -/
def cycleValue : Contents → Json
  | .items _ => .foreign ⟨.listInItself, "[...]", "[...]"⟩
  | _ => .foreign ⟨.objectInItself, "\x7b...\x7d", "\x7b...\x7d"⟩

/-- The value of an item inside some collections, given what the collections hold. -/
def valueOf (filled : Array Contents) : (fuel : Nat) → (around : List Nat) → Item → Json
  | _, _, .value value => value
  | 0, _, _ => .null
  | fuel + 1, around, .pair first second =>
      .array [valueOf filled fuel around first, valueOf filled fuel around second]
  | fuel + 1, around, .collection number =>
      let contents := filled.getD number (.items [])
      if around.contains number then cycleValue contents
      else
        let inner := number :: around
        match contents with
        | .items items => .array (items.map (valueOf filled fuel inner))
        | .members members =>
            .object (members.map fun member => (member.1, valueOf filled fuel inner member.2))
        | .keys keys => setValue keys

/-- The value of a document. -/
def Graph.value (graph : Graph) : Except Error Json := do
  let empty : Array Contents := Array.replicate graph.nodes.size (.items [])
  let (root, shop) ← (Work.document graph.root).run ⟨graph.nodes, empty, []⟩
  return valueOf shop.filled (2 * graph.nodes.size + 2) [] root

/-- The value of a text; an empty text holds null. -/
def read (text : String) : Except Error Json := do
  match ← Graph.ofText? text with
  | some graph => graph.value
  | none => return .null

end SchemaAlgebra.Yaml
