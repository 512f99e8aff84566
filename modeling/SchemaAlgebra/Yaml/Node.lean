import SchemaAlgebra.Fields
import SchemaAlgebra.Yaml.Error
import SchemaAlgebra.Yaml.Kind
import SchemaAlgebra.Yaml.Token

/-!
YAML documents as graphs of nodes. Nodes have numbers, and a collection holds the numbers of its nodes.
An alias is the number of the node with its anchor, which has to come before it and can be named only
once; a collection may be met inside itself.
-/

namespace SchemaAlgebra.Yaml

/-- A node of a document; the nodes inside it are given by their numbers. -/
inductive Node
  | scalar (kind : Kind) (text : String)
  | sequence (kind : Kind) (items : List Nat)
  | mapping (kind : Kind) (entries : List (Nat × Nat))

/-- The kind of a node. -/
def Node.kind : Node → Kind
  | .scalar kind _ | .sequence kind _ | .mapping kind _ => kind

/-- Tokens being read, the nodes so far, the numbers of those with anchors, and what the handles of
tags stand for. -/
structure Reader where
  tokens : List Token
  nodes : Array Node
  anchors : Fields String Nat
  handles : Fields String String

/-- Reading a part of a document. -/
abbrev Read (α : Type) := StateT Reader (Except Error) α

namespace Read

/-- What handles stand for if no directive says otherwise. -/
def standardHandles : Fields String String := [("!", "!"), ("!!", Kind.standard)]

/-- The next token. -/
def next? : Read (Option Token) := do
  match (← get).tokens with
  | [] => return none
  | .noCharacter code :: _ => throw (.noCharacter code)
  | token :: _ => return some token

/-- Go past the next token. -/
def skip : Read Unit :=
  modify fun reader => { reader with tokens := reader.tokens.drop 1 }

/-- Refuse the text. -/
def fail {α : Type} : Read α := throw .malformed

/-- The tag that a handle and a suffix make. -/
def fullTag (handle : Option String) (suffix : String) : Read String := do
  match handle with
  | none => return suffix
  | some handle =>
      match (← get).handles.get? handle with
      | some lead => return lead ++ suffix
      | none => fail

/-- The anchor and the tag at the front of a node, in either order. -/
def properties : Read (Option String × Option String) := do
  match ← next? with
  | some (.anchor name) => do
      skip
      match ← next? with
      | some (.tag handle suffix) => do
          skip
          return (some name, some (← fullTag handle suffix))
      | _ => return (some name, none)
  | some (.tag handle suffix) => do
      skip
      let tag ← fullTag handle suffix
      match ← next? with
      | some (.anchor name) => do
          skip
          return (some name, some tag)
      | _ => return (none, some tag)
  | _ => return (none, none)

/-- The kind of a scalar with a tag. -/
def scalarKind (tag : Option String) (plain : Bool) (text : String) : Kind :=
  match tag with
  | none => if plain then .ofPlain text else .text
  | some "!" => .ofPlain text
  | some tag => .ofTag tag

/-- The kind of a collection with a tag. -/
def collectionKind (tag : Option String) (usual : Kind) : Kind :=
  match tag with
  | none | some "!" => usual
  | some tag => .ofTag tag

/-- Give a node a number. -/
def add (node : Node) : Read Nat := do
  let reader ← get
  set { reader with nodes := reader.nodes.push node }
  return reader.nodes.size

/-- A node that is not written. -/
def absent : Read Nat :=
  add (.scalar .null "")

/-- The node that an alias stands for. -/
def aliased (name : String) : Read Nat := do
  match (← get).anchors.get? name with
  | some number => return number
  | none => fail

/-- Begin a node: it gets its number, and its anchor, which must be new, stands for it. -/
def begin (anchor : Option String) : Read Nat := do
  match anchor with
  | none => absent
  | some name =>
      if (← get).anchors.has name then fail
      else
        let number ← absent
        modify fun reader => { reader with anchors := reader.anchors.put name number }
        return number

/-- End a node that was begun. -/
def finish (number : Nat) (node : Node) : Read Nat := do
  modify fun reader => { reader with nodes := reader.nodes.setIfInBounds number node }
  return number

/-- Whether no node is written before a token in a block. -/
def endsBlockNode : Option Token → Bool
  | some .key | some .value | some .blockEnd | none => true
  | _ => false

/-- Whether no item is written before a token in a block. -/
def endsBlockItem : Option Token → Bool
  | some .blockEntry | some .blockEnd | none => true
  | _ => false

/-- Whether no item is written before a token in a list that is indented like its key. -/
def endsIndentlessItem : Option Token → Bool
  | some .blockEntry | some .key | some .value | some .blockEnd | none => true
  | _ => false

/-- Whether no key is written before a token in a flow mapping. -/
def endsFlowKey : Option Token → Bool
  | some .value | some .flowEntry | some .flowMappingEnd | none => true
  | _ => false

/-- Whether no value is written before a token in a flow mapping. -/
def endsFlowValue : Option Token → Bool
  | some .flowEntry | some .flowMappingEnd | none => true
  | _ => false

/-- Whether no key is written before a token in a pair in a flow list. -/
def endsPairKey : Option Token → Bool
  | some .value | some .flowEntry | some .flowSequenceEnd | none => true
  | _ => false

/-- Whether no value is written before a token in a pair in a flow list. -/
def endsPairValue : Option Token → Bool
  | some .flowEntry | some .flowSequenceEnd | none => true
  | _ => false

mutual

/-- Read a node; in a block it may be a block collection, and after a key a list that is indented
like the key. -/
def node (block indentless : Bool) : (fuel : Nat) → Read Nat
  | 0 => fail
  | fuel + 1 => do
      match ← next? with
      | some (.alias name) => do
          skip
          aliased name
      | _ => do
          let (anchor, tag) ← properties
          let number ← begin anchor
          match ← next? with
          | some (.scalar text plain) => do
              skip
              finish number (.scalar (scalarKind tag plain text) text)
          | some .flowSequenceStart => do
              skip
              let items ← flowItems true fuel
              finish number (.sequence (collectionKind tag .sequence) items)
          | some .flowMappingStart => do
              skip
              let entries ← flowEntries true fuel
              finish number (.mapping (collectionKind tag .mapping) entries)
          | some .blockEntry =>
              if indentless then do
                let items ← indentlessItems fuel
                finish number (.sequence (collectionKind tag .sequence) items)
              else written number anchor tag
          | some .blockSequenceStart =>
              if block then do
                skip
                let items ← blockItems fuel
                finish number (.sequence (collectionKind tag .sequence) items)
              else written number anchor tag
          | some .blockMappingStart =>
              if block then do
                skip
                let entries ← blockEntries fuel
                finish number (.mapping (collectionKind tag .mapping) entries)
              else written number anchor tag
          | _ => written number anchor tag

/-- A node that is written by its anchor or tag only. -/
def written (number : Nat) (anchor tag : Option String) : Read Nat :=
  if anchor.isSome || tag.isSome then finish number (.scalar (scalarKind tag true "") "")
  else fail

/-- Read a node unless a token says that none is written. -/
def optional (ends : Option Token → Bool) (block indentless : Bool) : (fuel : Nat) → Read Nat
  | 0 => fail
  | fuel + 1 => do
      if ends (← next?) then absent else node block indentless fuel

/-- Read the items of a block list up to its end. -/
def blockItems : (fuel : Nat) → Read (List Nat)
  | 0 => fail
  | fuel + 1 => do
      match ← next? with
      | some .blockEntry => do
          skip
          let item ← optional endsBlockItem true false fuel
          return item :: (← blockItems fuel)
      | some .blockEnd => do
          skip
          return []
      | _ => fail

/-- Read the items of a list that is indented like its key. -/
def indentlessItems : (fuel : Nat) → Read (List Nat)
  | 0 => fail
  | fuel + 1 => do
      match ← next? with
      | some .blockEntry => do
          skip
          let item ← optional endsIndentlessItem true false fuel
          return item :: (← indentlessItems fuel)
      | _ => return []

/-- Read the entries of a block mapping up to its end. -/
def blockEntries : (fuel : Nat) → Read (List (Nat × Nat))
  | 0 => fail
  | fuel + 1 => do
      match ← next? with
      | some .key => do
          skip
          let key ← optional endsBlockNode true true fuel
          match ← next? with
          | some .value => do
              skip
              let value ← optional endsBlockNode true true fuel
              return (key, value) :: (← blockEntries fuel)
          | _ => return (key, ← absent) :: (← blockEntries fuel)
      | some .blockEnd => do
          skip
          return []
      | _ => fail

/-- Read the items of a flow list up to its end; the first has no comma before it. -/
def flowItems (first : Bool) : (fuel : Nat) → Read (List Nat)
  | 0 => fail
  | fuel + 1 => do
      match ← next? with
      | some .flowSequenceEnd => do
          skip
          return []
      | some .flowEntry =>
          if first then fail
          else do
            skip
            match ← next? with
            | some .flowSequenceEnd => do
                skip
                return []
            | _ => flowItem fuel
      | _ => if first then flowItem fuel else fail

/-- Read an item of a flow list and those after it. -/
def flowItem : (fuel : Nat) → Read (List Nat)
  | 0 => fail
  | fuel + 1 => do
      match ← next? with
      | some .key => do
          skip
          let key ← optional endsPairKey false false fuel
          match ← next? with
          | some .value => do
              skip
              let value ← optional endsPairValue false false fuel
              return (← add (.mapping .mapping [(key, value)])) :: (← flowItems false fuel)
          | _ => do
              let value ← absent
              return (← add (.mapping .mapping [(key, value)])) :: (← flowItems false fuel)
      | _ => do
          let item ← node false false fuel
          return item :: (← flowItems false fuel)

/-- Read the entries of a flow mapping up to its end; the first has no comma before it. -/
def flowEntries (first : Bool) : (fuel : Nat) → Read (List (Nat × Nat))
  | 0 => fail
  | fuel + 1 => do
      match ← next? with
      | some .flowMappingEnd => do
          skip
          return []
      | some .flowEntry =>
          if first then fail
          else do
            skip
            match ← next? with
            | some .flowMappingEnd => do
                skip
                return []
            | _ => flowPair fuel
      | _ => if first then flowPair fuel else fail

/-- Read an entry of a flow mapping and those after it. -/
def flowPair : (fuel : Nat) → Read (List (Nat × Nat))
  | 0 => fail
  | fuel + 1 => do
      match ← next? with
      | some .key => do
          skip
          let key ← optional endsFlowKey false false fuel
          match ← next? with
          | some .value => do
              skip
              let value ← optional endsFlowValue false false fuel
              return (key, value) :: (← flowEntries false fuel)
          | _ => return (key, ← absent) :: (← flowEntries false fuel)
      | _ => do
          let key ← node false false fuel
          return (key, ← absent) :: (← flowEntries false fuel)

end

/-- Read the directives of a document: at most one version, which must be 1, and tag handles, each
once. -/
def directives (versioned : Bool) (handles : Fields String String) : (fuel : Nat) → Read Unit
  | 0 => fail
  | fuel + 1 => do
      match ← next? with
      | some (.directive (.version major)) =>
          if versioned || major ≠ 1 then fail
          else do
            skip
            directives true handles fuel
      | some (.directive (.tag handle lead)) =>
          if handles.has handle then fail
          else do
            skip
            directives versioned (handles.put handle lead) fuel
      | some (.directive .other) => do
          skip
          directives versioned handles fuel
      | _ => modify fun reader => { reader with handles := handles ++ standardHandles }

/-- Read the node of a document that begins with its mark. -/
def marked (fuel : Nat) : Read Nat := do
  match ← next? with
  | some .documentStart => do
      skip
      match ← next? with
      | some (.directive _) | some .documentStart | some .documentEnd | none => absent
      | _ => node true false fuel
  | _ => fail

/-- Read a whole text: at most one document, and end marks behind it. -/
def document (fuel : Nat) : Read (Option Nat) := do
  match ← next? with
  | none => return none
  | some first =>
      let root ← match first with
        | .directive _ | .documentStart => do
            directives false [] fuel
            marked fuel
        | _ => node true false fuel
      modify fun reader =>
        { reader with tokens := reader.tokens.dropWhile fun token => token matches .documentEnd }
      if (← next?).isNone then return some root else fail

end Read

/-- A document: its nodes by their numbers, and the number of the root. -/
structure Graph where
  nodes : Array Node
  root : Nat

/-- The graph of a text, if it is not empty. -/
def Graph.ofText? (text : String) : Except Error (Option Graph) :=
  match Token.ofText? text.toList with
  | none => .error .malformed
  | some tokens => do
      let reader : Reader := ⟨tokens, #[], [], Read.standardHandles⟩
      let (root, after) ← (Read.document (4 * tokens.length + 4)).run reader
      return root.map fun root => ⟨after.nodes, root⟩

end SchemaAlgebra.Yaml
