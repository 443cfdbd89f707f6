import Defun.Yaml.ScalarType
import Defun.Yaml.Token

/-!
# Trees of YAML texts

The first document of a text is a tree of scalars, sequences and mappings.  A
node may carry an anchor, and an alias stands for the node that last carried an
anchor of its name.  What follows the first document is not looked at.
-/

namespace Defun

namespace Yaml

/-- A node of a document with its tag and the line on which it begins. -/
inductive Node where
  | scalar (line : Nat) (tag text : Bytes)
  | sequence (line : Nat) (tag : Bytes) (items : List Node)
  | mapping (line : Nat) (tag : Bytes) (pairs : List (Node × Node))
  /-- The alias with a number of its own for the node with another number. -/
  | reference (line : Nat) (name : Bytes) (number target : Nat)

namespace Node

def line : Node → Nat
  | scalar line .. | sequence line .. | mapping line .. | reference line .. => line

end Node

def sequenceTag : Bytes := "!!seq"

def mappingTag : Bytes := "!!map"

/-- The tag of the key that merges another mapping into its own. -/
def mergeTag : Bytes := "!!merge"

/-- The name that the standard tags have in full. -/
def tagNamespace : Bytes := "tag:yaml.org,2002:"

def shortTag (tag : Bytes) : Bytes :=
  if tagNamespace.isPrefixOf tag then
    "!!" ++ tag.drop tagNamespace.length
  else tag

/-- A document: its root, and the nodes that aliases refer to by number. -/
structure Document where
  root : Node
  anchored : List (Nat × Node)

namespace Document

def target? (document : Document) (number : Nat) : Option Node :=
  document.anchored.lookup number

/-- What is left to read of a document, and what has been named so far. -/
structure Reader where
  tokens : List Token
  /-- The meaning of the handles of tags. -/
  handles : List (List Char × List Char)
  /-- The number of the node that last carried an anchor. -/
  anchors : List (List Char × Nat)
  /-- The nodes that carry anchors. -/
  anchored : List (Nat × Node)
  /-- The next unused number. -/
  next : Nat

/-- Reading that may find the tokens out of order. -/
abbrev Read (α : Type) : Type := StateT Reader (Except Malformed) α

def peek : Read Token := do
  match (← get).tokens with
  | token :: _ => return token
  | [] => throw ⟨⟩

def skip : Read Unit :=
  modify fun reader => { reader with tokens := reader.tokens.drop 1 }

/-- A number that has not been used. -/
def freshNumber : Read Nat := do
  let reader ← get
  set { reader with next := reader.next + 1 }
  return reader.next

/-- The scalar that stands for a missing node. -/
def missing (line : Nat) : Node :=
  .scalar line ScalarType.null.tag []

/-- The scalar of a token.  Without a tag its type is shown by its spelling if
it is plain, and is a text otherwise. -/
def scalarNode (line : Nat) (tag : Bytes) (text : Bytes)
    (style : ScalarStyle) : Node :=
  if tag != [] && tag != "!" then .scalar line (shortTag tag) text
  else if style != .plain then .scalar line ScalarType.text.tag text
  else if text == "<<" then .scalar line mergeTag text
  else .scalar line (ScalarType.ofPlain text).tag text

def collectionTag (tag default : Bytes) : Bytes :=
  if tag != [] && tag != "!" then shortTag tag else default

/-- The full tag that a handle and a suffix stand for. -/
def fullTag (handle suffix : List Char) : Read Bytes := do
  if handle.isEmpty then return Bytes.ofChars suffix
  match (← get).handles.lookup handle with
  | some expansion => return Bytes.ofChars (expansion ++ suffix)
  | none => throw ⟨⟩

/-- The anchor and the tag in front of a node, in either order. -/
structure Properties where
  anchor : Option (List Char)
  tag : Bytes

def properties : Read Properties := do
  match (← peek).kind with
  | .anchor name =>
      skip
      match (← peek).kind with
      | .tag handle suffix =>
          skip
          let _ ← peek
          return ⟨some name, ← fullTag handle suffix⟩
      | _ => return ⟨some name, []⟩
  | .tag handle suffix =>
      skip
      match (← peek).kind with
      | .anchor name =>
          skip
          let _ ← peek
          return ⟨some name, ← fullTag handle suffix⟩
      | _ => return ⟨none, ← fullTag handle suffix⟩
  | _ => return ⟨none, []⟩

/-- Reads a node whose anchor, if it has one, can be used inside of it. -/
def anchoring (anchor : Option (List Char)) (read : Read Node) : Read Node := do
  match anchor with
  | none => read
  | some name =>
      let number ← freshNumber
      modify fun reader =>
        { reader with anchors := (name, number) :: reader.anchors }
      let node ← read
      modify fun reader =>
        { reader with anchored := (number, node) :: reader.anchored }
      return node

/-- Reads an alias.  Its name must have been given to a node before. -/
def referenceNode (line : Nat) (name : List Char) : Read Node := do
  match (← get).anchors.lookup name with
  | some target =>
      let number ← freshNumber
      skip
      return .reference line (Bytes.ofChars name) number target
  | none => throw ⟨⟩

/-- Whether a value is missing in a block in front of a token. -/
def endsBlockValue : TokenKind → Bool
  | .key | .value | .blockEnd => true
  | _ => false

/-- Whether an entry is missing in a flow sequence in front of a token. -/
def endsFlowEntry : TokenKind → Bool
  | .flowEntry | .flowSequenceEnd => true
  | _ => false

/-- Whether a value is missing in a flow mapping in front of a token. -/
def endsFlowValue : TokenKind → Bool
  | .flowEntry | .flowMappingEnd => true
  | _ => false

mutual

/-- Reads a node.  Blocks begin only if `inBlock` is set, and a sequence without
indentation of its own only if `mayAlign` is set. -/
def node (inBlock mayAlign : Bool) : (fuel : Nat) → Read Node
  | 0 => throw ⟨⟩
  | fuel + 1 => do
      let first ← peek
      match first.kind with
      | .reference name => referenceNode first.line name
      | _ =>
          let ⟨anchor, tag⟩ ← properties
          let token ← peek
          let sequenceOf (items : Read (List Node)) : Read Node :=
            anchoring anchor do
              return .sequence first.line (collectionTag tag sequenceTag)
                (← items)
          let mappingOf (pairs : Read (List (Node × Node))) : Read Node :=
            anchoring anchor do
              return .mapping first.line (collectionTag tag mappingTag) (← pairs)
          match token.kind, inBlock, mayAlign with
          | .blockEntry, _, true => sequenceOf (alignedSequence fuel)
          | .scalar text style, _, _ =>
              skip
              anchoring anchor
                (pure (scalarNode first.line tag (Bytes.ofChars text) style))
          | .flowSequenceStart, _, _ =>
              skip
              sequenceOf (flowSequence true fuel)
          | .flowMappingStart, _, _ =>
              skip
              mappingOf (flowMapping true fuel)
          | .blockSequenceStart, true, _ =>
              skip
              sequenceOf (blockSequence fuel)
          | .blockMappingStart, true, _ =>
              skip
              mappingOf (blockMapping fuel)
          | _, _, _ =>
              if anchor.isSome || !tag.isEmpty then
                anchoring anchor (pure (scalarNode first.line tag [] .plain))
              else throw ⟨⟩

def blockSequence : (fuel : Nat) → Read (List Node)
  | 0 => throw ⟨⟩
  | fuel + 1 => do
      let token ← peek
      match token.kind with
      | .blockEntry =>
          skip
          let kind := (← peek).kind
          let item ←
            if kind == .blockEntry || kind == .blockEnd then
              pure (missing token.line)
            else node true false fuel
          return item :: (← blockSequence fuel)
      | .blockEnd =>
          skip
          return []
      | _ => throw ⟨⟩

/-- Reads the entries of a sequence that is aligned with the key in front of
it. -/
def alignedSequence : (fuel : Nat) → Read (List Node)
  | 0 => throw ⟨⟩
  | fuel + 1 => do
      let token ← peek
      match token.kind with
      | .blockEntry =>
          skip
          let kind := (← peek).kind
          let item ←
            if kind == .blockEntry || endsBlockValue kind then
              pure (missing token.line)
            else node true false fuel
          return item :: (← alignedSequence fuel)
      | _ => return []

def blockMapping : (fuel : Nat) → Read (List (Node × Node))
  | 0 => throw ⟨⟩
  | fuel + 1 => do
      let token ← peek
      match token.kind with
      | .key =>
          skip
          let key ←
            if endsBlockValue (← peek).kind then pure (missing token.line)
            else node true true fuel
          let token ← peek
          let value ←
            if token.kind == .value then do
              skip
              if endsBlockValue (← peek).kind then pure (missing token.line)
              else node true true fuel
            else pure (missing token.line)
          return (key, value) :: (← blockMapping fuel)
      | .blockEnd =>
          skip
          return []
      | _ => throw ⟨⟩

/-- Reads the entries of a flow sequence.  An entry may be a single pair. -/
def flowSequence (isFirst : Bool) : (fuel : Nat) → Read (List Node)
  | 0 => throw ⟨⟩
  | fuel + 1 => do
      if (← peek).kind == .flowSequenceEnd then
        skip
        return []
      if !isFirst then
        if (← peek).kind == .flowEntry then skip else throw ⟨⟩
      let token ← peek
      match token.kind with
      | .key =>
          skip
          let pair ← flowPair fuel
          let item := Node.mapping token.line mappingTag [pair]
          return item :: (← flowSequence false fuel)
      | .flowSequenceEnd =>
          skip
          return []
      | _ =>
          let item ← node false false fuel
          return item :: (← flowSequence false fuel)

/-- Reads the pair behind the mark of a key in a flow sequence. -/
def flowPair : (fuel : Nat) → Read (Node × Node)
  | 0 => throw ⟨⟩
  | fuel + 1 => do
      let token ← peek
      let key ←
        if token.kind == .value || endsFlowEntry token.kind then do
          skip
          pure (missing token.line)
        else node false false fuel
      let token ← peek
      if token.kind == .value then
        skip
        let token ← peek
        if endsFlowEntry token.kind then return (key, missing token.line)
        else return (key, ← node false false fuel)
      else return (key, missing token.line)

/-- Reads the pairs of a flow mapping.  A node that is not marked as a key is a
key without a value. -/
def flowMapping (isFirst : Bool) : (fuel : Nat) → Read (List (Node × Node))
  | 0 => throw ⟨⟩
  | fuel + 1 => do
      if (← peek).kind == .flowMappingEnd then
        skip
        return []
      if !isFirst then
        if (← peek).kind == .flowEntry then skip else throw ⟨⟩
      match (← peek).kind with
      | .key =>
          skip
          let token ← peek
          let key ←
            if token.kind == .value || endsFlowValue token.kind then
              pure (missing token.line)
            else node false false fuel
          let token ← peek
          let value ←
            if token.kind == .value then do
              skip
              let token ← peek
              if endsFlowValue token.kind then pure (missing token.line)
              else node false false fuel
            else pure (missing token.line)
          return (key, value) :: (← flowMapping false fuel)
      | .flowMappingEnd =>
          skip
          return []
      | _ =>
          let key ← node false false fuel
          let token ← peek
          return (key, missing token.line) :: (← flowMapping false fuel)

end

/-- The handles of tags that need no directive. -/
def defaultHandles : List (List Char × List Char) :=
  [("!".toList, "!".toList), ("!!".toList, "tag:yaml.org,2002:".toList)]

/-- Reads the directives in front of a document.  A version is given at most
once and is 1.1, and no handle is given twice. -/
def directives (hasVersion : Bool) (given : List (List Char × List Char)) :
    (fuel : Nat) → Read Unit
  | 0 => throw ⟨⟩
  | fuel + 1 => do
      match (← peek).kind with
      | .version major minor =>
          if hasVersion || major != 1 || minor != 1 then throw ⟨⟩
          skip
          directives true given fuel
      | .tagDirective handle expansion =>
          if (given.lookup handle).isSome then throw ⟨⟩
          skip
          directives hasVersion ((handle, expansion) :: given) fuel
      | _ =>
          modify fun reader => { reader with handles := given ++ defaultHandles }

/-- Reads the root of the first document, if there is one.  A token has to
follow it. -/
def first (fuel : Nat) : Read (Option Node) := do
  skip
  match (← peek).kind with
  | .streamEnd => return none
  | .version .. | .tagDirective .. | .documentStart =>
      directives false [] fuel
      if (← peek).kind != .documentStart then throw ⟨⟩
      skip
      let token ← peek
      match token.kind with
      | .version .. | .tagDirective .. | .documentStart | .documentEnd
      | .streamEnd => return some (missing token.line)
      | _ =>
          let root ← node true false fuel
          let _ ← peek
          return some root
  | _ =>
      let root ← node true false fuel
      let _ ← peek
      return some root

/-- The first document of a text, if there is one.  If the text is open, more of
it may follow, and the document has to be complete without that. -/
def ofText (isOpen : Bool) (text : Bytes) :
    Except Malformed (Option Document) := do
  let (chars, isCut) := characters text
  let tokens := Token.scan chars (isOpen || isCut)
  let reader : Reader := ⟨tokens, defaultHandles, [], [], 0⟩
  let (root?, reader) ← (first (2 * tokens.length + 2)).run reader
  return root?.map fun root => ⟨root, reader.anchored⟩

/-- Whether a text may have a first document that ends in it.  A list at its
front goes on up to a mark of documents or a directive. -/
def mayEnd (text : Bytes) : Bool :=
  !Bytes.startsWith text "- " || (Bytes.cut? "---" text).isSome ||
    (Bytes.cut? "..." text).isSome || (Bytes.cut? "%" text).isSome

/-- Whether a text does not have a first document without what may follow it. -/
def wantsMore (text : Bytes) : Bool :=
  !mayEnd text ||
    match ofText true text with
    | .error _ => true
    | .ok _ => false

end Document

end Yaml

end Defun
