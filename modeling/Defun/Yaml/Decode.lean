import Defun.Text.Quoted
import Defun.Yaml.Node

/-!
# Values of YAML documents

A document is read as a value of a given shape.  Nodes that do not have the
shape are noted one by one and left out; the document has a value only if there
are none.
-/

namespace Defun

namespace Yaml

inductive Shape where
  | text
  | flag
  /-- A table of texts by name. -/
  | texts
  /-- A record with a type name and named fields. -/
  | record (typeName : Bytes) (fields : List (Bytes × Shape))
  | list (element : Shape)

/-- How a shape is called in messages. -/
def Shape.name : Shape → Bytes
  | text => "string"
  | flag => "bool"
  | texts => "map[string]string"
  | record typeName _ => typeName
  | list element => "[]" ++ element.name

inductive Value where
  | text (value : Bytes)
  | flag (value : Bool)
  | texts (entries : List (Bytes × Bytes))
  | record (fields : List (Bytes × Value))
  | list (elements : List Value)

namespace Value

mutual

/-- The value of a shape that nothing is known about. -/
def blank : Shape → Value
  | .text => .text []
  | .flag => .flag false
  | .texts => .texts []
  | .record _ fields => .record (blankFields fields)
  | .list _ => .list []

def blankFields : List (Bytes × Shape) → List (Bytes × Value)
  | [] => []
  | (name, shape) :: rest => (name, blank shape) :: blankFields rest

end

def field? (name : Bytes) : Value → Option Value
  | record fields => fields.lookup name
  | _ => none

/-- The text of a field, empty if there is none. -/
def textField (name : Bytes) (value : Value) : Bytes :=
  match value.field? name with
  | some (Value.text content) => content
  | _ => []

def elements : Value → List Value
  | list elements => elements
  | _ => []

def setField (value : Value) (name : Bytes) (content : Value) : Value :=
  match value with
  | record fields =>
      record (fields.map fun (other, old) =>
        if other == name then (other, content) else (other, old))
  | value => value

/-- A table with a text under a name, in front of none with the same name. -/
def setEntry (name content : Bytes) (entries : List (Bytes × Bytes)) :
    List (Bytes × Bytes) :=
  if (entries.lookup name).isSome then
    entries.map fun (other, old) =>
      if other == name then (other, content) else (other, old)
  else entries ++ [(name, content)]

end Value

/-- Why a document does not have a shape. -/
inductive Problem where
  /-- A node with this tag and text, if it has one, stands where something else
  is wanted. -/
  | mismatch (line : Nat) (tag : Bytes) (text : Option Bytes) (wanted : Bytes)
  /-- Two keys of a mapping are written alike. -/
  | repeatedKey (line : Nat) (key : Bytes) (earlier : Nat)
  /-- Two keys of a mapping name the same field. -/
  | repeatedField (line : Nat) (field wanted : Bytes)
deriving DecidableEq, Repr

/-- How texts are shown in messages: up to ten octets in full, longer ones by
their first seven. -/
def excerpt (text : Bytes) : Bytes :=
  if text.length > 10 then text.take 7 ++ "..." else text

def Problem.message : Problem → Bytes
  | mismatch line tag text wanted =>
      let shown : Bytes :=
        match text with
        | some text => " \x60" ++ excerpt text ++ "\x60"
        | none => []
      "line " ++ Decimal.ofNat line ++ ": cannot unmarshal " ++ tag ++ shown ++
        " into " ++ wanted
  | repeatedKey line key earlier =>
      "line " ++ Decimal.ofNat line ++ ": mapping key " ++ Quoted.quote key ++
        " already defined at line " ++ Decimal.ofNat earlier
  | repeatedField line field wanted =>
      "line " ++ Decimal.ofNat line ++ ": field " ++ field ++
        " already set in type " ++ wanted

/-- Why a text has no value. -/
inductive DecodeError where
  /-- The text could not be had for this reason. -/
  | unread (reason : Bytes)
  /-- The text has no tree, or a node of it has no meaning. -/
  | malformed
  /-- The tree does not have the shape. -/
  | unfit (problems : List Problem)
deriving DecidableEq, Repr

def Problem.bullet (problem : Problem) : Bytes :=
  "\n  " ++ problem.message

def Problem.summary (problems : List Problem) : Bytes :=
  "yaml: unmarshal errors:" ++ problems.flatMap Problem.bullet

def DecodeError.message : DecodeError → Bytes
  | unread reason => "yaml: input error: " ++ reason
  | malformed => "yaml: malformed document"
  | unfit problems => Problem.summary problems

/-- What has been found out while a document is read. -/
structure Progress where
  problems : List Problem
  /-- The aliases that are being followed. -/
  active : List Nat
  /-- The names that a merged mapping does not set. -/
  taken : Option (List Bytes)
  /-- The number of nodes read, and of those among them behind an alias. -/
  visited : Nat
  aliased : Nat

/-- Reading that notes problems and may meet a node without meaning. -/
abbrev Decode (α : Type) : Type := StateT Progress (Except Malformed) α

namespace Decode

def note (problem : Problem) : Decode Unit :=
  modify fun progress =>
    { progress with problems := progress.problems ++ [problem] }

/-- Counts a node.  A document of more than a thousand nodes of which more than
99 in a hundred are behind aliases is refused. -/
def count : Decode Unit := do
  modify fun progress =>
    { progress with
      visited := progress.visited + 1
      aliased := progress.aliased + if progress.active.isEmpty then 0 else 1 }
  let progress ← get
  if progress.aliased > 100 && progress.visited > 1000 &&
      progress.aliased * 100 > progress.visited * 99 then
    throw ⟨⟩

/-- The octets of a letter of base 64. -/
def base64Digit? (octet : UInt8) : Option Nat :=
  if 65 ≤ octet && octet ≤ 90 then some (octet.toNat - 65)
  else if 97 ≤ octet && octet ≤ 122 then some (octet.toNat - 71)
  else if 48 ≤ octet && octet ≤ 57 then some (octet.toNat + 4)
  else if octet == 43 then some 62
  else if octet == 47 then some 63
  else none

/-- The octets that groups of four letters of base 64 stand for.  The last group
may be filled up with equals signs. -/
def base64? : Bytes → Option Bytes
  | [] => some []
  | [first, second, 61, 61] => do
      let first ← base64Digit? first
      let second ← base64Digit? second
      some [UInt8.ofNat (first * 4 + second / 16)]
  | [first, second, third, 61] => do
      let first ← base64Digit? first
      let second ← base64Digit? second
      let third ← base64Digit? third
      some [UInt8.ofNat (first * 4 + second / 16),
        UInt8.ofNat (second % 16 * 16 + third / 4)]
  | first :: second :: third :: fourth :: rest => do
      let first ← base64Digit? first
      let second ← base64Digit? second
      let third ← base64Digit? third
      let fourth ← base64Digit? fourth
      let octets ← base64? rest
      some (UInt8.ofNat (first * 4 + second / 16) ::
        UInt8.ofNat (second % 16 * 16 + third / 4) ::
        UInt8.ofNat (third % 4 * 64 + fourth) :: octets)
  | _ => none

def binaryTag : Bytes := "!!binary"

/-- What a scalar means: its type and its text.  A tag must suit the spelling,
except that an integer may be given as a float.  Tags of no known type mark
texts. -/
def meaning (tag text : Bytes) : Except Malformed (ScalarType × Bytes) :=
  if tag == binaryTag then
    match base64? (text.filter fun octet => octet != 10 && octet != 13) with
    | some octets => .ok (.text, octets)
    | none => .error ⟨⟩
  else
    match ScalarType.ofTag? tag with
    | none => .ok (.text, text)
    | some .text => .ok (.text, text)
    | some type =>
        let shown := ScalarType.ofPlain text
        if shown == type || (type == .float && shown == .integer) then
          .ok (type, text)
        else .error ⟨⟩

/-- The texts that stand for truth where a flag is wanted. -/
def yes : List Bytes := ["y", "Y", "yes", "on"]

/-- The texts that stand for falsehood where a flag is wanted. -/
def no : List Bytes := ["n", "N", "no", "off"]

/-- The flag that a scalar stands for. -/
def flag? : ScalarType → Bytes → Option Bool
  | .boolean, text => some (truths.contains text)
  | .text, text =>
      if yes.contains text then some true
      else if no.contains text then some false
      else none
  | _, _ => none

/-- The problem of a scalar that stands where another shape is wanted. -/
def refuse (line : Nat) (tag : Bytes) (text : Bytes) (shape : Shape) :
    Decode Unit :=
  let shown :=
    if tag == sequenceTag || tag == mappingTag then none else some text
  note (.mismatch line tag shown shape.name)

/-- Reads a scalar.  The flag says whether it gave a value. -/
def scalar (shape : Shape) (old : Value) (line : Nat) (tag text : Bytes) :
    Decode (Value × Bool) := do
  let (type, content) ← meaning tag text
  match type, shape with
  | .null, .texts => return (.texts [], true)
  | .null, .list _ => return (.list [], true)
  | .null, _ => return (old, false)
  | _, .text => return (.text content, true)
  | _, .flag =>
      match flag? type content with
      | some value => return (.flag value, true)
      | none =>
          refuse line tag text shape
          return (old, false)
  | _, _ =>
      refuse line tag text shape
      return (old, false)

/-- How a key is written: the kind of its node and its text. -/
def spelling : Node → Nat × Bytes
  | .scalar _ _ text => (0, text)
  | .sequence .. => (1, [])
  | .mapping .. => (2, [])
  | .reference _ name .. => (3, name)

/-- The problems of keys that are written like an earlier one. -/
def repeatedKeys : List Node → List Problem
  | [] => []
  | key :: rest =>
      (rest.filterMap fun other =>
        if spelling other == spelling key then
          some (.repeatedKey other.line (spelling other).2 key.line)
        else none) ++ repeatedKeys rest

/-- Whether a key merges another mapping into its own. -/
def isMerge : Node → Bool
  | .scalar _ tag text => tag == mergeTag && text == "<<"
  | _ => false

/-- The node that a node stands for. -/
def resolved (document : Document) : Node → Node
  | .reference line name number target =>
      (document.target? target).getD (.reference line name number target)
  | node => node

def isMapping (document : Document) (node : Node) : Bool :=
  match resolved document node with
  | .mapping .. => true
  | _ => false

/-- Whether a node is a null or an alias of one. -/
def isNull (document : Document) (node : Node) : Bool :=
  match resolved document node with
  | .scalar _ tag _ => tag == ScalarType.null.tag
  | _ => false

/-- The name that a key takes away from merged mappings. -/
def takenName? (document : Document) (key : Node) : Option Bytes :=
  match resolved document key with
  | .scalar _ tag text =>
      match meaning tag text with
      | .ok (.text, content) => some content
      | _ => none
  | _ => none

/-- The names that are taken, and whether a further name is one of them; it is
taken from then on. -/
def take (taken : Option (List Bytes)) (name : Bytes) :
    Option (List Bytes) × Bool :=
  match taken with
  | none => (none, false)
  | some names =>
      if names.contains name then (some names, true)
      else (some (name :: names), false)

mutual

/-- Reads a node as a value of a shape in place of an old value.  The flag says
whether it gave a value. -/
def node (document : Document) :
    (fuel : Nat) → Shape → Value → Node → Decode (Value × Bool)
  | 0, _, _, _ => throw ⟨⟩
  | fuel + 1, shape, old, current => do
      count
      match current with
      | .reference _ _ number target =>
          if (← get).active.contains number then throw ⟨⟩
          match document.target? target with
          | none => throw ⟨⟩
          | some content =>
              modify fun progress =>
                { progress with active := number :: progress.active }
              let result ← node document fuel shape old content
              modify fun progress =>
                { progress with active := progress.active.drop 1 }
              return result
      | .scalar line tag text => scalar shape old line tag text
      | .sequence line tag nodes =>
          match shape with
          | .list element => return (.list (← items document fuel element nodes), true)
          | shape =>
              refuse line tag [] shape
              return (old, false)
      | .mapping line tag pairs =>
          let repeated := repeatedKeys (pairs.map Prod.fst)
          if !repeated.isEmpty then
            repeated.forM note
            return (old, false)
          match shape with
          | .record .. | .texts => return (← merging document fuel shape old pairs, true)
          | shape =>
              refuse line tag [] shape
              return (old, false)

/-- Reads the elements of a list.  Those that give no value are left out. -/
def items (document : Document) :
    (fuel : Nat) → Shape → List Node → Decode (List Value)
  | 0, _, _ => throw ⟨⟩
  | _ + 1, _, [] => return []
  | fuel + 1, shape, current :: rest => do
      let (value, isGiven) ← node document fuel shape (.blank shape) current
      let values ← items document fuel shape rest
      return if isGiven then value :: values else values

/-- Reads the pairs of a mapping, and after them the mappings merged into it,
which do not set the names that are taken. -/
def merging (document : Document) :
    (fuel : Nat) → Shape → Value → List (Node × Node) → Decode Value
  | 0, _, _, _ => throw ⟨⟩
  | fuel + 1, shape, old, pairs => do
      let taken := (← get).taken
      modify fun progress => { progress with taken := none }
      let own := pairs.filter fun (key, _) => !isMerge key
      let (value, taken) ← members document fuel shape old [] taken own
      modify fun progress => { progress with taken }
      match pairs.find? fun (key, _) => isMerge key with
      | none => return value
      | some (_, source) =>
          let sources :=
            match source with
            | .sequence _ _ nodes => nodes
            | source => [source]
          let names := pairs.filterMap fun (key, _) => takenName? document key
          modify fun progress =>
            { progress with taken := some (taken.getD names) }
          let merged ← mergeAll document fuel shape value sources
          modify fun progress =>
            { progress with taken := taken.bind fun _ => progress.taken }
          return merged

def mergeAll (document : Document) :
    (fuel : Nat) → Shape → Value → List Node → Decode Value
  | 0, _, _, _ => throw ⟨⟩
  | _ + 1, _, value, [] => return value
  | fuel + 1, shape, value, source :: rest => do
      if !isMapping document source then throw ⟨⟩
      let (value, _) ← node document fuel shape value source
      mergeAll document fuel shape value rest

/-- Reads the pairs of a mapping as fields of a record or entries of a table.
`done` are the fields that have been set. -/
def members (document : Document) :
    (fuel : Nat) → Shape → Value → (done : List Bytes) →
      (taken : Option (List Bytes)) → List (Node × Node) →
      Decode (Value × Option (List Bytes))
  | 0, _, _, _, _, _ => throw ⟨⟩
  | _ + 1, _, value, _, taken, [] => return (value, taken)
  | fuel + 1, shape, value, done, taken, (key, content) :: rest => do
      match ← node document fuel .text (.text []) key with
      | (.text name, true) =>
          let (taken, isTaken) := take taken name
          if isTaken then members document fuel shape value done taken rest
          else
            match shape, value with
            | .record wanted fields, value =>
                match fields.lookup name with
                | none => members document fuel shape value done taken rest
                | some fieldShape =>
                    if done.contains name then
                      note (.repeatedField key.line name wanted)
                      members document fuel shape value done taken rest
                    else
                      let old := (value.field? name).getD (.blank fieldShape)
                      let (field, _) ← node document fuel fieldShape old content
                      members document fuel shape (value.setField name field)
                        (name :: done) taken rest
            | _, .texts entries =>
                match ← node document fuel .text (.text []) content with
                | (.text text, isGiven) =>
                    let isNew := (entries.lookup name).isNone
                    let entries :=
                      if isGiven || (isNull document content && isNew) then
                        Value.setEntry name text entries
                      else entries
                    members document fuel shape (.texts entries) done taken rest
                | _ => members document fuel shape value done taken rest
            | _, _ => members document fuel shape value done taken rest
      | _ => members document fuel shape value done taken rest

end

end Decode

mutual

def Node.size : Node → Nat
  | .scalar .. => 1
  | .sequence _ _ items => Node.sizeAll items + 1
  | .mapping _ _ pairs => Node.sizePairs pairs + 1
  | .reference .. => 1

def Node.sizeAll : List Node → Nat
  | [] => 0
  | item :: rest => item.size + sizeAll rest

def Node.sizePairs : List (Node × Node) → Nat
  | [] => 0
  | (key, value) :: rest => key.size + value.size + sizePairs rest

end

/-- Reads the first document of a text, if there is one, as a value of a
shape. -/
def decode (shape : Shape) (text : Bytes) : Except DecodeError (Option Value) :=
  match Document.ofText false text with
  | .error _ => .error .malformed
  | .ok none => .ok none
  | .ok (some document) =>
      let size := document.root.size + 2
      let fuel := 4 * size * size
      let start : Progress := ⟨[], [], none, 0, 0⟩
      match (Decode.node document fuel shape (.blank shape) document.root).run start with
      | .error _ => .error .malformed
      | .ok ((value, _), progress) =>
          if progress.problems.isEmpty then .ok (some value)
          else .error (.unfit progress.problems)

end Yaml

end Defun
