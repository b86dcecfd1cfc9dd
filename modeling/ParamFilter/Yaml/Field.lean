import ParamFilter.Yaml.Node

/-!
# Readings of YAML nodes

What a node says where a certain thing is expected: a text, a number, a word, or a mapping with known
fields. A scalar with nothing in it stands for an empty mapping.

Two limits end the reading of nodes that hold themselves, or hold others over and over: nothing more than
128 mappings deep is read, and no more aliases are followed than a hundred for each part of the document.
-/

namespace ParamFilter.Yaml

/-- How deep mappings are read. -/
def maxDepth : Nat := 128

/-- The ways to write null in a plain scalar, but for the empty one. -/
def nullWords : List String := ["null", "Null", "NULL", "~"]

/-- Reads an unsigned number of 64 bits: hexadecimal, octal and binary digits behind their marks, or
    decimal digits without a zero in front. A plus sign may come first. -/
def count? (text : List Char) : Option Nat :=
  let unsigned := match text with
    | '+' :: rest => rest
    | _ => text
  let read := match unsigned with
    | '0' :: 'x' :: digits => Text.radixValue? 16 digits
    | '0' :: 'o' :: digits => Text.radixValue? 8 digits
    | '0' :: 'b' :: digits => Text.radixValue? 2 digits
    | '0' :: _ :: _ => none
    | digits => Text.radixValue? 10 digits
  read.filter (· ≤ Text.maxCount)

example : count? "+0x1F".toList = some 31 := by decide
example : count? "007".toList = none ∧ count? "0".toList = some 0 := by decide

/-- A reading of nodes, which carries along how many aliases may still be followed. -/
abbrev Reading (α : Type) := StateT Nat Option α

/-- A fault. -/
def Reading.fault {α : Type} : Reading α := fun _ => none

namespace Document

/-- How many aliases may be followed for each part of a document. -/
def aliasesPerPart : Nat := 100

/-- Carries out a reading of a document. -/
def run? {α : Type} (document : Document) (reading : Reading α) : Option α :=
  (reading (aliasesPerPart * document.root.size)).map Prod.fst

/-- The node that a node stands for. -/
def target (document : Document) : Node → Reading Node
  | .alias number => fun left =>
    match left with
    | 0 => none
    | left + 1 => (document.anchored.lookup number).map (·, left)
  | node => pure node

/-- A text: any scalar. -/
def text (document : Document) (node : Node) : Reading String := do
  match ← document.target node with
  | .scalar text _ _ => return text
  | _ => Reading.fault

/-- A number: a plain scalar, or a block that is tagged as one. -/
def count (document : Document) (node : Node) : Reading Nat := do
  match ← document.target node with
  | .scalar text style tag =>
    if style = .plain ∨ (style = .literal ∧ tag = some (coreTag ++ Text.Utf8.encode "int".toList)) then
      (count? text.toList : Option Nat)
    else Reading.fault
  | _ => Reading.fault

/-- The name in a tag of the document's own. A mark with nothing behind it is its own name. -/
def tagName? : Tag → Option String
  | [] => none
  | first :: name =>
    if first ≠ '!'.toNat then none
    else (Text.Utf8.decode? (if name.isEmpty then Token.bareTag else name)).map String.ofList

/-- Whether a plain scalar is null. -/
def isNull (text : String) : Bool := text = "" || nullWords.contains text

/-- A word: any scalar, or a tag of the document's own on a plain scalar that is null. -/
def word (document : Document) (node : Node) : Reading String := do
  match ← document.target node with
  | .scalar text style tag =>
    match tag.bind tagName? with
    | none => return text
    | some name => if style = .plain ∧ isNull text then return name else Reading.fault
  | _ => Reading.fault

/-- A node that may be null, and then none results. Under the tag of null, the scalar has to be one of the
    words for it. -/
def nonNull (document : Document) (node : Node) : Reading (Option Node) := do
  let node ← document.target node
  match node with
  | .scalar text .plain none => return if isNull text then none else some node
  | .scalar text .plain (some tag) =>
    if tag ≠ coreTag ++ Text.Utf8.encode "null".toList then return some node
    else if nullWords.contains text then return none
    else Reading.fault
  | _ => return some node

/-- The entries of a mapping, with texts for keys. -/
def fields (document : Document) (depth : Nat) (node : Node) : Reading (List (String × Node)) := do
  match ← document.target node with
  | .scalar "" .plain _ => return []
  | .map entries =>
    if depth = 0 then Reading.fault
    else entries.mapM fun (key, value) => do return (← document.text key, value)
  | _ => Reading.fault

end Document

/-- The node of a known field, if it is there. Having it twice is a fault. -/
def field (fields : List (String × Node)) (name : String) : Reading (Option Node) :=
  match fields.filter (·.1 = name) with
  | [] => pure none
  | [(_, node)] => pure (some node)
  | _ => Reading.fault

/-- Reads a known field, with a value for when it is missing. -/
def fieldOr {α : Type} (fields : List (String × Node)) (name : String) (missing : α)
    (read : Node → Reading α) : Reading α := do
  match ← field fields name with
  | some node => read node
  | none => return missing

end ParamFilter.Yaml
