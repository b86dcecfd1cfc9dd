import ParamFilter.Yaml.Scalar
import ParamFilter.Yaml.Token

/-!
# YAML layout

Reads a text into tokens. What a character means depends on what is open around it: the indentation of
the blocks, the brackets, and whether something that may turn out to be a key has just been read. A key
is known as one only at the colon behind it, so its token is put in afterwards, at the place where the
key began. A text with a fault has no tokens.
-/

namespace ParamFilter.Yaml

/-- Something that is a key if a colon follows it on the same line. -/
structure PendingKey where
  /-- The number of tokens in front of it. -/
  position : Nat
  line : Nat
  column : Nat
  index : Nat
  /-- Whether nothing but a key may stand there. -/
  isRequired : Bool

/-- A place in a text with what is open there. -/
structure Layout where
  cursor : Cursor
  tokens : Array Token := #[]
  /-- The columns of the open blocks, the innermost first. -/
  indents : List Nat := []
  /-- What may turn out to be a key within the innermost brackets. -/
  key : Option PendingKey := none
  /-- What may turn out to be a key around each open bracket, the innermost first. -/
  outer : List (Option PendingKey) := []
  /-- Whether a key may start here. -/
  keyAllowed : Bool := true

namespace Layout

/-- Whether a bracket is open. -/
def inFlow (layout : Layout) : Bool := !layout.outer.isEmpty

/-- Adds a token. -/
def push (layout : Layout) (token : Token) : Layout :=
  { layout with tokens := layout.tokens.push token }

/-- Goes on to a place. -/
def moveTo (layout : Layout) (cursor : Cursor) : Layout := { layout with cursor }

/-- Goes on by some characters. -/
def skip (layout : Layout) (n : Nat) : Layout := layout.moveTo (layout.cursor.skip n)

/-- Says whether a key may start next. -/
def allowKey (layout : Layout) (keyAllowed : Bool) : Layout := { layout with keyAllowed }

/-- Goes on to the next token, past blanks, breaks and comments. A line may start with a mark of byte
    order, which takes a column. Tabulations count as blanks where no key may start. A key may start on a
    new line outside brackets. -/
def skipSpace : Nat → Layout → Layout
  | 0, layout => layout
  | limit + 1, layout =>
    let isSpace (c : Char) := c == ' ' || (c == '\t' && (layout.inFlow || !layout.keyAllowed))
    let (_, cursor) := layout.cursor.skipByteOrderMark.take isSpace
    let cursor := if cursor.rest.head? = some '#' then (cursor.take (!isBreak ·)).2 else cursor
    match cursor.lineBreak? with
    | some (_, next) =>
      skipSpace limit ((layout.moveTo next).allowKey (layout.keyAllowed || !layout.inFlow))
    | none => layout.moveTo cursor

/-- Gives up a pending key, which is a fault where a key is required. -/
def dropKey? (layout : Layout) : Option Layout :=
  if layout.key.any (·.isRequired) then none else some { layout with key := none }

/-- Whether a pending key is too far back to be one: on an earlier line, or more than 1024 characters. -/
def isStale (cursor : Cursor) (key : PendingKey) : Bool :=
  key.line < cursor.line || key.index + 1024 < cursor.index

/-- Gives up the pending keys that are too far back. -/
def dropStale? (layout : Layout) : Option Layout :=
  let isStale := isStale layout.cursor
  let fresh (key : Option PendingKey) := key.filter (!isStale ·)
  if (layout.key :: layout.outer).any (·.any fun key => key.isRequired && isStale key) then none
  else some { layout with key := fresh layout.key, outer := layout.outer.map fresh }

/-- Notes that a key may start here, if that is allowed. -/
def saveKey? (layout : Layout) : Option Layout :=
  if layout.keyAllowed then do
    let layout ← layout.dropKey?
    let cursor := layout.cursor
    let isRequired := !layout.inFlow && layout.indents.head? == some cursor.column
    return { layout with
      key := some ⟨layout.tokens.size, cursor.line, cursor.column, cursor.index, isRequired⟩ }
  else some layout

/-- Closes the blocks that are further in than a column, or all blocks. Brackets keep blocks open. -/
def closeBlocks (layout : Layout) (column : Option Nat) : Layout :=
  if layout.inFlow then layout
  else
    let closed := layout.indents.takeWhile fun indent => column.all (· < indent)
    { layout with
      indents := layout.indents.drop closed.length
      tokens := layout.tokens ++ Array.replicate closed.length Token.blockEnd }

/-- Opens a block at a column, if no open block is as far in. Its token goes where the block begins. -/
def openBlock (layout : Layout) (column position : Nat) (token : Token) : Layout :=
  if layout.inFlow || !layout.indents.head?.all (· < column) then layout
  else
    { layout with
      indents := column :: layout.indents
      tokens := layout.tokens.insertIdxIfInBounds position token }

/-- Opens a block for a mark that stands here. Outside brackets, the mark may stand only where a key may. -/
def openHere? (layout : Layout) (token : Token) : Option Layout :=
  if layout.inFlow then some layout
  else if layout.keyAllowed then
    some (layout.openBlock layout.cursor.column layout.tokens.size token)
  else none

/-- Reads a directive. -/
def directive? (layout : Layout) : Option Layout := do
  let layout ← (layout.closeBlocks none).dropKey?
  let (token, cursor) ← Token.directive? (layout.cursor.skip 1)
  return ((layout.push token).allowKey false).moveTo cursor

/-- Reads the start or the end of a document. -/
def documentMark? (layout : Layout) (token : Token) : Option Layout := do
  let layout ← (layout.closeBlocks none).dropKey?
  return ((layout.push token).allowKey false).skip 3

/-- Reads an opening bracket, which may begin a key. -/
def openBracket? (layout : Layout) (token : Token) : Option Layout := do
  let layout ← layout.saveKey?
  let layout := { layout with key := none, outer := layout.key :: layout.outer }
  return ((layout.push token).allowKey true).skip 1

/-- Reads a closing bracket. Whether it closes anything is not settled here. -/
def closeBracket? (layout : Layout) (token : Token) : Option Layout := do
  let layout ← layout.dropKey?
  let layout := match layout.outer with
    | key :: outer => { layout with key, outer }
    | [] => layout
  return ((layout.push token).allowKey false).skip 1

/-- Reads a comma. -/
def comma? (layout : Layout) : Option Layout := do
  let layout ← layout.dropKey?
  return ((layout.push .comma).allowKey true).skip 1

/-- Reads the dash in front of an item. -/
def entry? (layout : Layout) : Option Layout := do
  let layout ← (← layout.openHere? .blockSeq).dropKey?
  return ((layout.push .entry).allowKey true).skip 1

/-- Reads the question mark in front of a key. -/
def key? (layout : Layout) : Option Layout := do
  let layout ← (← layout.openHere? .blockMap).dropKey?
  return ((layout.push .key).allowKey (!layout.inFlow)).skip 1

/-- Reads the colon in front of a value. What was pending is a key now, and its token goes where it
    began; the block that it opens, if any, begins there too. -/
def value? (layout : Layout) : Option Layout := do
  let layout ← match layout.key with
    | some key =>
      let tokens := layout.tokens.insertIdxIfInBounds key.position Token.key
      let layout := { layout with tokens, key := none }
      some ((layout.openBlock key.column key.position .blockMap).allowKey false)
    | none => (layout.openHere? .blockMap).map (·.allowKey (!layout.inFlow))
  return (layout.push .value).skip 1

/-- Reads an anchor, an alias or a tag, which may begin a key. -/
def property? (layout : Layout) (read : Cursor → Option (Token × Cursor)) : Option Layout := do
  let layout ← layout.saveKey?
  let (token, cursor) ← read layout.cursor
  return ((layout.push token).allowKey false).moveTo cursor

/-- Reads the name behind a mark. -/
def named? (token : String → Token) (cursor : Cursor) : Option (Token × Cursor) := do
  let (name, cursor) ← Token.name? (cursor.skip 1)
  return (token name, cursor)

/-- Reads a scalar between quotes, which may begin a key. -/
def quoted? (layout : Layout) (quote : Char) : Option Layout := do
  let layout ← layout.saveKey?
  let (text, cursor) ← Quoted.read? quote (layout.cursor.skip 1)
  return ((layout.push (.scalar (String.ofList text) .other)).allowKey false).moveTo cursor

/-- Reads a scalar that is a block. A key may start behind it. -/
def block? (layout : Layout) (isLiteral : Bool) : Option Layout := do
  let layout ← layout.dropKey?
  let (text, cursor) ← Block.read? isLiteral layout.indents.head? (layout.cursor.skip 1)
  let style := if isLiteral then Style.literal else .other
  return ((layout.push (.scalar (String.ofList text) style)).allowKey true).moveTo cursor

/-- Reads a plain scalar, which may begin a key. A key may start behind it if it ends at the start of a
    line. -/
def plain? (layout : Layout) : Option Layout := do
  let layout ← layout.saveKey?
  let floor := (layout.indents.head?.map (· + 1)).getD 0
  let (text, atLineStart, cursor) ← Plain.read? layout.inFlow floor layout.cursor
  return ((layout.push (.scalar (String.ofList text) .plain)).allowKey atLineStart).moveTo cursor

/-- The characters that no plain scalar begins with, but for some of them before certain others. -/
def isMark (c : Char) : Bool := isFlowMark c || "-?:#&*!|>'\"%@\x60".contains c

/-- Reads the token that starts with a character, given what is behind it. -/
def token? (layout : Layout) (c : Char) (rest : List Char) : Option Layout :=
  let atStart := layout.cursor.column = 0
  let isSeparate := layout.inFlow || atSpace rest
  if atStart ∧ c = '%' then layout.directive?
  else if layout.cursor.atDocumentMark then
    layout.documentMark? (if c = '-' then .documentStart else .documentEnd)
  else if c = '[' then layout.openBracket? .flowSeq
  else if c = '\x7b' then layout.openBracket? .flowMap
  else if c = ']' then layout.closeBracket? .flowSeqEnd
  else if c = '\x7d' then layout.closeBracket? .flowMapEnd
  else if c = ',' then layout.comma?
  else if c = '-' && atSpace rest then layout.entry?
  else if c = '?' && isSeparate then layout.key?
  else if c = ':' && isSeparate then layout.value?
  else if c = '*' then layout.property? (named? .alias)
  else if c = '&' then layout.property? (named? .anchor)
  else if c = '!' then layout.property? (Token.tag? layout.inFlow)
  else if c = '|' && !layout.inFlow then layout.block? true
  else if c = '>' && !layout.inFlow then layout.block? false
  else if c = '\'' || c = '"' then layout.quoted? c
  else if isBlank c then none
  else if !isMark c || c = '-' || (!layout.inFlow && (c = '?' || c = ':')) then layout.plain?
  else none

/-- Reads tokens to the end of the text. Each takes a character, so the recursion counts characters. -/
def run? : Nat → Layout → Option Layout
  | 0, _ => none
  | limit + 1, layout => do
    let layout ← (skipSpace (layout.cursor.rest.length + 1) layout).dropStale?
    match layout.cursor.rest with
    | [] => (layout.closeBlocks none).dropKey?
    | c :: rest => run? limit (← (layout.closeBlocks (some layout.cursor.column)).token? c rest)

end Layout

/-- The tokens of a text. -/
def Token.scan? (text : String) : Option (List Token) := do
  let cursor := Cursor.start text.toList
  if !cursor.rest.all isAllowed then none
  let layout ← Layout.run? (cursor.rest.length + 1) { cursor }
  return layout.tokens.toList

end ParamFilter.Yaml
