import ParamFilter.Text.Integer
import ParamFilter.Text.Utf8
import ParamFilter.Yaml.Cursor

/-!
# YAML tokens

The marks and scalars of a YAML text in order, with the nesting that indentation stands for made
explicit. This module has the tokens and the readers for names, tags and directives; what is a token at
all depends on the layout around it.
-/

namespace ParamFilter.Yaml

/-- How a scalar is written. -/
inductive Style where
  | plain
  /-- A block that keeps its breaks. -/
  | literal
  /-- Between quotes, or a folded block. -/
  | other
  deriving DecidableEq, Repr

/-- The bytes of a tag. Escapes in a tag may spell any bytes but zero, not only text. -/
abbrev Tag := List Nat

/-- A token. -/
inductive Token where
  /-- A directive that names a version. -/
  | version
  /-- A directive that gives a tag handle its meaning. -/
  | handle (name : String) (meaning : Tag)
  | documentStart
  | documentEnd
  | blockSeq
  | blockMap
  | blockEnd
  | flowSeq
  | flowSeqEnd
  | flowMap
  | flowMapEnd
  /-- The dash in front of an item. -/
  | entry
  | comma
  | key
  | value
  | alias (name : String)
  | anchor (name : String)
  /-- A tag, with the handle that its first part names. -/
  | tag (handle : String) (suffix : Tag)
  | scalar (text : String) (style : Style)
  deriving DecidableEq, Repr

namespace Token

/-- The characters of tags. Brackets and commas may stand in a tag that is written out in full only. -/
def isTagChar (inFull : Bool) (c : Char) : Bool :=
  isNameChar c || ";/?:@&=+$.%!~*'()".contains c || (inFull && ",[]".contains c)

/-- The bytes that the characters of a tag spell, where a percent sign and two digits stand for one. -/
def tagBytes? : List Char → Option (List Nat)
  | [] => some []
  | '%' :: high :: low :: rest => do
    let byte := 16 * (← Text.hexDigit? high) + (← Text.hexDigit? low)
    return byte :: (← tagBytes? rest)
  | c :: rest => if c = '%' then none else (tagBytes? rest).map (c.toNat :: ·)

/-- How many bytes belong to a character by its first byte. -/
def sequenceWidth? (first : Nat) : Option Nat :=
  if first < 0x80 then some 1
  else if 0xc0 ≤ first && first < 0xe0 then some 2
  else if 0xe0 ≤ first && first < 0xf0 then some 3
  else if 0xf0 ≤ first && first < 0xf8 then some 4
  else none

/-- Whether bytes come in sequences of the widths that their first bytes announce. `due` is how many of
    the current sequence are still to come. -/
def isSequenced : Nat → List Nat → Bool
  | due, [] => due = 0
  | 0, first :: rest =>
    match sequenceWidth? first with
    | some width => isSequenced (width - 1) rest
    | none => false
  | due + 1, b :: rest => Text.Utf8.isTail b && isSequenced due rest

/-- The tag that characters spell, up to a byte that is zero. -/
def tagOf? (written : List Char) : Option Tag := do
  let bytes ← tagBytes? written
  if isSequenced 0 bytes then some (bytes.takeWhile (· ≠ 0)) else none

/-- Takes the characters of a tag, of which there has to be one. -/
def tagRun? (inFull : Bool) (cursor : Cursor) : Option (Tag × Cursor) := do
  let (run, cursor) := cursor.take (isTagChar inFull)
  if run.isEmpty then none
  return (← tagOf? run, cursor)

/-- The tag of a mark with nothing behind it. -/
def bareTag : Tag := ['!'.toNat]

/-- Takes an exclamation mark, a name and a second mark, if it is there. The result says whether it was. -/
def tagHandle (cursor : Cursor) : List Char × Bool × Cursor :=
  let (name, cursor) := (cursor.skip 1).take isNameChar
  match cursor.rest with
  | '!' :: _ => ('!' :: name ++ ['!'], true, cursor.skip 1)
  | _ => ('!' :: name, false, cursor)

/-- Reads a tag at its exclamation mark: written out in full between angle brackets, with a handle
    between two marks, or with the mark alone for the handle. A mark with nothing behind it is a tag
    without a handle. -/
def tag? (inFlow : Bool) (cursor : Cursor) : Option (Token × Cursor) := do
  let (read, cursor) ← match cursor.rest with
    | '!' :: '<' :: _ => do
      let (text, cursor) ← tagRun? true (cursor.skip 2)
      if cursor.rest.head? = some '>' then some (tag "" text, cursor.skip 1) else none
    | _ => do
      let (marked, isClosed, next) := tagHandle cursor
      if isClosed then do
        let (suffix, cursor) ← tagRun? false next
        some (tag (String.ofList marked) suffix, cursor)
      else if ((cursor.skip 1).take (isTagChar false)).1.isEmpty then some (tag "" bareTag, next)
      else do
        let (suffix, cursor) ← tagRun? false (cursor.skip 1)
        some (if suffix.isEmpty then tag "" bareTag else tag "!" suffix, cursor)
  if atSpace cursor.rest || (inFlow && cursor.rest.head? == some ',') then some (read, cursor)
  else none

/-- Reads the name of an anchor or of an alias behind its mark. -/
def name? (cursor : Cursor) : Option (String × Cursor) :=
  let (name, cursor) := cursor.take isNameChar
  let ends := atSpace cursor.rest ||
    cursor.rest.head?.any fun c => isFlowMark c && c != '[' && c != '\x7b' || "?:%@\x60".contains c
  if !name.isEmpty && ends then some (String.ofList name, cursor) else none

/-- Takes the digits of a version number, at most nine. -/
def versionNumber? (cursor : Cursor) : Option (Nat × Cursor) :=
  let (digits, cursor) := cursor.take Char.isDigit
  if digits.isEmpty || 9 < digits.length then none else some (Text.digitsValue digits, cursor)

/-- Reads a version. Versions 1.1 and 1.2 are known. -/
def version? (cursor : Cursor) : Option (Token × Cursor) := do
  let (major, cursor) ← versionNumber? cursor
  if cursor.rest.head? ≠ some '.' then none
  let (minor, cursor) ← versionNumber? (cursor.skip 1)
  if major = 1 ∧ (minor = 1 ∨ minor = 2) then some (version, cursor) else none

/-- Reads a tag handle and its meaning. -/
def handle? (cursor : Cursor) : Option (Token × Cursor) := do
  if cursor.rest.head? ≠ some '!' then none
  let (name, isClosed, cursor) := tagHandle cursor
  if !isClosed && name != ['!'] then none
  let (blanks, cursor) := cursor.take isBlank
  if blanks.isEmpty then none
  let (meaning, cursor) ← tagRun? true cursor
  if atSpace cursor.rest then some (handle (String.ofList name) meaning, cursor) else none

/-- Reads a directive behind its percent sign, up to the end of the line. -/
def directive? (cursor : Cursor) : Option (Token × Cursor) := do
  let (name, cursor) := cursor.take isNameChar
  if !atSpace cursor.rest then none
  let (_, cursor) := cursor.take isBlank
  let (read, cursor) ←
    if name = "YAML".toList then version? cursor
    else if name = "TAG".toList then handle? cursor
    else none
  return (read, ← cursor.lineRest?)

end Token

end ParamFilter.Yaml
