/-!
# Places in a YAML text

The rest of a text together with the line, the column and the number of characters before it. What a
character means in YAML depends on where it stands, so reading carries the place along.
-/

namespace ParamFilter.Yaml

/-- A space or a tabulation. -/
def isBlank (c : Char) : Bool := c == ' ' || c == '\t'

/-- The characters that end a line. -/
def isBreak (c : Char) : Bool :=
  c == '\n' || c == '\r' || c == '\x85' || c == '\u2028' || c == '\u2029'

/-- The brackets and the comma of lists and mappings in brackets. -/
def isFlowMark (c : Char) : Bool :=
  c == ',' || c == '[' || c == ']' || c == '\x7b' || c == '\x7d'

/-- The characters of anchors, tag handles and directives. -/
def isNameChar (c : Char) : Bool := c.isAlphanum || c == '_' || c == '-'

/-- The characters that may stand in a text at all. -/
def isAllowed (c : Char) : Bool :=
  c == '\t' || c == '\n' || c == '\r' || (' ' ≤ c && c ≤ '~') || c == '\x85' ||
    ('\xa0' ≤ c && c ≤ '\ufffd') || 0x10000 ≤ c.toNat

/-- Whether a text goes on with a blank or a break, or ends. -/
def atSpace : List Char → Bool
  | [] => true
  | c :: _ => isBlank c || isBreak c

/-- Whether a text goes on with a break, or ends. -/
def atLineEnd : List Char → Bool
  | [] => true
  | c :: _ => isBreak c

/-- A place in a text. -/
structure Cursor where
  rest : List Char
  line : Nat
  column : Nat
  index : Nat

namespace Cursor

/-- The start of a text. -/
def start (text : List Char) : Cursor := ⟨text, 0, 0, 0⟩

/-- Goes on by some characters of the same line. -/
def skip (cursor : Cursor) (n : Nat) : Cursor :=
  { cursor with rest := cursor.rest.drop n, column := cursor.column + n, index := cursor.index + n }

/-- Takes characters of one line as long as they have a property. -/
def take (cursor : Cursor) (wanted : Char → Bool) : List Char × Cursor :=
  let run := cursor.rest.takeWhile wanted
  (run, cursor.skip run.length)

/-- Goes on past a mark of byte order at the start of a line. -/
def skipByteOrderMark (cursor : Cursor) : Cursor :=
  if cursor.column = 0 ∧ cursor.rest.head? = some '\ufeff' then cursor.skip 1 else cursor

/-- Goes on to the next line. -/
def nextLine (cursor : Cursor) (rest : List Char) (length : Nat) : Cursor :=
  ⟨rest, cursor.line + 1, 0, cursor.index + length⟩

/-- Takes one break. All breaks are line feeds, but for the separators of lines and paragraphs. -/
def lineBreak? (cursor : Cursor) : Option (Char × Cursor) :=
  match cursor.rest with
  | '\r' :: '\n' :: rest => some ('\n', cursor.nextLine rest 2)
  | c :: rest =>
    if c = '\u2028' ∨ c = '\u2029' then some (c, cursor.nextLine rest 1)
    else if isBreak c then some ('\n', cursor.nextLine rest 1)
    else none
  | [] => none

/-- Goes on behind a break, if there is one. -/
def skipBreak (cursor : Cursor) : Cursor := (cursor.lineBreak?.map Prod.snd).getD cursor

/-- Goes on to the end of the line, past blanks and a comment. Anything else on the line is a fault. -/
def lineRest? (cursor : Cursor) : Option Cursor :=
  let (_, cursor) := cursor.take isBlank
  let cursor := match cursor.rest with
    | '#' :: _ => (cursor.take (!isBreak ·)).2
    | _ => cursor
  if atLineEnd cursor.rest then some cursor.skipBreak else none

/-- Whether a line starts here with three marks and a space: the start or the end of a document. -/
def atDocumentMark (cursor : Cursor) : Bool :=
  cursor.column == 0 &&
    match cursor.rest with
    | '-' :: '-' :: '-' :: rest => atSpace rest
    | '.' :: '.' :: '.' :: rest => atSpace rest
    | _ => false

end Cursor

end ParamFilter.Yaml
