import ParamFilter.Text.Integer
import ParamFilter.Yaml.Cursor

/-!
# YAML scalars

The three ways to write a text: plain, between quotes, and as a block of lines. Each reader takes the
place behind the mark that opens the scalar, and gives the text and the place behind the scalar.

Plain and quoted scalars may go on over several lines. A single break between two parts is a space; of
several breaks in a row the first is dropped and the others stay. Blanks around a break are dropped, and
blanks within a line stay. In a block, a break is kept or folded in the same way, depending on the mark.
-/

namespace ParamFilter.Yaml

/-- The space between two parts of a scalar: the blanks on the same line, or the breaks after them. -/
structure Gap where
  blanks : List Char := []
  first : Option Char := none
  more : List Char := []

namespace Gap

/-- What a gap contributes to the text. -/
def text (gap : Gap) : List Char :=
  match gap.first with
  | none => gap.blanks ++ gap.more
  | some '\n' => if gap.more.isEmpty then [' '] else gap.more
  | some c => c :: gap.more

/-- Takes blanks and breaks. After the first break, a tabulation in front of the column `floor` is a fault.
    `broken` says that a break has been met, if only an escaped one. The recursion counts characters. -/
def scan? (floor : Nat) : Nat → Bool → Gap → Cursor → Option (Gap × Cursor)
  | 0, _, gap, cursor => some (gap, cursor)
  | limit + 1, broken, gap, cursor =>
    match cursor.rest with
    | [] => some (gap, cursor)
    | c :: _ =>
      if isBlank c then
        if !broken then scan? floor limit broken { gap with blanks := gap.blanks ++ [c] } (cursor.skip 1)
        else if c = '\t' ∧ cursor.column < floor then none
        else scan? floor limit broken gap (cursor.skip 1)
      else match cursor.lineBreak? with
        | none => some (gap, cursor)
        | some (br, next) =>
          if broken then scan? floor limit true { gap with more := gap.more ++ [br] } next
          else scan? floor limit true { gap with blanks := [], first := some br } next

/-- Takes the gap at a place. -/
def take? (floor : Nat) (broken : Bool) (cursor : Cursor) : Option (Gap × Cursor) :=
  scan? floor cursor.rest.length broken {} cursor

end Gap

namespace Plain

/-- Takes characters up to a space or an indicator that ends a plain scalar. In brackets, a colon that
    touches a bracket is a fault. -/
def run? (inFlow : Bool) : List Char → Option (List Char)
  | [] => some []
  | c :: rest =>
    if isBlank c || isBreak c then some []
    else if c = ':' then
      if inFlow && rest.head?.any fun next => isFlowMark next || next == '?' then none
      else if atSpace rest then some []
      else (run? inFlow rest).map (c :: ·)
    else if inFlow && isFlowMark c then some []
    else (run? inFlow rest).map (c :: ·)

/-- Reads the parts of a plain scalar. `gap` has been read and counts if another part follows. The result
    says whether the scalar ends at the start of a line. -/
def parts? (inFlow : Bool) (floor : Nat) :
    Nat → List Char → Gap → Cursor → Option (List Char × Bool × Cursor)
  | 0, _, _, _ => none
  | limit + 1, text, gap, cursor =>
    if cursor.atDocumentMark || cursor.rest.head? == some '#' then
      some (text, gap.first.isSome, cursor)
    else do
      let run ← run? inFlow cursor.rest
      if run.isEmpty then return (text, gap.first.isSome, cursor)
      let text := text ++ gap.text ++ run
      let cursor := cursor.skip run.length
      if cursor.rest.isEmpty || !atSpace cursor.rest then return (text, false, cursor)
      let (gap, cursor) ← Gap.take? floor false cursor
      if !inFlow && cursor.column < floor then return (text, gap.first.isSome, cursor)
      parts? inFlow floor limit text gap cursor

/-- Reads a plain scalar. Outside brackets it ends where a line starts in front of the column `floor`. -/
def read? (inFlow : Bool) (floor : Nat) (cursor : Cursor) : Option (List Char × Bool × Cursor) :=
  parts? inFlow floor (cursor.rest.length + 1) [] {} cursor

end Plain

namespace Quoted

/-- The escapes of one letter. -/
def letterEscapes : List (Char × Char) :=
  [('0', '\x00'), ('a', '\x07'), ('b', '\x08'), ('t', '\t'), ('\t', '\t'), ('n', '\n'), ('v', '\x0b'),
    ('f', '\x0c'), ('r', '\r'), ('e', '\x1b'), (' ', ' '), ('"', '"'), ('/', '/'), ('\\', '\\'),
    ('N', '\x85'), ('_', '\xa0'), ('L', '\u2028'), ('P', '\u2029')]

/-- The number of hexadecimal digits behind the letters that take them. -/
def codeEscapes : List (Char × Nat) := [('x', 2), ('u', 4), ('U', 8)]

/-- The character of an escape behind its backslash, and how many characters it takes. -/
def escape? : List Char → Option (Char × Nat)
  | [] => none
  | c :: rest =>
    match letterEscapes.lookup c, codeEscapes.lookup c with
    | some meant, _ => some (meant, 1)
    | none, none => none
    | none, some width => do
      let digits := rest.take width
      if digits.length < width then none
      let code ← Text.radixValue? 16 digits
      if code < 0xd800 || (0xdfff < code && code ≤ 0x10ffff) then some (Char.ofNat code, width + 1)
      else none

/-- Reads a quoted scalar up to its closing quote. A quote is doubled between single quotes, and escaped
    between double ones, where a break may be escaped too. The recursion counts characters. -/
def parts? (quote : Char) : Nat → List Char → Cursor → Option (List Char × Cursor)
  | 0, _, _ => none
  | limit + 1, text, cursor =>
    if cursor.atDocumentMark then none
    else match cursor.rest with
      | [] => none
      | c :: rest =>
        if c = quote then
          if quote = '\'' ∧ rest.head? = some '\'' then
            parts? quote limit (text ++ ['\'']) (cursor.skip 2)
          else some (text, cursor.skip 1)
        else if c = '\\' ∧ quote = '"' then
          match (cursor.skip 1).lineBreak? with
          | some (_, next) => do
            let (gap, cursor) ← Gap.take? 0 true next
            parts? quote limit (text ++ gap.text) cursor
          | none => do
            let (escaped, used) ← escape? rest
            parts? quote limit (text ++ [escaped]) (cursor.skip (1 + used))
        else if isBlank c || isBreak c then do
          let (gap, cursor) ← Gap.take? 0 false cursor
          parts? quote limit (text ++ gap.text) cursor
        else
          let run := cursor.rest.takeWhile fun c =>
            c ≠ quote && c ≠ '\\' && !isBlank c && !isBreak c
          let run := if run.isEmpty then [c] else run
          parts? quote limit (text ++ run) (cursor.skip run.length)

/-- Reads a quoted scalar behind its opening quote. -/
def read? (quote : Char) (cursor : Cursor) : Option (List Char × Cursor) :=
  parts? quote (cursor.rest.length + 1) [] cursor

end Quoted

namespace Block

/-- What becomes of the breaks at the end of a block. -/
inductive Chomp where
  /-- None is kept. -/
  | strip
  /-- One is kept. -/
  | clip
  /-- All are kept. -/
  | keep
  deriving DecidableEq

/-- How a block is read. -/
structure Header where
  chomp : Chomp
  /-- How far the block is indented beyond what is around it, if that is given. -/
  indent : Option Nat

/-- The chomping mark, if there is one. -/
def chomp? : List Char → Option Chomp
  | '+' :: _ => some .keep
  | '-' :: _ => some .strip
  | _ => none

/-- The indentation, if it is given. -/
def indent? : List Char → Option Nat
  | c :: _ => if c.isDigit then some (Text.digitsValue [c]) else none
  | [] => none

/-- Reads the header of a block: a mark and a digit in either order, which must not be zero, and nothing
    else but a comment on the line. -/
def header? (cursor : Cursor) : Option (Header × Cursor) := do
  let early := chomp? cursor.rest
  let cursor := if early.isSome then cursor.skip 1 else cursor
  let indent := indent? cursor.rest
  let cursor := if indent.isSome then cursor.skip 1 else cursor
  let late := if early.isNone ∧ indent.isSome then chomp? cursor.rest else none
  let cursor := if late.isSome then cursor.skip 1 else cursor
  if indent = some 0 then none
  return (⟨(early.or late).getD .clip, indent⟩, ← cursor.lineRest?)

/-- Takes the indentation of a line and the empty lines before it. `indent` is the column at which lines
    start, or nothing when that is still to be found; `deepest` is the deepest column met. A tabulation in
    the indentation is a fault. The recursion counts characters. -/
def breaks? (indent : Option Nat) :
    Nat → List Char → Nat → Cursor → Option (List Char × Nat × Cursor)
  | 0, breaks, deepest, cursor => some (breaks, deepest, cursor)
  | limit + 1, breaks, deepest, cursor =>
    let spaces := cursor.rest.takeWhile (· == ' ')
    let wanted := match indent with
      | none => spaces.length
      | some column => min spaces.length (column - cursor.column)
    let cursor := cursor.skip wanted
    let deepest := max deepest cursor.column
    if cursor.rest.head? = some '\t' ∧ indent.all (cursor.column < ·) then none
    else match cursor.lineBreak? with
      | some (br, next) => breaks? indent limit (breaks ++ [br]) deepest next
      | none => some (breaks, deepest, cursor)

/-- Reads the lines of a block. `lead` is the break at the end of the line before, `breaks` are the empty
    lines behind it, and `blankLine` says that the line before started with a blank. -/
def lines? (literal : Bool) (indent : Nat) (chomp : Chomp) :
    Nat → List Char → Option Char → List Char → Bool → Cursor → Option (List Char × Cursor)
  | 0, _, _, _, _, _ => none
  | limit + 1, text, lead, breaks, blankLine, cursor =>
    if cursor.column = indent ∧ !cursor.rest.isEmpty then do
      let startsBlank := cursor.rest.head?.any isBlank
      let folded := !literal && lead == some '\n' && !blankLine && !startsBlank
      let joint := if folded then (if breaks.isEmpty then [' '] else []) else lead.toList
      let (line, cursor) := cursor.take (!isBreak ·)
      let (lead, cursor) := match cursor.lineBreak? with
        | some (br, next) => (some br, next)
        | none => (none, cursor)
      let (more, _, cursor) ← breaks? (some indent) (cursor.rest.length + 1) [] 0 cursor
      lines? literal indent chomp limit (text ++ joint ++ breaks ++ line) lead more startsBlank cursor
    else
      let tail := match chomp with
        | .strip => []
        | .clip => lead.toList
        | .keep => lead.toList ++ breaks
      some (text ++ tail, cursor)

/-- Reads a block behind its opening mark. `parent` is the column of what is around it, if anything is. -/
def read? (literal : Bool) (parent : Option Nat) (cursor : Cursor) :
    Option (List Char × Cursor) := do
  let (header, cursor) ← header? cursor
  let given := header.indent.map (· + parent.getD 0)
  let limit := cursor.rest.length + 1
  let (breaks, deepest, cursor) ← breaks? given limit [] 0 cursor
  let least := max 1 ((parent.map (· + 1)).getD 0)
  lines? literal (given.getD (max deepest least)) header.chomp (limit + 1) [] none breaks false cursor

end Block

end ParamFilter.Yaml
