import ParamFilter.Decimal.Shortest
import ParamFilter.Json

/-!
# Writing JSON

Two layouts of the same text: one line without blanks, and lines indented by two spaces. Texts escape
the quote, the backslash and the controls only. Doubles have the fewest digits that read back: with a
point and at least one digit behind it from 0.00001 up to below ten quadrillions, and with a signed
power of ten beyond.
-/

namespace ParamFilter.Json

/-- The least exponent of the leading digit that is written without a power of ten. -/
def plainFrom : Int := -5

/-- The least exponent above that is written with a power of ten again. -/
def plainBelow : Int := 16

/-- Lays out the digits of a decimal whose leading digit has the given exponent. -/
def layout (digits : List Char) (leading : Int) : List Char :=
  if plainFrom ≤ leading ∧ leading < plainBelow then
    if leading < 0 then
      '0' :: '.' :: List.replicate (-leading - 1).toNat '0' ++ digits
    else
      let whole := leading.toNat + 1
      let fraction := digits.drop whole
      digits.take whole ++ List.replicate (whole - digits.length) '0' ++
        '.' :: if fraction.isEmpty then ['0'] else fraction
  else
    let fraction := digits.drop 1
    let sign := if leading < 0 then '-' else '+'
    digits.take 1 ++ (if fraction.isEmpty then [] else '.' :: fraction) ++
      'e' :: sign :: Nat.toDigits 10 leading.natAbs

/-- The text of a double. What is no number is written as null. -/
def floatText (x : Float) : String :=
  if !x.isFinite then "null"
  else
    let bits := x.toBits.toNat
    let decimal := Decimal.shortest (Binary.ofBits bits)
    let digits := Nat.toDigits 10 decimal.digits
    let leading := if decimal.digits = 0 then 0 else decimal.exponent + digits.length - 1
    let magnitude := layout digits leading
    String.ofList (if bits / Nat.pow 2 63 = 1 then '-' :: magnitude else magnitude)

/-- The written form of one character of a text. -/
def escapedChar (c : Char) : List Char :=
  match c with
  | '"' => ['\\', '"']
  | '\\' => ['\\', '\\']
  | '\x08' => ['\\', 'b']
  | '\x0c' => ['\\', 'f']
  | '\n' => ['\\', 'n']
  | '\r' => ['\\', 'r']
  | '\t' => ['\\', 't']
  | _ =>
    if c < ' ' then
      let digits := Nat.toDigits 16 c.toNat
      '\\' :: 'u' :: List.replicate (4 - digits.length) '0' ++ digits
    else [c]

/-- A text between quotes. -/
def quoted (text : String) : String :=
  String.ofList ('"' :: text.toList.flatMap escapedChar ++ ['"'])

mutual

/-- A value on one line. -/
def compact : Json → String
  | .null => "null"
  | .bool true => "true"
  | .bool false => "false"
  | .int n => toString n
  | .float x => floatText x
  | .str s => quoted s
  | .arr items => "[" ++ ",".intercalate (compactItems items) ++ "]"
  | .obj fields => "\x7b" ++ ",".intercalate (compactFields fields) ++ "\x7d"

/-- The items of a list, each on one line. -/
def compactItems : List Json → List String
  | [] => []
  | item :: rest => compact item :: compactItems rest

/-- The fields of an object, each on one line. -/
def compactFields : List (String × Json) → List String
  | [] => []
  | (key, value) :: rest => (quoted key ++ ":" ++ compact value) :: compactFields rest

end

/-- Lines between two marks, indented by two spaces more than the marks; the marks alone when there is
    no line. -/
def block (opening closing indent : String) (lines : List String) : String :=
  if lines.isEmpty then opening ++ closing
  else opening ++ "\n" ++ ",\n".intercalate lines ++ "\n" ++ indent ++ closing

mutual

/-- A value over several lines, of which all but the first start with `indent`. -/
def pretty (indent : String) : Json → String
  | .null => "null"
  | .bool true => "true"
  | .bool false => "false"
  | .int n => toString n
  | .float x => floatText x
  | .str s => quoted s
  | .arr items => block "[" "]" indent (prettyItems (indent ++ "  ") items)
  | .obj fields => block "\x7b" "\x7d" indent (prettyFields (indent ++ "  ") fields)

/-- The items of a list, each starting with `indent`. -/
def prettyItems (indent : String) : List Json → List String
  | [] => []
  | item :: rest => (indent ++ pretty indent item) :: prettyItems indent rest

/-- The fields of an object, each starting with `indent`. -/
def prettyFields (indent : String) : List (String × Json) → List String
  | [] => []
  | (key, value) :: rest =>
    (indent ++ quoted key ++ ": " ++ pretty indent value) :: prettyFields indent rest

end

end ParamFilter.Json
