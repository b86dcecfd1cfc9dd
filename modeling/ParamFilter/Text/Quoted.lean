import ParamFilter.Text.Shown

/-!
# Quoted text

How a message shows a text whose contents nobody has checked: in double quotes, with the quote and the
backslash escaped, the four common controls by their letters, and every other character that would
not show up by its code point.
-/

namespace ParamFilter.Text

/-- The written form of one character. -/
def quotedChar (c : Char) : List Char :=
  match c with
  | '\x00' => ['\\', '0']
  | '\t' => ['\\', 't']
  | '\n' => ['\\', 'n']
  | '\r' => ['\\', 'r']
  | '"' => ['\\', '"']
  | '\\' => ['\\', '\\']
  | _ =>
    if isShown c then [c]
    else ['\\', 'u', '\x7b'] ++ Nat.toDigits 16 c.toNat ++ ['\x7d']

/-- A text between double quotes. -/
def quoted (text : String) : String :=
  String.ofList ('"' :: text.toList.flatMap quotedChar ++ ['"'])

/-- An optional text: the word for absence, or the quoted text as the contents of the word for
    presence. -/
def quotedOption : Option String → String
  | none => "None"
  | some text => "Some(" ++ quoted text ++ ")"

end ParamFilter.Text
