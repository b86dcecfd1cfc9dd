/-!
# Blanks

Which characters count as blank around a value and between the terms of a directive, and the three
cuts made along them. The set is the white space of the wide character set: twenty-five characters,
of which six are ASCII.
-/

namespace ParamFilter.Text

/-- The white space of the wide character set: the tabulation to carriage return run, the space, the
    next-line control, the no-break space and the separators of lines, paragraphs and words. -/
def isBlank (c : Char) : Bool :=
  ('\t' ≤ c && c ≤ '\r') || c == ' ' || c == '\x85' || c == '\xa0' || c == '\u1680' ||
    ('\u2000' ≤ c && c ≤ '\u200a') || c == '\u2028' || c == '\u2029' || c == '\u202f' ||
    c == '\u205f' || c == '\u3000'

/-- Drops the blanks in front. -/
def trimStart (text : List Char) : List Char := text.dropWhile isBlank

/-- Drops the blanks at the end. -/
def trimEnd (text : List Char) : List Char := (text.reverse.dropWhile isBlank).reverse

/-- Drops the blanks on both sides and keeps those between. -/
def trim (text : List Char) : List Char := trimEnd (trimStart text)

/-- The runs of characters that are not blank, in order. No word is empty. -/
def words (text : List Char) : List (List Char) :=
  (text.splitOnP isBlank).filter (!·.isEmpty)

example : trim " \u00a0a b\n".toList = "a b".toList := by decide

end ParamFilter.Text
