import ParamFilter.Params
import ParamFilter.Text.Integer
import ParamFilter.Text.Utf8

/-!
# Query strings

The form in which parameters arrive: segments between ampersands, each a key and a value around its
first equals sign. Inside them a plus sign is a space, a percent sign with two hexadecimal digits is a
byte, and everything else stands for itself; the bytes together are read as UTF-8 text, so decoding
never fails.
-/

namespace ParamFilter.Params

/-- The byte that a percent sign in front of two characters stands for, if both are digits. -/
def percentByte? (high low : Char) : Option Nat :=
  match Text.hexDigit? high, Text.hexDigit? low with
  | some h, some l => some (16 * h + l)
  | _, _ => none

/-- The bytes that a key or a value stands for. A percent sign without two digits behind it stands for
    itself. -/
def componentBytes : List Char → List Nat
  | [] => []
  | '+' :: rest => 0x20 :: componentBytes rest
  | '%' :: high :: low :: rest =>
    match percentByte? high low with
    | some byte => byte :: componentBytes rest
    | none => '%'.toNat :: componentBytes (high :: low :: rest)
  | c :: rest => Text.Utf8.encodeChar c ++ componentBytes rest

/-- The text that a key or a value stands for. -/
def component (written : List Char) : String :=
  String.ofList (Text.Utf8.decode (componentBytes written))

/-- The key and the value of a segment: what is before its first equals sign, and what is behind. A
    segment without one is a key with an empty value. -/
def segmentPair (segment : List Char) : String × String :=
  (component (segment.takeWhile (· != '=')), component ((segment.dropWhile (· != '=')).drop 1))

/-- The pairs of a query string in order. Empty segments count for nothing. -/
def queryPairs (query : List Char) : List (String × String) :=
  ((query.splitOn '&').filter (!·.isEmpty)).map segmentPair

/-- The parameters of a query string. One leading question mark is not part of it, and repeated keys
    collect their values. -/
def ofQuery (query : String) : Params :=
  collect <| queryPairs <| match query.toList with
    | '?' :: rest => rest
    | chars => chars

end ParamFilter.Params
