import Mathlib
import ParamFilter.Proofs.ParamRuns

/-!
# Form text

A list of pairs can be written as a query string in many ways. A byte may be escaped with digits of either
case, a space may be a plus sign as well, empty segments may stand anywhere, and a question mark may come
first. Whatever the spelling, the pairs are read back, in their order and with all repetitions, and the
parameters hold each key once, where it came first, over its own values.

The spelling is a relation between bytes and characters, so no choice of an encoder is preferred. Texts
that are not written in this way, with a percent sign that starts no escape or with a segment that has no
equals sign, are read too, but are not spoken of here.
-/

namespace ParamFilter.Params

/-- The characters that have a meaning of their own in a query string. -/
def isMark (c : Char) : Bool := c == '&' || c == '=' || c == '+' || c == '%' || c == '?'

/-- The upper-case hexadecimal digit of a number below sixteen. -/
def hexDigit (n : Nat) : Char := (Nat.digitChar n).toUpper

/-- The hexadecimal digits of a number below sixteen, which differ in their case. -/
def IsHexDigit (n : Nat) (digit : Char) : Prop := digit = hexDigit n ∨ digit = Nat.digitChar n

/-- How bytes may be written. Letters, digits and the marks `*`, `-`, `.` and `_` are among the characters
that stand for themselves, and every byte may be escaped. -/
inductive Spells : List Nat → List Char → Prop
  | nil : Spells [] []
  | plain {c : Char} {bytes : List Nat} {written : List Char} (free : isMark c = false)
      (behind : Spells bytes written) : Spells (Text.Utf8.encodeChar c ++ bytes) (c :: written)
  | space {bytes : List Nat} {written : List Char} (behind : Spells bytes written) :
      Spells (0x20 :: bytes) ('+' :: written)
  | escaped {byte : Nat} {high low : Char} {bytes : List Nat} {written : List Char} (small : byte < 256)
      (first : IsHexDigit (byte / 16) high) (second : IsHexDigit (byte % 16) low)
      (behind : Spells bytes written) : Spells (byte :: bytes) ('%' :: high :: low :: written)

/-- How a key or a value may be written: its bytes are. -/
def SpellsText (text : String) (written : List Char) : Prop :=
  Spells (Text.Utf8.encode text.toList) written

/-- How a pair may be written: its key and its value around an equals sign. -/
def SpellsPair (pair : String × String) (segment : List Char) : Prop :=
  ∃ key value, SpellsText pair.1 key ∧ SpellsText pair.2 value ∧ segment = key ++ '=' :: value

/-- How pairs may be written as segments: one for each pair in order, among any number of empty ones. -/
inductive SpellsSegments : List (String × String) → List (List Char) → Prop
  | nil : SpellsSegments [] []
  | empty {pairs : List (String × String)} {segments : List (List Char)}
      (behind : SpellsSegments pairs segments) : SpellsSegments pairs ([] :: segments)
  | pair {pair : String × String} {segment : List Char} {pairs : List (String × String)}
      {segments : List (List Char)} (first : SpellsPair pair segment)
      (behind : SpellsSegments pairs segments) : SpellsSegments (pair :: pairs) (segment :: segments)

/-- How pairs may be written as a query string: as segments between ampersands, with or without a question
mark in front of all. -/
def SpellsQuery (pairs : List (String × String)) (query : String) : Prop :=
  ∃ segments, SpellsSegments pairs segments ∧
    (query.toList = ['&'].intercalate segments ∨ query.toList = '?' :: ['&'].intercalate segments)

/-- A digit of either case reads back as its number. -/
theorem hexDigit?_of_isHexDigit {n : Nat} {digit : Char} (small : n < 16) (spelled : IsHexDigit n digit) :
    Text.hexDigit? digit = some n := by
  have upper : ∀ n < 16, Text.hexDigit? (hexDigit n) = some n := by decide
  have lower : ∀ n < 16, Text.hexDigit? (Nat.digitChar n) = some n := by decide
  rcases spelled with rfl | rfl
  · exact upper n small
  · exact lower n small

/-- A digit is none of the marks. -/
theorem isMark_of_isHexDigit {n : Nat} {digit : Char} (small : n < 16) (spelled : IsHexDigit n digit) :
    isMark digit = false := by
  have upper : ∀ n < 16, isMark (hexDigit n) = false := by decide
  have lower : ∀ n < 16, isMark (Nat.digitChar n) = false := by decide
  rcases spelled with rfl | rfl
  · exact upper n small
  · exact lower n small

/-- A character that is no mark stands for its own bytes. -/
theorem componentBytes_cons {c : Char} (free : isMark c = false) (rest : List Char) :
    componentBytes (c :: rest) = Text.Utf8.encodeChar c ++ componentBytes rest := by
  rw [componentBytes.eq_def]
  split
  · next same => cases same
  · next same =>
    obtain ⟨rfl, _⟩ := List.cons.inj same
    exact absurd free (by decide)
  · next same =>
    obtain ⟨rfl, _⟩ := List.cons.inj same
    exact absurd free (by decide)
  · next same =>
    obtain ⟨rfl, rfl⟩ := List.cons.inj same
    rfl

/-- An escape stands for its byte. -/
theorem componentBytes_escaped {byte : Nat} {high low : Char} (small : byte < 256)
    (first : IsHexDigit (byte / 16) high) (second : IsHexDigit (byte % 16) low) (rest : List Char) :
    componentBytes ('%' :: high :: low :: rest) = byte :: componentBytes rest := by
  have value : percentByte? high low = some byte := by
    rw [percentByte?, hexDigit?_of_isHexDigit (by omega) first, hexDigit?_of_isHexDigit (by omega) second]
    exact congrArg some (Nat.div_add_mod byte 16)
  rw [componentBytes, value]

namespace Spells

variable {bytes others : List Nat} {written rest : List Char}

/-- Bytes that are written read back. -/
theorem componentBytes_eq (spelled : Spells bytes written) : componentBytes written = bytes := by
  induction spelled with
  | nil => rfl
  | plain free _ ih => rw [componentBytes_cons free, ih]
  | space _ ih => rw [componentBytes, ih]
  | escaped small first second _ ih => rw [componentBytes_escaped small first second, ih]

/-- Bytes may be written one after the other. -/
theorem append (spelled : Spells bytes written) (after : Spells others rest) :
    Spells (bytes ++ others) (written ++ rest) := by
  induction spelled with
  | nil => exact after
  | plain free _ ih =>
    rw [List.append_assoc]
    exact .plain free ih
  | space _ ih => exact .space ih
  | escaped small first second _ ih => exact .escaped small first second ih

/-- Of the marks only those of a space and of an escape occur in what is written. -/
theorem eq_of_mem (spelled : Spells bytes written) {c : Char} (member : c ∈ written)
    (mark : isMark c = true) : c = '+' ∨ c = '%' := by
  induction spelled with
  | nil => cases member
  | plain free _ ih =>
    rcases List.mem_cons.mp member with rfl | behind
    · exact absurd mark (by simp [free])
    · exact ih behind
  | space _ ih =>
    rcases List.mem_cons.mp member with same | behind
    · exact .inl same
    · exact ih behind
  | @escaped byte _ _ _ _ small first second _ ih =>
    rcases List.mem_cons.mp member with same | digits
    · exact .inr same
    rcases List.mem_cons.mp digits with rfl | last
    · exact absurd mark (by simp [isMark_of_isHexDigit (by omega : byte / 16 < 16) first])
    rcases List.mem_cons.mp last with rfl | behind
    · exact absurd mark (by simp [isMark_of_isHexDigit (by omega : byte % 16 < 16) second])
    · exact ih behind

end Spells

/-- What is written for a key or a value reads back as it. -/
theorem SpellsText.component_eq {text : String} {written : List Char} (spelled : SpellsText text written) :
    component written = text := by
  rw [component, Spells.componentBytes_eq spelled, Text.Utf8.decode_encode, String.ofList_toList]

/-- What is written for a text has nothing that would end it. -/
theorem SpellsText.not_mem {text : String} {written : List Char} (spelled : SpellsText text written)
    {c : Char} (ends : c = '&' ∨ c = '=' ∨ c = '?') : c ∉ written := by
  intro member
  rcases ends with rfl | rfl | rfl
  all_goals exact absurd (Spells.eq_of_mem spelled member (by decide)) (by decide)

section Pairs

variable {pair : String × String} {segment : List Char}

/-- What is written for a pair reads back as it: its first equals sign is the one between the two. -/
theorem SpellsPair.segmentPair_eq (spelled : SpellsPair pair segment) : segmentPair segment = pair := by
  obtain ⟨key, value, spelledKey, spelledValue, rfl⟩ := spelled
  have before : ∀ c ∈ key, (c != '=') = true := by
    intro c member
    rw [bne_iff_ne]
    rintro rfl
    exact spelledKey.not_mem (.inr (.inl rfl)) member
  rw [segmentPair, List.takeWhile_append_of_pos before, List.dropWhile_append_of_pos before]
  simp [spelledKey.component_eq, spelledValue.component_eq]

/-- What is written for a pair has neither an ampersand nor a question mark. -/
theorem SpellsPair.not_mem (spelled : SpellsPair pair segment) {c : Char} (ends : c = '&' ∨ c = '?') :
    c ∉ segment := by
  obtain ⟨key, value, spelledKey, spelledValue, rfl⟩ := spelled
  have marks : c = '&' ∨ c = '=' ∨ c = '?' := ends.imp_right .inr
  have noEquals : c ≠ '=' := by rcases ends with rfl | rfl <;> decide
  simp [spelledKey.not_mem marks, spelledValue.not_mem marks, noEquals]

/-- What is written for a pair is never empty. -/
theorem SpellsPair.ne_nil (spelled : SpellsPair pair segment) : segment ≠ [] := by
  obtain ⟨key, value, _, _, rfl⟩ := spelled
  simp

end Pairs

namespace SpellsSegments

variable {written : List (String × String)} {segments : List (List Char)}

/-- The segments that are not empty read back as the pairs. -/
theorem map_segmentPair_eq (spelled : SpellsSegments written segments) :
    (segments.filter (!·.isEmpty)).map segmentPair = written := by
  induction spelled with
  | nil => rfl
  | empty _ ih => exact ih
  | pair first _ ih =>
    rw [List.filter_cons_of_pos (by simp [first.ne_nil]), List.map_cons, first.segmentPair_eq, ih]

/-- No segment has an ampersand or a question mark. -/
theorem not_mem (spelled : SpellsSegments written segments) {c : Char} (ends : c = '&' ∨ c = '?') :
    ∀ segment ∈ segments, c ∉ segment := by
  induction spelled with
  | nil => exact List.forall_mem_nil _
  | empty _ ih => exact List.forall_mem_cons.mpr ⟨List.not_mem_nil, ih⟩
  | pair first _ ih => exact List.forall_mem_cons.mpr ⟨first.not_mem ends, ih⟩

/-- Cutting at the ampersands gives the pairs. Without any segment there is one that is empty. -/
theorem queryPairs_eq (spelled : SpellsSegments written segments) :
    queryPairs (['&'].intercalate segments) = written := by
  cases segments with
  | nil =>
    cases spelled
    rfl
  | cons segment others =>
    rw [queryPairs, List.splitOn_intercalate '&' (spelled.not_mem (.inl rfl)) (List.cons_ne_nil _ _),
      spelled.map_segmentPair_eq]

end SpellsSegments

/-- What occurs between marks is the mark or occurs in a segment. -/
theorem eq_or_mem_of_mem_intercalate {mark c : Char} {segments : List (List Char)}
    (member : c ∈ [mark].intercalate segments) :
    c = mark ∨ ∃ segment ∈ segments, c ∈ segment := by
  induction segments with
  | nil => simp at member
  | cons segment others ih =>
    cases others with
    | nil => exact .inr ⟨segment, List.mem_cons_self, by simpa using member⟩
    | cons next more =>
      rw [List.intercalate_cons_cons, List.append_assoc, List.singleton_append] at member
      rcases List.mem_append.mp member with first | behind
      · exact .inr ⟨segment, List.mem_cons_self, first⟩
      rcases List.mem_cons.mp behind with same | later
      · exact .inl same
      · exact (ih later).imp_right fun ⟨other, held, inside⟩ =>
          ⟨other, List.mem_cons_of_mem _ held, inside⟩

namespace SpellsQuery

variable {written : List (String × String)} {query : String}

/-- A query string reads back as its pairs, whatever its spelling. Only a question mark that is no part of
the segments can come first. -/
theorem pairs_eq (spelled : SpellsQuery written query) : pairs query = written := by
  obtain ⟨segments, spelledSegments, plain | marked⟩ := spelled
  · have noMark : '?' ∉ query.toList := by
      rw [plain]
      intro member
      rcases eq_or_mem_of_mem_intercalate member with same | ⟨segment, held, inside⟩
      · exact absurd same (by decide)
      · exact spelledSegments.not_mem (.inr rfl) segment held inside
    unfold pairs
    split
    · next same => exact absurd (same ▸ List.mem_cons_self) noMark
    · rw [plain, spelledSegments.queryPairs_eq]
  · rw [pairs, marked]
    exact spelledSegments.queryPairs_eq

end SpellsQuery

/-- Pairs that are added one after the other are a run of additions. -/
theorem collect_eq_run (written : List (String × String)) :
    collect written = run (written.map fun pair => .append pair.1 pair.2) := by
  rw [run, List.foldl_map]
  rfl

/-- Collected pairs hold each key once, where it came first, over its own texts: one alone, or a list.

The keys are those of a run of additions. A key that came at all has a text, so it is not left
without a value. -/
theorem entries_collect (written : List (String × String)) :
    (collect written).entries = (written.map Prod.fst).eraseDups.map fun key =>
      (key, Param.ofTexts (textsUnder key written)) := by
  have keys : (collect written).keys = (written.map Prod.fst).eraseDups := by
    rw [collect_eq_run, keys_run, List.map_map]
    rfl
  rw [← keys]
  apply entries_eq_map
  intro key member
  have filled : textsUnder key written ≠ [] := by
    rw [keys, List.mem_eraseDups] at member
    obtain ⟨pair, held, rfl⟩ := List.mem_map.mp member
    intro empty
    have text : pair.2 ∈ textsUnder pair.1 written :=
      List.mem_map_of_mem (List.mem_filter.mpr ⟨held, by simp⟩)
    rw [empty] at text
    cases text
  rw [get?_collect, Param.foldl_gather, Param.extended, if_neg filled]

/-- A query string gives back the pairs that it spells, and its parameters lose none of them.

Each key stands once, where it came first. It holds its text alone when it came once, and otherwise all of
its texts in their order, whatever stands between them. -/
theorem ofQuery_of_spelled {written : List (String × String)} {query : String}
    (spelled : SpellsQuery written query) :
    pairs query = written ∧
      (ofQuery query).entries = (written.map Prod.fst).eraseDups.map fun key =>
        (key, match textsUnder key written with
          | [text] => .single text
          | texts => .multi texts) := by
  refine ⟨spelled.pairs_eq, ?_⟩
  rw [ofQuery_eq_collect, spelled.pairs_eq]
  exact entries_collect written

/-- A key that comes twice, with an empty value at last, and an empty key between whose value is a question
mark. Empty segments stand in front and between, and the digits of one character are in both cases. -/
theorem tags_around_an_empty_key :
    let written := [("tag", "a é"), ("", "?"), ("tag", "")]
    SpellsQuery written "?&tag=a+%C3%a9&&=%3F&tag=" ∧
      (ofQuery "?&tag=a+%C3%a9&&=%3F&tag=").entries =
        [("tag", .multi ["a é", ""]), ("", .single "?")] := by
  intro written
  have tag : SpellsText "tag" ['t', 'a', 'g'] := .plain rfl (.plain rfl (.plain rfl .nil))
  have accented : SpellsText "a é" "a+%C3%a9".toList :=
    .plain rfl (.space (.escaped (by decide) (.inl rfl) (.inl rfl)
      (.escaped (by decide) (.inr rfl) (.inl rfl) .nil)))
  have mark : SpellsText "?" ['%', '3', 'F'] := .escaped (by decide) (.inl rfl) (.inl rfl) .nil
  have segments : SpellsSegments written
      [[], "tag=a+%C3%a9".toList, [], "=%3F".toList, "tag=".toList] :=
    .empty (.pair ⟨_, _, tag, accented, rfl⟩ (.empty (.pair ⟨[], _, .nil, mark, rfl⟩
      (.pair ⟨_, [], tag, .nil, rfl⟩ .nil))))
  have spelled : SpellsQuery written "?&tag=a+%C3%a9&&=%3F&tag=" := ⟨_, segments, .inr (by decide)⟩
  exact ⟨spelled, (ofQuery_of_spelled spelled).2⟩

end ParamFilter.Params
