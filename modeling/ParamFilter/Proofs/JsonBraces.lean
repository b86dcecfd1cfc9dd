import Mathlib
import ParamFilter.Json.Reader
import ParamFilter.Operand

/-!
# Braces in JSON

An opening brace of JSON has a blank, a quote or a closing brace behind it, and never a character of a
name. Only between quotes can a brace look like that of an operator. So `nameless_of_ofText?`: JSON in
whose texts and keys no opening brace is written has no brace that opens a name. `\u007b` does not count
as a brace here, since the matter is the text as it is written.

Every part of the reader has one lemma. It says that the part leaves the property alone, seen from what
is left of the text behind it to the text in front of it.
-/

namespace ParamFilter.Json

open Operand (isWordChar)

/-- Whether an opening brace stands between quotes. A backslash there takes the next character along. -/
def quotesBrace : (quoted : Bool) → List Char → Bool
  | _, [] => false
  | false, c :: rest => quotesBrace (c == '"') rest
  | true, '\\' :: _ :: rest => quotesBrace true rest
  | true, c :: rest => c == '\x7b' || quotesBrace (c != '"') rest

/-- No opening brace of a text has a character of a name right behind it. -/
def Nameless (text : List Char) : Prop :=
  ∀ c behind, '\x7b' :: c :: behind <:+ text → isWordChar c = false

/-- Text, between quotes or outside of them, in which no brace opens a name unless some brace stands
between quotes. -/
def Harmless (quoted : Bool) (text : List Char) : Prop :=
  quotesBrace quoted text = false → Nameless text

theorem nameless_nil : Nameless [] := by
  intro c behind suffix
  cases List.suffix_nil.mp suffix

/-- Another character in front opens nothing. -/
theorem Nameless.cons {rest : List Char} (nameless : Nameless rest) {c : Char} (other : c ≠ '\x7b') :
    Nameless (c :: rest) := by
  intro first behind suffix
  rcases List.suffix_cons_iff.mp suffix with same | later
  · exact absurd (List.cons.inj same).1.symm other
  · exact nameless first behind later

/-- A brace in front opens a name only if a character of a name follows. -/
theorem Nameless.cons_brace {rest : List Char} (nameless : Nameless rest)
    (head : ∀ c, rest.head? = some c → isWordChar c = false) : Nameless ('\x7b' :: rest) := by
  intro first behind suffix
  rcases List.suffix_cons_iff.mp suffix with same | later
  · exact head first (by rw [← (List.cons.inj same).2]; rfl)
  · exact nameless first behind later

namespace Harmless

variable {rest : List Char} {c : Char}

theorem nil {quoted : Bool} : Harmless quoted [] := fun _ => nameless_nil

/-- Outside of quotes any character is harmless that is no quote and no brace. -/
theorem cons (left : Harmless false rest) (quote : c ≠ '"') (brace : c ≠ '\x7b') :
    Harmless false (c :: rest) := by
  intro clean
  rw [quotesBrace, beq_eq_false_iff_ne.mpr quote] at clean
  exact (left clean).cons brace

/-- Outside of quotes a brace is harmless in front of anything but a name. -/
theorem brace (left : Harmless false rest)
    (head : ∀ c, rest.head? = some c → isWordChar c = false) : Harmless false ('\x7b' :: rest) := by
  intro clean
  exact (left (by simpa [quotesBrace] using clean)).cons_brace head

/-- An opening quote. -/
theorem opening (left : Harmless true rest) : Harmless false ('"' :: rest) := by
  intro clean
  exact (left (by simpa [quotesBrace] using clean)).cons (by decide)

/-- A closing quote. -/
theorem closing (left : Harmless false rest) : Harmless true ('"' :: rest) := by
  intro clean
  exact (left (by simpa [quotesBrace] using clean)).cons (by decide)

/-- Between quotes every character is harmless that does not end or escape anything. A brace is, since
it is not there in the first place. -/
theorem quoted (left : Harmless true rest) (quote : c ≠ '"') (backslash : c ≠ '\\') :
    Harmless true (c :: rest) := by
  intro clean
  have stays : (c != '"') = true := bne_iff_ne.mpr quote
  have parts : c ≠ '\x7b' ∧ quotesBrace true rest = false := by
    simpa [quotesBrace, backslash, stays] using clean
  exact (left parts.2).cons parts.1

/-- Between quotes a backslash and the character that it escapes. -/
theorem escaped (left : Harmless true rest) (brace : c ≠ '\x7b') :
    Harmless true ('\\' :: c :: rest) := by
  intro clean
  exact ((left (by simpa [quotesBrace] using clean)).cons brace).cons (by decide)

/-- A word outside of quotes. -/
theorem append (left : Harmless false rest) (word : List Char)
    (plain : word.all (fun c => c != '"' && c != '\x7b') = true) : Harmless false (word ++ rest) := by
  induction word with
  | nil => exact left
  | cons c others ih =>
    obtain ⟨⟨quote, brace⟩, later⟩ : (c ≠ '"' ∧ c ≠ '\x7b') ∧
        others.all (fun c => c != '"' && c != '\x7b') = true := by
      simpa using plain
    exact (ih later).cons quote brace

/-- A run of characters outside of quotes, of a class without the quote and the brace. -/
theorem of_dropWhile {inClass : Char → Bool} (quote : inClass '"' = false)
    (brace : inClass '\x7b' = false) {text : List Char}
    (left : Harmless false (text.dropWhile inClass)) : Harmless false text := by
  induction text with
  | nil => exact nil
  | cons c rest ih =>
    by_cases inside : inClass c = true
    · rw [List.dropWhile_cons_of_pos inside] at left
      refine (ih left).cons ?_ ?_
      · rintro rfl
        cases quote.symm.trans inside
      · rintro rfl
        cases brace.symm.trans inside
    · rwa [List.dropWhile_cons_of_neg inside] at left

/-- Blanks. -/
theorem of_skipBlanks {text : List Char} (left : Harmless false (skipBlanks text)) :
    Harmless false text :=
  of_dropWhile (by decide) (by decide) left

/-- Digits. -/
theorem of_digits {text : List Char} (left : Harmless false (text.dropWhile Char.isDigit)) :
    Harmless false text :=
  of_dropWhile (by decide) (by decide) left

/-- A sign. -/
theorem of_splitSign {text : List Char} (left : Harmless false (Text.splitSign text).2) :
    Harmless false text := by
  unfold Text.splitSign at left
  split at left
  · exact left.cons (by decide) (by decide)
  · exact left.cons (by decide) (by decide)
  · exact left

/-- Between quotes, the four digits of an escaped unit. -/
theorem of_unit {a b c d : Char} {unit : Nat} (read : unit? a b c d = some unit)
    (left : Harmless true rest) : Harmless true (a :: b :: c :: d :: rest) := by
  have plain : ∀ {x : Char} {n : Nat}, Text.hexDigit? x = some n → x ≠ '"' ∧ x ≠ '\\' := by
    intro x n digit
    constructor <;> rintro rfl <;> cases digit
  simp only [unit?, Option.bind_eq_bind, Option.bind_eq_some_iff] at read
  obtain ⟨_, digitA, _, digitB, _, digitC, _, digitD, _⟩ := read
  exact ((((left.quoted (plain digitD).1 (plain digitD).2).quoted (plain digitC).1
    (plain digitC).2).quoted (plain digitB).1 (plain digitB).2).quoted (plain digitA).1
    (plain digitA).2)

/-- Between quotes, an escape behind its backslash. -/
theorem of_escape {text : List Char} {taken : Char} {used : Nat}
    (read : escape? text = some (taken, used)) (left : Harmless true (text.drop used)) :
    Harmless true ('\\' :: text) := by
  unfold escape? at read
  split at read
  case h_9 a b c d rest =>
    split at read
    · cases read
    · next unit high =>
      split at read
      · obtain ⟨-, rfl⟩ := Prod.mk.inj (Option.some.inj read)
        exact (left.of_unit high).escaped (by decide)
      · split at read
        · cases read
        · split at read
          · next a' b' c' d' behind =>
            split at read
            · cases read
            · next low second =>
              split at read
              · obtain ⟨-, rfl⟩ := Prod.mk.inj (Option.some.inj read)
                exact (((left.of_unit second).escaped (by decide)).of_unit high).escaped (by decide)
              · cases read
          · cases read
  case h_10 => cases read
  all_goals
    obtain ⟨-, rfl⟩ := Prod.mk.inj (Option.some.inj read)
    exact left.escaped (by decide)

/-- Between quotes, a text up to its closing quote.

Induct along the reader, which stops at a quote, takes an escape or takes one character. -/
theorem of_textBody {text body behind : List Char} (read : textBody? text = some (body, behind))
    (left : Harmless false behind) : Harmless true text := by
  induction text using textBody?.induct generalizing body with
  | case1 =>
    rw [textBody?] at read
    cases read
  | case2 rest =>
    rw [textBody?, if_pos rfl] at read
    obtain ⟨-, rfl⟩ := Prod.mk.inj (Option.some.inj read)
    exact left.closing
  | case3 rest malformed quote =>
    rw [textBody?, if_neg quote, if_pos rfl, malformed] at read
    cases read
  | case4 rest taken used escape quote ih =>
    rw [textBody?, if_neg quote, if_pos rfl, escape] at read
    obtain ⟨⟨inner, after⟩, inside, same⟩ := Option.map_eq_some_iff.mp read
    obtain ⟨-, rfl⟩ := Prod.mk.inj same
    exact (ih inside).of_escape escape
  | case5 c rest quote backslash control =>
    rw [textBody?, if_neg quote, if_neg backslash, if_pos control] at read
    cases read
  | case6 c rest quote backslash printed ih =>
    rw [textBody?, if_neg quote, if_neg backslash, if_neg printed] at read
    obtain ⟨⟨inner, after⟩, inside, same⟩ := Option.map_eq_some_iff.mp read
    obtain ⟨-, rfl⟩ := Prod.mk.inj same
    exact (ih inside).quoted quote backslash

end Harmless

/-- A reader that leaves harmlessness alone, from what it leaves to what it was given. -/
def Careful {α : Type} (reader : List Char → Option (α × List Char)) : Prop :=
  ∀ {text value rest}, reader text = some (value, rest) → Harmless false rest → Harmless false text

theorem careful_fraction? : Careful fraction? := by
  intro text value rest read left
  unfold fraction? at read
  split at read
  · next digits =>
    dsimp only at read
    split at read
    · cases read
    · obtain ⟨-, rfl⟩ := Prod.mk.inj (Option.some.inj read)
      exact left.of_digits.cons (by decide) (by decide)
  · obtain ⟨-, rfl⟩ := Prod.mk.inj (Option.some.inj read)
    exact left

theorem careful_power? : Careful power? := by
  intro text value rest read left
  unfold power? at read
  split at read
  · exact .nil
  · next c text =>
    split at read
    · next letter =>
      split at read
      next negative digits signed =>
      dsimp only at read
      split at read
      · cases read
      · obtain ⟨-, rfl⟩ := Prod.mk.inj (Option.some.inj read)
        have behindSign : Harmless false (Text.splitSign text).2 := by
          rw [signed]
          exact left.of_digits
        rcases letter with rfl | rfl
        · exact behindSign.of_splitSign.cons (by decide) (by decide)
        · exact behindSign.of_splitSign.cons (by decide) (by decide)
    · obtain ⟨-, rfl⟩ := Prod.mk.inj (Option.some.inj read)
      exact left

theorem careful_number? (negative : Bool) : Careful (number? negative) := by
  intro text value rest read left
  simp only [number?, numberText?, Option.bind_eq_bind] at read
  obtain ⟨⟨number, behind⟩, cut, read⟩ := Option.bind_eq_some_iff.mp read
  obtain ⟨_, _, same⟩ := Option.bind_eq_some_iff.mp read
  obtain ⟨-, rfl⟩ := Prod.mk.inj (Option.some.inj same)
  split at cut
  · cases cut
  · obtain ⟨⟨fraction, afterFraction⟩, fractionRead, cut⟩ := Option.bind_eq_some_iff.mp cut
    obtain ⟨⟨power, afterPower⟩, powerRead, same⟩ := Option.bind_eq_some_iff.mp cut
    obtain ⟨-, rfl⟩ := Prod.mk.inj (Option.some.inj same)
    exact (careful_fraction? fractionRead (careful_power? powerRead left)).of_digits

section Items

variable {α : Type} {item : List Char → Option (α × List Char)} {close : Char}

/-- What follows the first item, when items are read carefully.

Induct over the items. -/
theorem careful_moreItems? (careful : Careful item) (quote : close ≠ '"') (brace : close ≠ '\x7b')
    (steps : Nat) : Careful (moreItems? item close steps) := by
  induction steps with
  | zero =>
    intro text value rest read
    cases read
  | succ steps ih =>
    intro text value rest read left
    apply Harmless.of_skipBlanks
    rw [moreItems?] at read
    split at read
    · cases read
    · next c after start =>
      rw [start]
      split at read
      · next closes =>
        obtain ⟨-, rfl⟩ := Prod.mk.inj (Option.some.inj read)
        exact left.cons (closes ▸ quote) (closes ▸ brace)
      · split at read
        · next comma =>
          obtain ⟨⟨first, afterFirst⟩, firstRead, read⟩ := Option.bind_eq_some_iff.mp read
          obtain ⟨⟨others, afterOthers⟩, othersRead, same⟩ := Option.bind_eq_some_iff.mp read
          obtain ⟨-, rfl⟩ := Prod.mk.inj (Option.some.inj same)
          have behind : Harmless false after :=
            (careful firstRead (ih othersRead left)).of_skipBlanks
          exact behind.cons (comma ▸ by decide) (comma ▸ by decide)
        · cases read

theorem careful_items? (careful : Careful item) (quote : close ≠ '"') (brace : close ≠ '\x7b') :
    Careful (items? item close) := by
  intro text value rest read left
  apply Harmless.of_skipBlanks
  unfold items? at read
  split at read
  · cases read
  · next c after start =>
    rw [start]
    split at read
    · next closes =>
      obtain ⟨-, rfl⟩ := Prod.mk.inj (Option.some.inj read)
      exact left.cons (closes ▸ quote) (closes ▸ brace)
    · obtain ⟨⟨first, afterFirst⟩, firstRead, read⟩ := Option.bind_eq_some_iff.mp read
      obtain ⟨⟨others, afterOthers⟩, othersRead, same⟩ := Option.bind_eq_some_iff.mp read
      obtain ⟨-, rfl⟩ := Prod.mk.inj (Option.some.inj same)
      exact careful firstRead (careful_moreItems? careful quote brace _ othersRead left)

end Items

section Fields

variable {value : List Char → Option (Json × List Char)}

theorem careful_field? (careful : Careful value) : Careful (field? value) := by
  intro text field rest read left
  unfold field? at read
  split at read
  · next text =>
    obtain ⟨⟨key, afterKey⟩, keyRead, read⟩ := Option.bind_eq_some_iff.mp read
    dsimp only at read
    split at read
    · next after colon =>
      obtain ⟨⟨held, afterValue⟩, valueRead, same⟩ := Option.bind_eq_some_iff.mp read
      obtain ⟨-, rfl⟩ := Prod.mk.inj (Option.some.inj same)
      have behindColon : Harmless false after := (careful valueRead left).of_skipBlanks
      have behindKey : Harmless false afterKey := by
        apply Harmless.of_skipBlanks
        rw [colon]
        exact behindColon.cons (by decide) (by decide)
      exact (behindKey.of_textBody keyRead).opening
    · cases read
  · cases read

/-- Behind the opening brace of an object stands no character of a name. A key comes first, in quotes. -/
theorem not_isWordChar_of_fields {text rest : List Char} {fields : List (String × Json)}
    (read : items? (field? value) '\x7d' text = some (fields, rest)) {c : Char}
    (head : text.head? = some c) : isWordChar c = false := by
  obtain ⟨behind, rfl⟩ : ∃ behind, text = c :: behind := List.head?_eq_some_iff.mp head
  by_contra word
  have noBlank : isBlank c = false := by
    simp only [isBlank, Bool.or_eq_false_iff, beq_eq_false_iff_ne]
    refine ⟨⟨⟨?_, ?_⟩, ?_⟩, ?_⟩ <;> rintro rfl <;> exact word (by decide)
  have start : skipBlanks (c :: behind) = c :: behind := by simp [skipBlanks, noBlank]
  unfold items? at read
  rw [start] at read
  dsimp only at read
  split at read
  · next closes => exact word (closes ▸ by decide)
  · obtain ⟨⟨first, afterFirst⟩, firstRead, _⟩ := Option.bind_eq_some_iff.mp read
    unfold field? at firstRead
    split at firstRead
    · next same => exact word ((List.cons.inj same).1 ▸ by decide)
    · cases firstRead

end Fields

/-- Behind the opening brace of an object that is read stands no character of a name. -/
theorem not_isWordChar_of_value? {depth : Nat} {text rest : List Char} {value : Json}
    (read : value? depth ('\x7b' :: text) = some (value, rest)) {c : Char}
    (head : text.head? = some c) : isWordChar c = false := by
  cases depth with
  | zero =>
    rw [value?] at read
    cases read
  | succ depth =>
    rw [value?] at read
    obtain ⟨⟨fields, behind⟩, fieldsRead, _⟩ := Option.map_eq_some_iff.mp read
    exact not_isWordChar_of_fields fieldsRead head

/-- A value is read carefully if the values in it are. -/
theorem careful_value?_of_inner {depth : Nat}
    (inner : ∀ shallower, depth = shallower + 1 → Careful (value? shallower)) :
    Careful (value? depth) := by
  intro text value rest read left
  unfold value? at read
  split at read
  · obtain ⟨-, rfl⟩ := Prod.mk.inj (Option.some.inj read)
    exact left.append ['n', 'u', 'l', 'l'] rfl
  · obtain ⟨-, rfl⟩ := Prod.mk.inj (Option.some.inj read)
    exact left.append ['t', 'r', 'u', 'e'] rfl
  · obtain ⟨-, rfl⟩ := Prod.mk.inj (Option.some.inj read)
    exact left.append ['f', 'a', 'l', 's', 'e'] rfl
  · obtain ⟨⟨body, behind⟩, bodyRead, same⟩ := Option.map_eq_some_iff.mp read
    obtain ⟨-, rfl⟩ := Prod.mk.inj same
    exact (left.of_textBody bodyRead).opening
  · exact (careful_number? true read left).cons (by decide) (by decide)
  · split at read
    · cases read
    · next shallower =>
      obtain ⟨⟨items, behind⟩, itemsRead, same⟩ := Option.map_eq_some_iff.mp read
      obtain ⟨-, rfl⟩ := Prod.mk.inj same
      have careful : Careful (items? (value? shallower) ']') :=
        careful_items? (inner shallower rfl) (by decide) (by decide)
      exact (careful itemsRead left).cons (by decide) (by decide)
  · split at read
    · cases read
    · next shallower =>
      obtain ⟨⟨fields, behind⟩, fieldsRead, same⟩ := Option.map_eq_some_iff.mp read
      obtain ⟨-, rfl⟩ := Prod.mk.inj same
      have careful : Careful (items? (field? (value? shallower)) '\x7d') :=
        careful_items? (careful_field? (inner shallower rfl)) (by decide) (by decide)
      exact (careful fieldsRead left).brace fun c head => not_isWordChar_of_fields fieldsRead head
  · exact careful_number? false read left

/-- Values are read carefully, however deep they nest. -/
theorem careful_value? (depth : Nat) : Careful (value? depth) := by
  induction depth with
  | zero => exact careful_value?_of_inner (by rintro shallower ⟨⟩)
  | succ depth ih =>
    apply careful_value?_of_inner
    rintro shallower same
    obtain rfl := Nat.succ.inj same
    exact ih

/-- JSON without a brace in its texts and keys has no brace that opens a name. -/
theorem nameless_of_ofText? {text : String} {value : Json} (read : ofText? text = some value)
    (clean : quotesBrace false text.toList = false) : Nameless text.toList := by
  obtain ⟨⟨first, behind⟩, firstRead, ending⟩ := Option.bind_eq_some_iff.mp read
  have blanks : skipBlanks behind = [] := by
    by_contra filled
    simp [filled] at ending
  have left : Harmless false behind := by
    apply Harmless.of_skipBlanks
    rw [blanks]
    exact .nil
  exact (careful_value? maxDepth firstRead left).of_skipBlanks clean

/-- No JSON starts with a brace that opens a name. -/
theorem ofText?_of_name {c : Char} (word : isWordChar c = true) (behind : List Char) :
    ofText? (String.ofList ('\x7b' :: c :: behind)) = none := by
  cases read : ofText? (String.ofList ('\x7b' :: c :: behind)) with
  | none => rfl
  | some value =>
    obtain ⟨⟨first, rest⟩, firstRead, _⟩ := Option.bind_eq_some_iff.mp read
    have start : skipBlanks (String.ofList ('\x7b' :: c :: behind)).toList = '\x7b' :: c :: behind := by
      simp [skipBlanks, isBlank]
    rw [start] at firstRead
    have other := not_isWordChar_of_value? firstRead rfl
    cases word.symm.trans other

end ParamFilter.Json
