import Mathlib
import ParamFilter.Proofs.FormText

/-!
# Query strings as they are written

A client writes its pairs with every character escaped that is not a letter, a digit or one of four
marks: the bytes of the character, each as a percent sign and two hexadecimal digits. This is one of the
ways to spell the pairs, so reading the query gives them back, in their order and with repeated keys, and a
statement about pairs is one about query strings as well. Other ways to spell them are a matter of form
text in general.
-/

namespace ParamFilter.Params

/-- The characters that stand for themselves. -/
def isUnreserved (c : Char) : Bool := c.isAlphanum || c == '-' || c == '.' || c == '_' || c == '~'

/-- A byte as a percent sign and two hexadecimal digits. -/
def escape (byte : Nat) : List Char := ['%', hexDigit (byte / 16), hexDigit (byte % 16)]

/-- A character as it is written. -/
def spellChar (c : Char) : List Char :=
  if isUnreserved c then [c] else (Text.Utf8.encodeChar c).flatMap escape

/-- A key or a value as it is written. -/
def spell (text : String) : List Char := text.toList.flatMap spellChar

/-- A pair as it is written. -/
def spellPair (pair : String × String) : List Char := spell pair.1 ++ '=' :: spell pair.2

/-- The query string of some pairs. -/
def spellQuery (pairs : List (String × String)) : String :=
  String.ofList (['&'].intercalate (pairs.map spellPair))

/-- No mark is written as it stands. -/
theorem isMark_of_isUnreserved {c : Char} (unreserved : isUnreserved c = true) : isMark c = false := by
  rw [Bool.eq_false_iff]
  intro mark
  simp only [isMark, Bool.or_eq_true, beq_iff_eq] at mark
  rcases mark with (((rfl | rfl) | rfl) | rfl) | rfl
  all_goals exact absurd unreserved (by decide)

/-- Escaped bytes spell the bytes. -/
theorem spells_flatMap_escape {bytes : List Nat} (small : ∀ byte ∈ bytes, byte < 256) :
    Spells bytes (bytes.flatMap escape) := by
  induction bytes with
  | nil => exact .nil
  | cons byte others ih =>
    obtain ⟨first, tail⟩ := List.forall_mem_cons.mp small
    exact .escaped first (.inl rfl) (.inl rfl) (ih tail)

/-- What is written for a character spells its bytes. -/
theorem spells_spellChar (c : Char) : Spells (Text.Utf8.encodeChar c) (spellChar c) := by
  unfold spellChar
  split
  · next unreserved =>
    rw [← List.append_nil (Text.Utf8.encodeChar c)]
    exact .plain (isMark_of_isUnreserved unreserved) .nil
  · apply spells_flatMap_escape
    intro byte member
    obtain ⟨word, _, rfl⟩ := List.mem_map.mp member
    exact word.toNat_lt

/-- What is written for a key or a value spells it. -/
theorem spellsText_spell (text : String) : SpellsText text (spell text) := by
  unfold SpellsText spell
  induction text.toList with
  | nil => exact .nil
  | cons c rest ih => exact (spells_spellChar c).append ih

/-- What is written for pairs spells them, without empty segments and without a question mark. -/
theorem spellsQuery_spellQuery (written : List (String × String)) :
    SpellsQuery written (spellQuery written) := by
  refine ⟨written.map spellPair, ?_, .inl String.toList_ofList⟩
  induction written with
  | nil => exact .nil
  | cons pair rest ih => exact .pair ⟨_, _, spellsText_spell _, spellsText_spell _, rfl⟩ ih

/-- The parameters of a written query are its pairs, added one after the other. -/
theorem ofQuery_spellQuery (written : List (String × String)) :
    ofQuery (spellQuery written) = collect written := by
  rw [ofQuery_eq_collect, (spellsQuery_spellQuery written).pairs_eq]

/-- A key that is written once holds its value alone. -/
theorem ofQuery_spellQuery_singleton (key value : String) :
    ofQuery (spellQuery [(key, value)]) = ofList [(key, .single value)] :=
  ofQuery_spellQuery [(key, value)]

/-- A key that is written several times, and no other, holds its values in their order. -/
theorem get?_ofQuery_spellQuery_map (key : String) {values : List String}
    (several : 2 ≤ values.length) (asked : String) :
    (ofQuery (spellQuery (values.map (key, ·)))).get? asked =
      (ofList [(key, .multi values)]).get? asked := by
  rw [ofQuery_spellQuery, get?_collect, textsUnder_map]
  by_cases same : key = asked
  · subst same
    obtain ⟨first, second, more, rfl⟩ : ∃ first second more, values = first :: second :: more := by
      match values, several with
      | first :: second :: more, _ => exact ⟨first, second, more, rfl⟩
    rw [if_pos rfl, Param.foldl_gather]
    exact (get?_insert_self empty key _).symm
  · rw [if_neg same]
    exact (get?_insert_of_ne empty (Ne.symm same) _).symm

end ParamFilter.Params
