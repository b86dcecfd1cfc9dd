import Mathlib
import ParamFilter.Proofs.WrittenOperands

/-!
# Where the scan finds groups

The scan runs from the left and jumps over what it has taken, so it is not obvious from its text
which groups it sees. It misses none altogether: `groups_eq_nil_iff` says that nothing is found exactly
where no group starts anywhere in the text. Which of several overlapping groups are taken is not a
matter of this module.
-/

namespace ParamFilter.Operand

/-- A group starts with the text: a word in braces, and one more character on the same line. -/
def StartsGroup (text : List Char) : Prop :=
  ∃ name c behind, text = '\x7b' :: (name ++ '\x7d' :: c :: behind) ∧ name ≠ [] ∧
    (∀ x ∈ name, isWordChar x = true) ∧ c ≠ '\n'

/-- A group starts somewhere in the text. -/
def HoldsGroup (text : List Char) : Prop := ∃ tail, tail <:+ text ∧ StartsGroup tail

/-- A text begins with a run of characters that are no braces, which ends with the text or at a brace. -/
theorem exists_run (text : List Char) : ∃ run rest, text = run ++ rest ∧
    (∀ x ∈ run, isBrace x = false) ∧ ∀ x, rest.head? = some x → isBrace x = true := by
  refine ⟨text.takeWhile (!isBrace ·), text.dropWhile (!isBrace ·),
    List.takeWhile_append_dropWhile.symm, ?_, ?_⟩
  · intro x member
    simpa using List.mem_takeWhile_imp member
  · intro x head
    have stopped := List.head?_dropWhile_not (!isBrace ·) text
    rw [head] at stopped
    simpa using stopped

/-- Where a group starts, one is taken, and it opens with a brace and a character of its name. -/
theorem exists_group?_of_startsGroup {text : List Char} (starts : StartsGroup text) :
    ∃ c more rest, group? text = some ('\x7b' :: c :: more, rest) ∧ isWordChar c = true := by
  obtain ⟨name, c, behind, rfl, named, word, line⟩ := starts
  obtain ⟨run, rest, rfl, plain, ends⟩ := exists_run behind
  obtain ⟨first, others, rfl⟩ := List.exists_cons_of_ne_nil named
  exact ⟨first, _, rest, group?_of_parts named word line plain ends, word first List.mem_cons_self⟩

/-- A group is only taken where one starts. -/
theorem startsGroup_of_group? {text group rest : List Char}
    (found : group? text = some (group, rest)) : StartsGroup text := by
  unfold group? at found
  split at found
  · next text =>
    split at found
    · next first name c behind nameEq restEq =>
      split at found
      · cases found
      · next line =>
        have word : ∀ x ∈ first :: name, isWordChar x = true := by
          rw [← nameEq]
          exact fun x member => List.mem_takeWhile_imp member
        have whole : first :: name ++ '\x7d' :: c :: behind = text := by
          rw [← nameEq, ← restEq, List.takeWhile_append_dropWhile]
        exact ⟨first :: name, c, behind, by rw [whole], by simp, word, line⟩
    · cases found
  · cases found

/-- Every group that the scan finds opens with a brace and a character of its name. -/
theorem exists_of_mem_groups {text group : List Char} (member : group ∈ groups text) :
    ∃ c more, group = '\x7b' :: c :: more ∧ isWordChar c = true := by
  induction text using groups.induct with
  | case1 text first rest found _ ih =>
    rw [groups_of_group? found, List.mem_cons] at member
    rcases member with rfl | later
    · obtain ⟨c, more, _, taken, word⟩ := exists_group?_of_startsGroup (startsGroup_of_group? found)
      exact ⟨c, more, (Prod.mk.inj (Option.some.inj (found.symm.trans taken))).1, word⟩
    · exact ih later
  | case2 absent => simp at member
  | case3 c rest absent ih =>
    rw [groups_cons_of_none absent] at member
    exact ih member

/-- The scan comes back with nothing only from texts without a group.

Induct along the scan. It takes a group, or it drops one character where no group starts. In the second
case the remaining text holds a group if the whole text does. -/
theorem groups_eq_nil_iff {text : List Char} : groups text = [] ↔ ¬HoldsGroup text := by
  induction text using groups.induct with
  | case1 text group rest found _ _ =>
    have holds : HoldsGroup text := ⟨text, List.suffix_rfl, startsGroup_of_group? found⟩
    rw [groups_of_group? found]
    exact iff_of_false (List.cons_ne_nil _ _) (not_not_intro holds)
  | case2 absent =>
    refine iff_of_true groups_nil ?_
    rintro ⟨tail, suffix, _, _, _, same, _⟩
    rw [List.suffix_nil.mp suffix] at same
    cases same
  | case3 c rest absent ih =>
    rw [groups_cons_of_none absent, ih, not_iff_not]
    constructor
    · rintro ⟨tail, suffix, starts⟩
      exact ⟨tail, suffix.trans (List.suffix_cons c rest), starts⟩
    · rintro ⟨tail, suffix, starts⟩
      rcases List.suffix_cons_iff.mp suffix with rfl | later
      · obtain ⟨_, _, _, found, _⟩ := exists_group?_of_startsGroup starts
        cases absent.symm.trans found
      · exact ⟨tail, later, starts⟩

end ParamFilter.Operand
