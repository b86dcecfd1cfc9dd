import Mathlib
import ParamFilter.Text.Utf8

/-!
# The order of texts and of their bytes

Texts are compared character by character. Comparing their bytes gives the same order: of two characters,
the one with the smaller code has the smaller byte at the first place where their bytes differ, and there
is such a place, since the bytes of neither go on behind those of the other. So keys that are in order are
in the order of their bytes, and it makes no difference whether texts are encoded before or after sorting.
-/

namespace ParamFilter.Text.Utf8

/-- A character in front of another one has the smaller bytes, whatever follows them. The cases are the
numbers of bytes that the two take; a smaller code never takes more. -/
theorem encodeChar_append_lt {c d : Char} (before : c < d) (left right : List Nat) :
    encodeChar c ++ left < encodeChar d ++ right := by
  have smaller : c.toNat < d.toNat := before
  have valid := toNat_not_surrogate d
  rw [encodeChar_eq, encodeChar_eq]
  split_ifs <;> simp only [List.cons_append, List.cons_lt_cons_iff] <;> omega

/-- A text in front of another one has the smaller bytes. -/
theorem encode_lt_of_lt {left right : List Char} (before : left < right) :
    encode left < encode right := by
  induction left generalizing right with
  | nil =>
    cases right with
    | nil => exact absurd before (lt_irrefl _)
    | cons d others =>
      rw [encode_cons, encodeChar_eq]
      split_ifs <;> exact List.nil_lt_cons _ _
  | cons c rest ih =>
    cases right with
    | nil => exact absurd before (List.not_lt_nil _)
    | cons d others =>
      rw [encode_cons, encode_cons]
      rcases List.cons_lt_cons_iff.mp before with first | ⟨rfl, further⟩
      · exact encodeChar_append_lt first _ _
      · exact List.append_left_lt (ih further)

/-- Texts are in the order of their bytes. -/
theorem encode_lt_encode_iff {left right : List Char} : encode left < encode right ↔ left < right :=
  StrictMono.lt_iff_lt fun _ _ => encode_lt_of_lt

end ParamFilter.Text.Utf8
