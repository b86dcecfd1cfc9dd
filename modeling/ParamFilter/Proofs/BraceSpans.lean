import Mathlib
import ParamFilter.Proofs.GroupSpans

/-!
# Where an operator stands in its chunk

Which brace expression is taken out of a chunk, said with positions. It opens at the first brace that
can be closed on its line, and it closes as late as it can on that line. What is between becomes the
operator, what is before and behind becomes the value, and nothing else is lost.

This is not the notion of a group, by which chunks are cut. The two agree on a chunk that was cut as a
group, unless the character behind its closing brace is another closing brace: then that brace closes the
operator. What becomes of chunks that were not cut follows from the first part.
-/

namespace ParamFilter.Operand

/-- A closing brace at a position, with no line feed in front of it. -/
def ClosesAt (text : List Char) (j : Nat) : Prop :=
  text[j]? = some '\x7d' ∧ ∀ k < j, text[k]? ≠ some '\n'

/-- An opening brace at one position and a closing brace at a later one, with no line feed between. -/
def BracesAt (text : List Char) (i j : Nat) : Prop :=
  i < j ∧ text[i]? = some '\x7b' ∧ text[j]? = some '\x7d' ∧
    ∀ k, i < k → k < j → text[k]? ≠ some '\n'

/-- The braces that count: the first opening one that can be closed, and the last one that closes it. -/
structure OuterBraces (text : List Char) (i j : Nat) : Prop where
  braces : BracesAt text i j
  first : ∀ other closing, BracesAt text other closing → i ≤ other
  last : ∀ closing, BracesAt text i closing → closing ≤ j

/-- A text has its outer braces in one place at most. -/
theorem OuterBraces.unique {text : List Char} {i j i' j' : Nat} (one : OuterBraces text i j)
    (other : OuterBraces text i' j') : i = i' ∧ j = j' := by
  obtain rfl := Nat.le_antisymm (one.first _ _ other.braces) (other.first _ _ one.braces)
  exact ⟨rfl, Nat.le_antisymm (other.last _ one.braces) (one.last _ other.braces)⟩

section Positions

variable {c : Char} {text : List Char} {i j : Nat}

theorem not_closesAt_nil : ¬ClosesAt [] j := by simp [ClosesAt]

theorem closesAt_cons_zero : ClosesAt (c :: text) 0 ↔ c = '\x7d' := by simp [ClosesAt]

theorem closesAt_cons_succ : ClosesAt (c :: text) (j + 1) ↔ c ≠ '\n' ∧ ClosesAt text j := by
  constructor
  · rintro ⟨closes, line⟩
    refine ⟨fun feed => line 0 (Nat.succ_pos j) (by simp [feed]), by simpa using closes, ?_⟩
    intro k before
    simpa using line (k + 1) (Nat.succ_lt_succ before)
  · rintro ⟨other, closes, line⟩
    refine ⟨by simpa using closes, fun k before => ?_⟩
    cases k with
    | zero => simpa using other
    | succ k => simpa using line k (Nat.lt_of_succ_lt_succ before)

theorem not_bracesAt_nil : ¬BracesAt [] i j := by simp [BracesAt]

theorem bracesAt_cons_zero :
    BracesAt (c :: text) 0 j ↔ c = '\x7b' ∧ ∃ k, j = k + 1 ∧ ClosesAt text k := by
  constructor
  · rintro ⟨later, opens, closes, line⟩
    obtain ⟨k, rfl⟩ := Nat.exists_eq_add_one.mpr later
    refine ⟨by simpa using opens, k, rfl, by simpa using closes, fun m before => ?_⟩
    simpa using line (m + 1) (Nat.succ_pos m) (Nat.succ_lt_succ before)
  · rintro ⟨rfl, k, rfl, closes, line⟩
    refine ⟨Nat.succ_pos k, by simp, by simpa using closes, fun m after before => ?_⟩
    obtain ⟨m, rfl⟩ := Nat.exists_eq_add_one.mpr after
    simpa using line m (Nat.lt_of_succ_lt_succ before)

theorem bracesAt_cons_succ :
    BracesAt (c :: text) (i + 1) j ↔ ∃ k, j = k + 1 ∧ BracesAt text i k := by
  constructor
  · rintro ⟨later, opens, closes, line⟩
    obtain ⟨k, rfl⟩ := Nat.exists_eq_add_one.mpr (Nat.zero_lt_of_lt later)
    refine ⟨k, rfl, Nat.lt_of_succ_lt_succ later, by simpa using opens, by simpa using closes, ?_⟩
    intro m after before
    simpa using line (m + 1) (Nat.succ_lt_succ after) (Nat.succ_lt_succ before)
  · rintro ⟨k, rfl, later, opens, closes, line⟩
    refine ⟨Nat.succ_lt_succ later, by simpa using opens, by simpa using closes, ?_⟩
    intro m after before
    obtain ⟨m, rfl⟩ := Nat.exists_eq_add_one.mpr (Nat.zero_lt_of_lt after)
    simpa using line m (Nat.lt_of_succ_lt_succ after) (Nat.lt_of_succ_lt_succ before)

end Positions

/-- The brace match finds nothing only if no brace closes on the line. -/
theorem not_closesAt_of_none {text : List Char} (none : uptoClose? text = none) (j : Nat) :
    ¬ClosesAt text j := by
  induction text generalizing j with
  | nil => exact not_closesAt_nil
  | cons c rest ih =>
    rw [uptoClose?] at none
    split at none
    · next feed =>
      subst feed
      cases j with
      | zero => simp [closesAt_cons_zero]
      | succ j => simp [closesAt_cons_succ]
    · split at none
      · cases none
      · next behind =>
        split at none
        · cases none
        · next other =>
          cases j with
          | zero => rwa [closesAt_cons_zero]
          | succ j => exact fun closes => ih behind j (closesAt_cons_succ.mp closes).2

/-- The brace match cuts the text at the last brace that closes on the line.

Induct over the text. A brace that closes further on is preferred to one that closes here. -/
theorem closesAt_of_uptoClose? {text inside behind : List Char}
    (found : uptoClose? text = some (inside, behind)) :
    ∃ j, ClosesAt text j ∧ (∀ other, ClosesAt text other → other ≤ j) ∧
      inside = text.take j ∧ behind = text.drop (j + 1) := by
  induction text generalizing inside with
  | nil => cases found
  | cons c rest ih =>
    rw [uptoClose?] at found
    split at found
    · cases found
    · next line =>
      split at found
      · next further _ onward =>
        obtain ⟨rfl, rfl⟩ := Prod.mk.inj (Option.some.inj found)
        obtain ⟨j, closes, last, rfl, rfl⟩ := ih onward
        refine ⟨j + 1, closesAt_cons_succ.mpr ⟨line, closes⟩, fun other closesThere => ?_, rfl, rfl⟩
        cases other with
        | zero => exact Nat.zero_le _
        | succ other => exact Nat.succ_le_succ (last other (closesAt_cons_succ.mp closesThere).2)
      · next nothing =>
        split at found
        · next closing =>
          obtain ⟨rfl, rfl⟩ := Prod.mk.inj (Option.some.inj found)
          refine ⟨0, closesAt_cons_zero.mpr closing, fun other closesThere => ?_, rfl, rfl⟩
          cases other with
          | zero => exact Nat.le_refl 0
          | succ other =>
            exact absurd (closesAt_cons_succ.mp closesThere).2 (not_closesAt_of_none nothing other)
        · cases found

/-- No braces open at the first character if the match from there finds nothing. -/
theorem not_bracesAt_zero {c : Char} {rest : List Char}
    (unclosed : (if c = '\x7b' then uptoClose? rest else none) = none) (j : Nat) :
    ¬BracesAt (c :: rest) 0 j := by
  rw [bracesAt_cons_zero]
  rintro ⟨opening, k, rfl, closes⟩
  rw [if_pos opening] at unclosed
  exact not_closesAt_of_none unclosed k closes

/-- No brace expression is taken only if no brace can be closed. -/
theorem not_bracesAt_of_none {text : List Char} (absent : braced? text = none) (i j : Nat) :
    ¬BracesAt text i j := by
  induction text generalizing i j with
  | nil => exact not_bracesAt_nil
  | cons c rest ih =>
    rw [braced?] at absent
    split at absent
    · cases absent
    · next unclosed =>
      cases i with
      | zero => exact not_bracesAt_zero unclosed j
      | succ i =>
        rw [bracesAt_cons_succ]
        rintro ⟨k, rfl, braces⟩
        exact ih (Option.map_eq_none_iff.mp absent) i k braces

/-- The brace expression that is taken is what is between the outer braces.

Induct over the text. Either its first character opens braces, or none of its braces open there. -/
theorem outerBraces_of_braced? {text before inside behind : List Char}
    (found : braced? text = some (before, inside, behind)) :
    ∃ i j, OuterBraces text i j ∧ before = text.take i ∧
      inside = (text.drop (i + 1)).take (j - (i + 1)) ∧ behind = text.drop (j + 1) := by
  induction text generalizing before with
  | nil => cases found
  | cons c rest ih =>
    rw [braced?] at found
    split at found
    · next closed =>
      obtain ⟨rfl, rfl, rfl⟩ : [] = before ∧ _ = inside ∧ _ = behind := by simpa using found
      by_cases opening : c = '\x7b'
      · rw [if_pos opening] at closed
        obtain ⟨j, closes, last, rfl, rfl⟩ := closesAt_of_uptoClose? closed
        refine ⟨0, j + 1, ⟨?_, fun _ _ _ => Nat.zero_le _, ?_⟩, rfl, rfl, rfl⟩
        · exact bracesAt_cons_zero.mpr ⟨opening, j, rfl, closes⟩
        · intro closing braces
          obtain ⟨_, k, rfl, closesThere⟩ := bracesAt_cons_zero.mp braces
          exact Nat.succ_le_succ (last k closesThere)
      · rw [if_neg opening] at closed
        cases closed
    · next unclosed =>
      obtain ⟨⟨front, inner⟩, further, same⟩ := Option.map_eq_some_iff.mp found
      obtain ⟨rfl, rfl⟩ := Prod.mk.inj same
      obtain ⟨i, j, outer, rfl, rfl, rfl⟩ := ih further
      refine ⟨i + 1, j + 1, ⟨?_, ?_, ?_⟩, rfl, ?_, rfl⟩
      · exact bracesAt_cons_succ.mpr ⟨j, rfl, outer.braces⟩
      · intro other closing braces
        cases other with
        | zero => exact absurd braces (not_bracesAt_zero unclosed closing)
        | succ other =>
          obtain ⟨k, rfl, bracesThere⟩ := bracesAt_cons_succ.mp braces
          exact Nat.succ_le_succ (outer.first other k bracesThere)
      · intro closing braces
        obtain ⟨k, rfl, bracesThere⟩ := bracesAt_cons_succ.mp braces
        exact Nat.succ_le_succ (outer.last k bracesThere)
      · rw [Nat.add_sub_add_right, List.drop_succ_cons]

/-- A text with braces has outer ones. -/
theorem exists_outerBraces {text : List Char} {i j : Nat} (braces : BracesAt text i j) :
    ∃ first last, OuterBraces text first last := by
  cases found : braced? text with
  | none => exact absurd braces (not_bracesAt_of_none found i j)
  | some taken =>
    obtain ⟨first, last, outer, _⟩ := outerBraces_of_braced? found
    exact ⟨first, last, outer⟩

/-- The match takes what is between the outer braces, and leaves what is before and behind. -/
theorem OuterBraces.braced?_eq {text : List Char} {i j : Nat} (outer : OuterBraces text i j) :
    braced? text =
      some (text.take i, (text.drop (i + 1)).take (j - (i + 1)), text.drop (j + 1)) := by
  cases found : braced? text with
  | none => exact absurd outer.braces (not_bracesAt_of_none found i j)
  | some taken =>
    obtain ⟨_, _, outer', before, inside, behind⟩ := outerBraces_of_braced? found
    obtain ⟨rfl, rfl⟩ := outer.unique outer'
    rw [← before, ← inside, ← behind]

/-- From a position on, a text is the character there and what is behind it. -/
theorem drop_of_getElem? {text : List Char} {c : Char} {i : Nat} (held : text[i]? = some c) :
    text.drop i = c :: text.drop (i + 1) := by
  obtain ⟨inside, rfl⟩ := List.getElem?_eq_some_iff.mp held
  exact List.drop_eq_getElem_cons inside

/-- A text is what is before two braces, what is between them and what is behind. -/
theorem BracesAt.eq_append {text : List Char} {i j : Nat} (braces : BracesAt text i j) :
    text.take i ++ '\x7b' :: ((text.drop (i + 1)).take (j - (i + 1)) ++ '\x7d' :: text.drop (j + 1)) =
      text := by
  obtain ⟨later, opens, closes, _⟩ := braces
  have position : i + 1 + (j - (i + 1)) = j := by omega
  have behind : (text.drop (i + 1)).drop (j - (i + 1)) = '\x7d' :: text.drop (j + 1) := by
    rw [List.drop_drop, position, drop_of_getElem? closes]
  rw [← behind, List.take_append_drop, ← drop_of_getElem? opens, List.take_append_drop]

/-- Nothing is between two braces exactly if they are next to each other. -/
theorem BracesAt.between_eq_nil_iff {text : List Char} {i j : Nat} (braces : BracesAt text i j) :
    (text.drop (i + 1)).take (j - (i + 1)) = [] ↔ j = i + 1 := by
  obtain ⟨later, _, closes, _⟩ := braces
  obtain ⟨inside, _⟩ := List.getElem?_eq_some_iff.mp closes
  rw [← List.length_eq_zero_iff, List.length_take, List.length_drop]
  omega

/-- What is between the outer braces of a chunk is its operator, and the rest is its value. -/
theorem ofChunk_of_outerBraces {chunk : String} {i j : Nat} (outer : OuterBraces chunk.toList i j) :
    ofChunk chunk =
      ⟨if j = i + 1 then none
        else some (String.ofList ((chunk.toList.drop (i + 1)).take (j - (i + 1)))),
        String.ofList (chunk.toList.take i ++ chunk.toList.drop (j + 1))⟩ := by
  rw [ofChunk, outer.braced?_eq]
  simp only [List.isEmpty_iff, outer.braces.between_eq_nil_iff]

/-- Without braces a chunk is its own value. -/
theorem ofChunk_of_not_bracesAt {chunk : String} (absent : ∀ i j, ¬BracesAt chunk.toList i j) :
    ofChunk chunk = verbatim chunk := by
  cases found : braced? chunk.toList with
  | none => rw [ofChunk, found]
  | some taken =>
    obtain ⟨i, j, outer, _⟩ := outerBraces_of_braced? found
    exact absurd outer.braces (absent i j)

/-- The braces and what was between them, put back into the value where they stood, give the chunk. -/
theorem restored_of_outerBraces {chunk : String} {i j : Nat} (outer : OuterBraces chunk.toList i j) :
    (ofChunk chunk).value.toList.take i ++ '\x7b' :: (((ofChunk chunk).operator.getD "").toList ++
      '\x7d' :: (ofChunk chunk).value.toList.drop i) = chunk.toList := by
  obtain ⟨inside, _⟩ := List.getElem?_eq_some_iff.mp outer.braces.2.1
  have front : (chunk.toList.take i).length = i := List.length_take_of_le (Nat.le_of_lt inside)
  have operator : ((ofChunk chunk).operator.getD "").toList =
      (chunk.toList.drop (i + 1)).take (j - (i + 1)) := by
    rw [ofChunk_of_outerBraces outer]
    by_cases empty : j = i + 1
    · simp [empty]
    · simp [empty]
  rw [operator, ofChunk_of_outerBraces outer, String.toList_ofList, List.take_left' front,
    List.drop_left' front, outer.braces.eq_append]

section Groups

variable {chunk : String} {name run : List Char} {c : Char}

/-- The word of a group is on one line. -/
theorem GroupParts.feed_not_mem {group : List Char} (parts : GroupParts group name c run) :
    '\n' ∉ name := fun feed => absurd (parts.word _ feed) (by decide)

/-- No brace closes in the run of a group. -/
theorem GroupParts.close_not_mem {group : List Char} (parts : GroupParts group name c run) :
    '\x7d' ∉ run := fun close => absurd (parts.plain _ close) (by decide)

/-- A chunk that opens with a brace is read up to its last closing brace, if that is on the same line. -/
theorem ofChunk_of_last_close {inside value : List Char}
    (whole : chunk.toList = '\x7b' :: (inside ++ '\x7d' :: value)) (filled : inside ≠ [])
    (line : '\n' ∉ inside) (last : '\x7d' ∉ value) :
    ofChunk chunk = ⟨some (String.ofList inside), String.ofList value⟩ := by
  have same : chunk = written (String.ofList inside) (String.ofList value) := by
    rw [← String.toList_inj, toList_written, whole, String.toList_ofList, String.toList_ofList, spelled,
      List.cons_append]
  rw [same]
  apply ofChunk_written_of_line
  · simpa using filled
  · simpa using line
  · simpa using last

/-- The operator of a group is its word, and the value is what is behind it. -/
theorem ofChunk_of_parts (parts : GroupParts chunk.toList name c run) (other : c ≠ '\x7d') :
    ofChunk chunk = ⟨some (String.ofList name), String.ofList (c :: run)⟩ := by
  apply ofChunk_of_last_close parts.whole parts.named parts.feed_not_mem
  simpa using ⟨Ne.symm other, parts.close_not_mem⟩

/-- A second closing brace of a group closes the operator, and belongs to neither operator nor value. -/
theorem ofChunk_of_parts_close (parts : GroupParts chunk.toList name '\x7d' run) :
    ofChunk chunk = ⟨some (String.ofList (name ++ ['\x7d'])), String.ofList run⟩ := by
  have whole : chunk.toList = '\x7b' :: ((name ++ ['\x7d']) ++ '\x7d' :: run) := by
    rw [parts.whole, List.append_assoc, List.singleton_append]
  apply ofChunk_of_last_close whole (by simp)
  · simpa using parts.feed_not_mem
  · exact parts.close_not_mem

/-- A chunk of a value in which a group stands has the parts of a group. -/
theorem exists_parts_of_mem_chunks {value : String} {group : List Char} {i : Nat}
    (stands : GroupAt value.toList i group) (member : chunk ∈ chunks (.single value)) :
    ∃ name c run, GroupParts chunk.toList name c run := by
  rw [chunks_single_of_groups (groups_ne_nil_of_groupAt stands)] at member
  obtain ⟨found, foundMember, rfl⟩ := List.mem_map.mp member
  obtain ⟨_, name, c, run, _, parts, _⟩ := exists_groupAt_of_mem foundMember
  exact ⟨name, c, run, by rwa [String.toList_ofList]⟩

end Groups

/-- What is taken out of a chunk as its operator.

If the chunk has braces that close on their line, it has outer ones. What is between these is the operator,
unless nothing is, and what is before and behind is the value; put back in its place, the one in the other
is the chunk. Without such braces the chunk is its own value. Where a chunk was cut as a group, its word is
the operator and all that is behind is the value, which is not empty. A closing brace behind the word is
the exception: it is taken for the end of the operator. -/
theorem ofChunk_exact (chunk : String) :
    (∀ i j, OuterBraces chunk.toList i j →
      ofChunk chunk =
        ⟨if j = i + 1 then none
          else some (String.ofList ((chunk.toList.drop (i + 1)).take (j - (i + 1)))),
          String.ofList (chunk.toList.take i ++ chunk.toList.drop (j + 1))⟩ ∧
      (ofChunk chunk).value.toList.take i ++ '\x7b' :: (((ofChunk chunk).operator.getD "").toList ++
        '\x7d' :: (ofChunk chunk).value.toList.drop i) = chunk.toList) ∧
    (∀ i j, BracesAt chunk.toList i j → ∃ first last, OuterBraces chunk.toList first last) ∧
    ((∀ i j, ¬BracesAt chunk.toList i j) → ofChunk chunk = ⟨none, chunk⟩) ∧
    ∀ value i group, GroupAt value.toList i group → chunk ∈ chunks (.single value) →
      (∃ name c run, GroupParts chunk.toList name c run) ∧
      ∀ name c run, GroupParts chunk.toList name c run →
        (c ≠ '\x7d' → ofChunk chunk = ⟨some (String.ofList name), String.ofList (c :: run)⟩ ∧
          (ofChunk chunk).value ≠ "") ∧
        (c = '\x7d' →
          ofChunk chunk = ⟨some (String.ofList name ++ "\x7d"), String.ofList run⟩) := by
  refine ⟨?_, ?_, ofChunk_of_not_bracesAt, ?_⟩
  · exact fun i j outer => ⟨ofChunk_of_outerBraces outer, restored_of_outerBraces outer⟩
  · exact fun i j braces => exists_outerBraces braces
  · intro value i group stands member
    refine ⟨exists_parts_of_mem_chunks stands member, fun name c run parts => ⟨?_, ?_⟩⟩
    · intro other
      have taken := ofChunk_of_parts parts other
      refine ⟨taken, ?_⟩
      rw [taken]
      simp
    · rintro rfl
      rw [ofChunk_of_parts_close parts, String.ofList_append]

/-- The match runs over inner braces up to the last one that closes on the line. A group with two closing
braces keeps one of them in its operator. -/
theorem inner_braces_are_kept :
    let chunk := "a\x7bb\x7bc\x7dd\x7de\n\x7d"
    let value := "x\x7bne\x7d\x7dy"
    let cut := "\x7bne\x7d\x7dy"
    OuterBraces chunk.toList 1 7 ∧ ofChunk chunk = ⟨some "b\x7bc\x7dd", "ae\n\x7d"⟩ ∧
      GroupAt value.toList 1 cut.toList ∧ cut ∈ chunks (.single value) ∧
      GroupParts cut.toList ['n', 'e'] '\x7d' ['y'] ∧ ofChunk cut = ⟨some "ne\x7d", "y"⟩ := by
  intro chunk value cut
  have outer : OuterBraces chunk.toList 1 7 := by
    have line : ∀ k < 7, chunk.toList[k]? ≠ some '\n' := by decide
    refine ⟨⟨by decide, by decide, by decide, fun k _ before => line k before⟩, ?_, ?_⟩
    · intro other closing braces
      refine Nat.pos_of_ne_zero ?_
      rintro rfl
      exact absurd braces.2.1 (by decide)
    · intro closing braces
      by_contra further
      have behind : closing = 8 ∨ closing = 9 ∨ 9 < closing := by omega
      rcases behind with rfl | rfl | below
      · exact absurd braces.2.2.1 (by decide)
      · exact absurd braces.2.2.1 (by decide)
      · exact braces.2.2.2 9 (by decide) below (by decide)
  have taken : ofChunk chunk = ⟨some "b\x7bc\x7dd", "ae\n\x7d"⟩ :=
    ((ofChunk_exact chunk).1 1 7 outer).1.trans (by decide)
  have stands : GroupAt value.toList 1 cut.toList := groupAt_iff.mpr (by decide)
  have found : chunks (.single value) = [cut] := by cbv
  have member : cut ∈ chunks (.single value) := found ▸ List.mem_singleton_self cut
  have parts : GroupParts cut.toList ['n', 'e'] '\x7d' ['y'] :=
    ⟨by decide, by decide, List.all_eq_true.mp (by decide), by decide, by simp [isBrace]⟩
  have group := (ofChunk_exact cut).2.2.2 value 1 _ stands member
  exact ⟨outer, taken, stands, member, parts, (group.2 _ _ _ parts).2 rfl⟩

end ParamFilter.Operand
