import Mathlib
import ParamFilter.Proofs.GroupScan

/-!
# The spans of groups

Which groups the scan takes, said with positions. A group at a position is a word in braces, one more
character of the same line, and the run of characters up to the next brace. From where it stands, the
scan takes the first position at which a group starts, and goes on behind that group. There is one list
of such spans, and the chunks of a value are what they cover.

A group may start inside another one, because the character behind the closing brace may be an opening
brace. Such a group is not taken. This is the only way to miss one: a group that starts outside of all
spans does not exist.
-/

namespace ParamFilter.Operand

/-- The parts of a group: a word in braces, one character that is no line feed, and characters that are
no braces. -/
structure GroupParts (group name : List Char) (c : Char) (run : List Char) : Prop where
  whole : group = '\x7b' :: (name ++ '\x7d' :: c :: run)
  named : name ≠ []
  word : ∀ x ∈ name, isWordChar x = true
  line : c ≠ '\n'
  plain : ∀ x ∈ run, isBrace x = false

/-- A group stands at a position of a text. It goes on as far as it can: behind it there is a brace or
nothing. -/
def GroupAt (text : List Char) (i : Nat) (group : List Char) : Prop :=
  ∃ name c run behind, GroupParts group name c run ∧ text.drop i = group ++ behind ∧
    ∀ x, behind.head? = some x → isBrace x = true

/-- The spans that a scan takes from a position on. It takes the first group that starts there or later,
and goes on behind it. -/
inductive Scan (text : List Char) : Nat → List (Nat × List Char) → Prop
  | done {start : Nat} (nothing : ∀ i group, start ≤ i → ¬GroupAt text i group) : Scan text start []
  | take {start i : Nat} {group : List Char} {spans : List (Nat × List Char)} (onward : start ≤ i)
      (stands : GroupAt text i group)
      (first : ∀ j other, start ≤ j → j < i → ¬GroupAt text j other)
      (further : Scan text (i + group.length) spans) : Scan text start ((i, group) :: spans)

/-- What is taken as a group has the parts of one, and it ends at a brace or with the text. -/
theorem parts_of_group? {text group rest : List Char} (found : group? text = some (group, rest)) :
    ∃ name c run, GroupParts group name c run ∧ ∀ x, rest.head? = some x → isBrace x = true := by
  obtain ⟨name, c, behind, rfl, named, word, line⟩ := startsGroup_of_group? found
  obtain ⟨run, behind, rfl, plain, ends⟩ := exists_run behind
  have taken := group?_of_parts named word line plain ends
  obtain ⟨rfl, rfl⟩ := Prod.mk.inj (Option.some.inj (taken.symm.trans found))
  exact ⟨name, c, run, ⟨rfl, named, word, line, plain⟩, ends⟩

/-- A group stands where one is taken. -/
theorem groupAt_iff {text group : List Char} {i : Nat} :
    GroupAt text i group ↔ group? (text.drop i) = some (group, text.drop (i + group.length)) := by
  constructor
  · rintro ⟨name, c, run, behind, parts, here, ends⟩
    have found := group?_of_parts parts.named parts.word parts.line parts.plain ends
    have rest : text.drop (i + group.length) = behind := by
      rw [← List.drop_drop, here, List.drop_left]
    rw [rest, here, parts.whole]
    simpa using found
  · intro found
    obtain ⟨name, c, run, parts, ends⟩ := parts_of_group? found
    exact ⟨name, c, run, _, parts, (append_of_group? found).1.symm, ends⟩

/-- One group at most stands at a position. -/
theorem GroupAt.unique {text group other : List Char} {i : Nat} (one : GroupAt text i group)
    (another : GroupAt text i other) : group = other := by
  have same := (groupAt_iff.mp one).symm.trans (groupAt_iff.mp another)
  exact (Prod.mk.inj (Option.some.inj same)).1

theorem GroupAt.ne_nil {text group : List Char} {i : Nat} (stands : GroupAt text i group) :
    group ≠ [] :=
  (append_of_group? (groupAt_iff.mp stands)).2

/-- A text is what stands in front of a group, the group, and what stands behind it. -/
theorem GroupAt.eq_append {text group : List Char} {i : Nat} (stands : GroupAt text i group) :
    text = text.take i ++ group ++ text.drop (i + group.length) := by
  have whole := (append_of_group? (groupAt_iff.mp stands)).1
  rw [List.append_assoc, whole, List.take_append_drop]

/-- No group stands where none is taken. -/
theorem not_groupAt_of_none {text group : List Char} {i : Nat} (absent : group? (text.drop i) = none) :
    ¬GroupAt text i group := by
  intro stands
  cases absent.symm.trans (groupAt_iff.mp stands)

/-- No group stands behind the end of a text. -/
theorem not_groupAt_of_length_le {text group : List Char} {i : Nat} (ended : text.length ≤ i) :
    ¬GroupAt text i group :=
  not_groupAt_of_none (by rw [List.drop_of_length_le ended]; rfl)

namespace Scan

variable {text : List Char} {start : Nat} {spans : List (Nat × List Char)}

/-- Where no group starts, the scan moves on by one character. -/
theorem back (scan : Scan text (start + 1) spans) (absent : ∀ group, ¬GroupAt text start group) :
    Scan text start spans := by
  cases scan with
  | done nothing =>
    refine .done fun i group onward => ?_
    rcases Nat.eq_or_lt_of_le onward with rfl | later
    · exact absent group
    · exact nothing i group later
  | take onward stands first further =>
    refine .take (Nat.le_of_succ_le onward) stands (fun j other from' before => ?_) further
    rcases Nat.eq_or_lt_of_le from' with rfl | later
    · exact absent other
    · exact first j other later before

/-- A scan is determined by its text and its position. Two first positions of a group are the same, since
neither is in front of the other. -/
theorem unique {spans' : List (Nat × List Char)} (one : Scan text start spans)
    (other : Scan text start spans') : spans = spans' := by
  induction one generalizing spans' with
  | done nothing =>
    cases other with
    | done => rfl
    | take onward stands => exact absurd stands (nothing _ _ onward)
  | @take start i group spans onward stands first _ ih =>
    cases other with
    | done nothing => exact absurd stands (nothing i group onward)
    | @take _ i' group' spans' onward' stands' first' further' =>
      obtain rfl : i = i' := by
        rcases Nat.lt_trichotomy i i' with before | same | before
        · exact absurd stands (first' i group onward before)
        · exact same
        · exact absurd stands' (first i' group' onward' before)
      obtain rfl := stands.unique stands'
      rw [ih further']

/-- A group stands wherever the scan takes one. -/
theorem stands (scan : Scan text start spans) : ∀ span ∈ spans, GroupAt text span.1 span.2 := by
  induction scan with
  | done => simp
  | take _ stands _ _ ih => exact List.forall_mem_cons.mpr ⟨stands, ih⟩

/-- The scan never goes back: no span begins in front of its start, and none begins in front of the end of
an earlier one. -/
theorem ordered (scan : Scan text start spans) :
    (∀ span ∈ spans, start ≤ span.1) ∧
      spans.Pairwise fun former latter => former.1 + former.2.length ≤ latter.1 := by
  induction scan with
  | done => simp
  | take onward _ _ _ ih =>
    obtain ⟨behind, pairwise⟩ := ih
    refine ⟨List.forall_mem_cons.mpr ⟨onward, fun span member => ?_⟩,
      List.pairwise_cons.mpr ⟨behind, pairwise⟩⟩
    have later := behind span member
    omega

/-- Every group that starts behind the start of a scan starts in one of its spans. -/
theorem covers (scan : Scan text start spans) {i : Nat} {group : List Char} (onward : start ≤ i)
    (stands : GroupAt text i group) : ∃ span ∈ spans, span.1 ≤ i ∧ i < span.1 + span.2.length := by
  induction scan with
  | done nothing => exact absurd stands (nothing i group onward)
  | @take start first taken spans _ _ before _ ih =>
    by_cases front : i < first
    · exact absurd stands (before i group onward front)
    · by_cases inside : i < first + taken.length
      · exact ⟨(first, taken), List.mem_cons_self, by simpa using front, inside⟩
      · obtain ⟨span, member, within⟩ := ih (by omega)
        exact ⟨span, List.mem_cons_of_mem _ member, within⟩

/-- The groups of what is left of a text are those of a scan from there.

Induct along the scan of the model. Where it takes a group, so does the relation, at once; where it drops
a character, no group starts. -/
theorem exists_map_eq_groups (text : List Char) (start : Nat) :
    ∃ spans, Scan text start spans ∧ spans.map Prod.snd = groups (text.drop start) := by
  generalize same : text.drop start = left
  induction left using groups.induct generalizing start with
  | case1 left group rest found _ ih =>
    have behind : text.drop (start + group.length) = rest := by
      rw [← List.drop_drop, same, ← (append_of_group? found).1, List.drop_left]
    obtain ⟨spans, scan, texts⟩ := ih (start + group.length) behind
    have stands : GroupAt text start group := groupAt_iff.mpr (by rw [same, behind, found])
    refine ⟨(start, group) :: spans, .take (Nat.le_refl _) stands ?_ scan, ?_⟩
    · intro j other from' before
      exact absurd before (Nat.not_lt.mpr from')
    · rw [groups_of_group? found, List.map_cons, texts]
  | case2 absent =>
    have ended : text.length ≤ start := List.drop_eq_nil_iff.mp same
    exact ⟨[], .done fun i group onward => not_groupAt_of_length_le (ended.trans onward), by simp⟩
  | case3 c rest absent ih =>
    have next : text.drop (start + 1) = rest := by rw [← List.drop_drop, same, List.drop_one, List.tail_cons]
    obtain ⟨spans, scan, texts⟩ := ih (start + 1) next
    have none : group? (text.drop start) = none := by rw [same, absent]
    exact ⟨spans, scan.back fun group => not_groupAt_of_none none,
      by rw [groups_cons_of_none absent, texts]⟩

end Scan

/-- Every group that the scan finds stands somewhere in the text. -/
theorem exists_groupAt_of_mem {text group : List Char} (member : group ∈ groups text) :
    ∃ i, GroupAt text i group := by
  obtain ⟨spans, scan, texts⟩ := Scan.exists_map_eq_groups text 0
  rw [List.drop_zero] at texts
  rw [← texts] at member
  obtain ⟨span, spanMember, rfl⟩ := List.mem_map.mp member
  exact ⟨span.1, scan.stands span spanMember⟩

/-- The scan finds something in a text in which a group stands. -/
theorem groups_ne_nil_of_groupAt {text group : List Char} {i : Nat} (stands : GroupAt text i group) :
    groups text ≠ [] := by
  obtain ⟨spans, scan, texts⟩ := Scan.exists_map_eq_groups text 0
  rw [List.drop_zero] at texts
  obtain ⟨span, member, _⟩ := scan.covers (Nat.zero_le i) stands
  rw [← texts]
  exact List.ne_nil_of_mem (List.mem_map_of_mem member)

/-- The chunks of a value are what the spans of its one scan cover, or the value where there is no span.
The spans follow one after the other, and each is a piece of the value in its place. Every group of the
value starts inside a span, so none starts in what is left out. No chunk is empty unless the value is.
Several values are one chunk, and no value is none.

Proof: the scan exists and is unique, and the groups that the model finds are its texts. All else is what
a scan has been shown to have. -/
theorem chunks_eq_scan :
    (∀ value : String, ∃ spans, Scan value.toList 0 spans ∧
      (∀ other, Scan value.toList 0 other → other = spans) ∧
      chunks (.single value) =
        (if spans = [] then [value] else spans.map fun span => String.ofList span.2) ∧
      (spans = [] ↔ ∀ i group, ¬GroupAt value.toList i group) ∧
      spans.Pairwise (fun former latter => former.1 + former.2.length ≤ latter.1) ∧
      (∀ span ∈ spans, value.toList = value.toList.take span.1 ++ span.2 ++
        value.toList.drop (span.1 + span.2.length)) ∧
      (∀ i group, GroupAt value.toList i group →
        ∃ span ∈ spans, span.1 ≤ i ∧ i < span.1 + span.2.length) ∧
      ∀ chunk ∈ chunks (.single value),
        chunk.toList <:+: value.toList ∧ (chunk = "" → value = "")) ∧
    ∀ values : List String,
      chunks (.multi values) = if values = [] then [] else [",".intercalate values] := by
  constructor
  · intro value
    obtain ⟨spans, scan, texts⟩ := Scan.exists_map_eq_groups value.toList 0
    rw [List.drop_zero] at texts
    have given : chunks (.single value) =
        if spans = [] then [value] else spans.map fun span => String.ofList span.2 := by
      by_cases nothing : spans = []
      · rw [if_pos nothing, chunks, ← texts, nothing, List.map_nil]
      · have found : groups value.toList ≠ [] := by
          rw [← texts]
          exact fun empty => nothing (List.map_eq_nil_iff.mp empty)
        rw [if_neg nothing, chunks_single_of_groups found, ← texts, List.map_map]
        rfl
    have covered : ∀ i group, GroupAt value.toList i group →
        ∃ span ∈ spans, span.1 ≤ i ∧ i < span.1 + span.2.length :=
      fun i group stands => scan.covers (Nat.zero_le i) stands
    refine ⟨spans, scan, fun other scanned => scanned.unique scan, given, ⟨?_, ?_⟩, scan.ordered.2,
      fun span member => (scan.stands span member).eq_append, covered, ?_⟩
    · rintro rfl i group stands
      obtain ⟨span, member, _⟩ := covered i group stands
      cases member
    · intro absent
      rw [List.eq_nil_iff_forall_not_mem]
      exact fun span member => absent span.1 span.2 (scan.stands span member)
    · intro chunk member
      rw [given] at member
      split at member
      · rw [List.mem_singleton.mp member]
        exact ⟨List.infix_rfl, id⟩
      · obtain ⟨span, spanMember, rfl⟩ := List.mem_map.mp member
        have stands := scan.stands span spanMember
        refine ⟨?_, fun empty => ?_⟩
        · rw [String.toList_ofList]
          exact ⟨_, _, stands.eq_append.symm⟩
        · have noText := congrArg String.toList empty
          rw [String.toList_ofList] at noText
          exact absurd noText stands.ne_nil
  · intro values
    cases values with
    | nil => rfl
    | cons value rest => rw [chunks_multi (List.cons_ne_nil value rest), if_neg (List.cons_ne_nil value rest)]

/-- A group swallows the opening brace of the next one, which is not seen then. A group behind it has a
second closing brace. -/
theorem swallowed_group_is_passed_over :
    let value := "x\x7ba\x7d\x7bb\x7dy\x7bc\x7d\x7dz"
    let spans := [(1, "\x7ba\x7d\x7bb".toList), (8, "\x7bc\x7d\x7dz".toList)]
    GroupAt value.toList 4 "\x7bb\x7dy".toList ∧ Scan value.toList 0 spans ∧
      (∃ span ∈ spans, span.1 ≤ 4 ∧ 4 < span.1 + span.2.length) ∧
      chunks (.single value) = ["\x7ba\x7d\x7bb", "\x7bc\x7d\x7dz"] := by
  intro value spans
  have swallowed : GroupAt value.toList 4 "\x7bb\x7dy".toList := groupAt_iff.mpr (by decide)
  have former : GroupAt value.toList 1 "\x7ba\x7d\x7bb".toList := groupAt_iff.mpr (by decide)
  have latter : GroupAt value.toList 8 "\x7bc\x7d\x7dz".toList := groupAt_iff.mpr (by decide)
  have absent : ∀ j ∈ [0, 6, 7], group? (value.toList.drop j) = none := by decide
  have scan : Scan value.toList 0 spans := by
    refine .take (by decide) former (fun j _ _ before => ?_)
      (.take (by decide) latter (fun j _ from' before => ?_) (.done fun i _ behind => ?_))
    · exact not_groupAt_of_none (absent j (by simp; omega))
    · refine not_groupAt_of_none (absent j ?_)
      change 6 ≤ j at from'
      simp
      omega
    · exact not_groupAt_of_length_le (Nat.le_trans (by decide) behind)
  obtain ⟨found, _, unique, given, _, _, _, covered, _⟩ := chunks_eq_scan.1 value
  obtain rfl := unique spans scan
  exact ⟨swallowed, scan, covered 4 _ swallowed, given⟩

end ParamFilter.Operand
