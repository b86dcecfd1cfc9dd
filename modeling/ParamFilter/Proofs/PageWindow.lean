import Mathlib
import ParamFilter.Plan
import ParamFilter.Proofs.Slots

/-!
# The window of a plan

How many results a plan passes over and how many it gives, followed from the characters of the
operands to the end. Each of the four counts is the last of its operands that can be read: one that is
empty, misspelt or too large leaves the number of an earlier one in place. A limit or an amount to
skip then settles the window alone. Only where both are missing do the page and its size count, and
the amount to skip is their exact product, cut at the largest count.

The reader of counts and the fold over operands meet here in `lastCount?_eq_iff`. Past that lemma no
proof looks at text again.
-/

namespace ParamFilter

namespace Text

/-- A text spells a number when it is an optional plus sign and decimal digits, at least one of
them, that denote the number. Numbers above the largest count have no spelling. -/
def SpellsCount (text : List Char) (n : Nat) : Prop :=
  ∃ digits, (text = digits ∨ text = '+' :: digits) ∧ digits ≠ [] ∧
    (∀ c ∈ digits, c.isDigit = true) ∧ digitsValue digits = n ∧ n ≤ maxCount

/-- A text that does not start with a plus sign is a run of digits itself. -/
theorem count?_of_unsigned {text : List Char} (unsigned : ∀ rest, text ≠ '+' :: rest) :
    count? text =
      if isDigits text && digitsValue text ≤ maxCount then some (digitsValue text) else none := by
  unfold count?
  split
  · next rest => exact absurd rfl (unsigned rest)
  · rfl

/-- Reading a count accepts exactly its spellings. A plus sign is no digit, so a text that starts
with one can only be spelled with the sign. -/
theorem count?_eq_some_iff {text : List Char} {n : Nat} :
    count? text = some n ↔ SpellsCount text n := by
  have run : ∀ digits : List Char,
      (if isDigits digits && digitsValue digits ≤ maxCount then some (digitsValue digits) else none) =
        some n ↔
      digits ≠ [] ∧ (∀ c ∈ digits, c.isDigit = true) ∧ digitsValue digits = n ∧ n ≤ maxCount := by
    intro digits
    simp only [Option.ite_none_right_eq_some, Bool.and_eq_true, decide_eq_true_eq, isDigits_iff,
      Option.some.injEq]
    constructor
    · rintro ⟨⟨⟨filled, allDigits⟩, bounded⟩, rfl⟩
      exact ⟨filled, allDigits, rfl, bounded⟩
    · rintro ⟨filled, allDigits, rfl, bounded⟩
      exact ⟨⟨⟨filled, allDigits⟩, bounded⟩, rfl⟩
  by_cases signed : ∃ rest, text = '+' :: rest
  · obtain ⟨rest, rfl⟩ := signed
    have behindSign : count? ('+' :: rest) = some n ↔ _ := run rest
    rw [behindSign]
    constructor
    · intro spelled
      exact ⟨rest, .inr rfl, spelled⟩
    · rintro ⟨digits, whole | whole, spelled⟩
      · have plus : '+' ∈ digits := whole ▸ List.mem_cons_self
        exact absurd (spelled.2.1 '+' plus) (by decide)
      · obtain rfl : rest = digits := (List.cons.inj whole).2
        exact spelled
  · have unsigned : ∀ rest, text ≠ '+' :: rest := fun rest whole => signed ⟨rest, whole⟩
    rw [count?_of_unsigned unsigned, run text]
    constructor
    · intro spelled
      exact ⟨text, .inl rfl, spelled⟩
    · rintro ⟨digits, rfl | whole, spelled⟩
      · exact spelled
      · exact absurd whole (unsigned digits)

end Text

namespace Operand

/-- The value of a chunk, without its operator and the blanks around it, spells a number. -/
def Counts (chunk : String) (n : Nat) : Prop :=
  Text.SpellsCount (Text.trim (ofChunk chunk).value.toList) n

/-- The number that the value of a chunk spells. -/
def count? (chunk : String) : Option Nat := Text.count? (Text.trim (ofChunk chunk).value.toList)

theorem count?_eq_some_iff {chunk : String} {n : Nat} : count? chunk = some n ↔ Counts chunk n :=
  Text.count?_eq_some_iff

theorem count?_eq_none_iff {chunk : String} : count? chunk = none ↔ ∀ n, ¬Counts chunk n := by
  simp only [← count?_eq_some_iff, Option.eq_none_iff_forall_ne_some, ne_eq]

/-- The number of the last chunk that spells one, or nothing where none does. -/
def LastCount (chunks : List String) : Option Nat → Prop
  | some n => ∃ before chunk after, chunks = before ++ chunk :: after ∧ Counts chunk n ∧
      ∀ later ∈ after, ∀ m, ¬Counts later m
  | none => ∀ chunk ∈ chunks, ∀ n, ¬Counts chunk n

/-- Chunks none of which spells a number give none. -/
theorem filterMap_count?_eq_nil_iff {chunks : List String} :
    chunks.filterMap count? = [] ↔ ∀ chunk ∈ chunks, ∀ n, ¬Counts chunk n := by
  simp only [List.filterMap_eq_nil_iff, count?_eq_none_iff]

/-- The last number that is read is the number of the last chunk that spells one. -/
theorem getLast?_filterMap_count?_eq_iff {chunks : List String} {count : Option Nat} :
    (chunks.filterMap count?).getLast? = count ↔ LastCount chunks count := by
  cases count with
  | none => rw [List.getLast?_eq_none_iff, filterMap_count?_eq_nil_iff, LastCount]
  | some n =>
    constructor
    · intro last
      obtain ⟨earlier, numbers⟩ := List.getLast?_eq_some_iff.mp last
      obtain ⟨front, back, rfl, _, one⟩ := List.filterMap_eq_append_iff.mp numbers
      obtain ⟨skipped, chunk, after, rfl, _, read, behind⟩ := List.filterMap_eq_cons_iff.mp one
      exact ⟨front ++ skipped, chunk, after, by simp, count?_eq_some_iff.mp read,
        filterMap_count?_eq_nil_iff.mp behind⟩
    · rintro ⟨before, chunk, after, rfl, counts, idle⟩
      have behind : after.filterMap count? = [] := filterMap_count?_eq_nil_iff.mpr idle
      rw [List.filterMap_append, List.filterMap_cons_some (count?_eq_some_iff.mpr counts), behind,
        List.getLast?_concat]

end Operand

namespace Effect

/-- A chunk under the key of a count sets it to the number that it spells, and a chunk that spells
none leaves the count as it is. -/
theorem revise_count (schema : Schema) (key : CountKey) (held : Option Nat) (chunk : String) :
    revise schema key.name (.count key) held chunk = (Operand.count? chunk).or held := by
  have route : Route.ofKey key.name = .count key := Route.ofKey_eq_count_iff.mpr rfl
  cases counted : Operand.count? chunk with
  | some n =>
    have filled : (Operand.ofChunk chunk).value ≠ "" := by
      intro empty
      rw [Operand.count?, empty] at counted
      cases counted
    rw [revise_of_makes (.count route filled counted)]
    simp [Write.revise]
  | none =>
    apply revise_of_not_makes
    intro write made
    cases made with
    | count other _ read =>
      rw [Operand.count?, read] at counted
      cases counted
    | combination other => cases route.symm.trans other
    | commaList other => cases route.symm.trans other
    | condition other => cases route.symm.trans other

/-- Chunks under the key of a count leave the last number that they spell.

Induct over the chunks. The first one is overruled by any later number, and without one it decides
over what the count held before. -/
theorem foldl_revise_count (schema : Schema) (key : CountKey) (held : Option Nat)
    (chunks : List String) :
    chunks.foldl (revise schema key.name (.count key)) held =
      (chunks.filterMap Operand.count?).getLast?.or held := by
  induction chunks generalizing held with
  | nil => rfl
  | cons chunk rest ih =>
    rw [List.foldl_cons, ih, revise_count]
    cases counted : Operand.count? chunk with
    | none => rw [List.filterMap_cons_none counted, Option.none_or]
    | some n =>
      rw [List.filterMap_cons_some counted, List.getLast?_cons, Option.some_or]
      cases (rest.filterMap Operand.count?).getLast? <;> rfl

end Effect

/-- The count that parameters hold under its key. -/
def Params.lastCount? (params : Params) (key : CountKey) : Option Nat :=
  ((params.chunks key.name).filterMap Operand.count?).getLast?

/-- A count is the number of the last chunk under its key that spells one. -/
theorem Params.lastCount?_eq_iff {params : Params} {key : CountKey} {count : Option Nat} :
    params.lastCount? key = count ↔ Operand.LastCount (params.chunks key.name) count :=
  Operand.getLast?_filterMap_count?_eq_iff

/-- Reading a request sets every count to what the parameters hold, whatever else they hold. -/
theorem Request.count?_ofParams (schema : Schema) (params : Params) (key : CountKey) :
    (ofParams schema params).directives.count? key = params.lastCount? key := by
  have folded := at?_ofParams schema params (.count key)
  rw [Slot.key, Effect.foldl_revise_count, Option.or_none] at folded
  exact folded

namespace Plan

/-- The amount to skip is exact up to the largest count, and page zero counts as the first. -/
theorem pageSkip_eq (page perPage : Nat) :
    pageSkip page perPage = min (2 ^ 64 - 1) ((max page 1 - 1) * perPage) := by
  have first : max page 1 - 1 = page - 1 := by omega
  rw [pageSkip, first]
  rfl

section Window

variable {directives : Directives}

/-- A limit or an amount to skip is the window, and pages have no say in it. -/
theorem window_of_offset (offset : directives.limit.isSome = true ∨ directives.skip.isSome = true)
    (paging : Paging) : window directives paging = (directives.limit, directives.skip) := by
  have used : directives.usesOffset = true := by simpa [Directives.usesOffset] using offset
  rw [window, if_pos used]

/-- Without an offset a page or its size gives the window, and the default stands in for the one
that is missing. -/
theorem window_of_page (noLimit : directives.limit = none) (noSkip : directives.skip = none)
    (paged : directives.page.isSome = true ∨ directives.perPage.isSome = true) (paging : Paging) :
    window directives paging =
      (some (directives.perPage.getD paging.perPage),
        some (min (2 ^ 64 - 1) ((max (directives.page.getD paging.page) 1 - 1) *
          directives.perPage.getD paging.perPage))) := by
  have unused : ¬directives.usesOffset = true := by simp [Directives.usesOffset, noLimit, noSkip]
  have given : (directives.page.isSome || directives.perPage.isSome) = true := by simpa using paged
  rw [← pageSkip_eq, window, if_neg unused, if_pos given]

/-- Without any count there is no window. -/
theorem window_of_nothing (noLimit : directives.limit = none) (noSkip : directives.skip = none)
    (noPage : directives.page = none) (noSize : directives.perPage = none) (paging : Paging) :
    window directives paging = (none, none) := by
  simp [window, Directives.usesOffset, noLimit, noSkip, noPage, noSize]

end Window

/-- The window of a plan is what exact arithmetic makes of the last readable operand of each count.

The first part says which operand that is. The other parts are the three cases of the window: an
offset counts alone, whatever the pages and the defaults are; a page or its size counts when there is
no offset; and without any of the four there is no window. -/
theorem window_ofParams (schema : Schema) (params : Params) (options : PlanOptions) :
    let limit := params.lastCount? .limit
    let skip := params.lastCount? .skip
    let page := params.lastCount? .page
    let perPage := params.lastCount? .perPage
    let plan := ofRequest (Request.ofParams schema params) options
    (∀ (key : CountKey) (count : Option Nat),
      params.lastCount? key = count ↔ Operand.LastCount (params.chunks key.name) count) ∧
    (limit.isSome = true ∨ skip.isSome = true → plan.limit = limit ∧ plan.skip = skip) ∧
    (limit = none → skip = none → page.isSome = true ∨ perPage.isSome = true →
      plan.limit = some (perPage.getD options.paging.perPage) ∧
      plan.skip = some (min (2 ^ 64 - 1) ((max (page.getD options.paging.page) 1 - 1) *
        perPage.getD options.paging.perPage))) ∧
    (limit = none → skip = none → page = none → perPage = none →
      plan.limit = none ∧ plan.skip = none) := by
  intro limit skip page perPage plan
  have limitHeld := Request.count?_ofParams schema params .limit
  have skipHeld := Request.count?_ofParams schema params .skip
  have pageHeld := Request.count?_ofParams schema params .page
  have perPageHeld := Request.count?_ofParams schema params .perPage
  simp only [Directives.count?] at limitHeld skipHeld pageHeld perPageHeld
  refine ⟨fun key count => Params.lastCount?_eq_iff, ?_, ?_, ?_⟩
  · intro offset
    have settled := window_of_offset (by rwa [limitHeld, skipHeld]) options.paging
    rw [limitHeld, skipHeld] at settled
    exact Prod.mk.inj settled
  · intro noLimit noSkip paged
    have settled := window_of_page (limitHeld.trans noLimit) (skipHeld.trans noSkip)
      (by rwa [pageHeld, perPageHeld]) options.paging
    rw [pageHeld, perPageHeld] at settled
    exact Prod.mk.inj settled
  · intro noLimit noSkip noPage noSize
    exact Prod.mk.inj (window_of_nothing (limitHeld.trans noLimit) (skipHeld.trans noSkip)
      (pageHeld.trans noPage) (perPageHeld.trans noSize) options.paging)

/-- A page whose second operand is no number keeps the first, and its product with the size is cut
at the largest count. With an amount to skip the same page and size have no say, and without
parameters there is no window. -/
theorem window_of_cut_page :
    let paged : Params := ⟨[("page", .single "\x7ba\x7d7\x7bb\x7dx"),
      ("per_page", .single " +9223372036854775808")], by decide⟩
    let offset : Params := ⟨[("page", .single "7"), ("skip", .multi ["5"])], by decide⟩
    let plan := fun params => ofRequest (Request.ofParams .empty params) {}
    (paged.lastCount? .limit = none ∧ paged.lastCount? .skip = none ∧
      (paged.lastCount? .page).isSome = true ∧
      (plan paged).limit = some 9223372036854775808 ∧
      (plan paged).skip = some 18446744073709551615) ∧
    ((offset.lastCount? .skip).isSome = true ∧
      (plan offset).limit = none ∧ (plan offset).skip = some 5) ∧
    (Params.empty.lastCount? .limit = none ∧ (plan .empty).limit = none) := by
  intro paged offset plan
  have noLimit : paged.lastCount? .limit = none := by cbv
  have noSkip : paged.lastCount? .skip = none := by cbv
  have page : paged.lastCount? .page = some 7 := by cbv
  have perPage : paged.lastCount? .perPage = some 9223372036854775808 := by cbv
  have skip : offset.lastCount? .skip = some 5 := by cbv
  have pagedWindow := (window_ofParams .empty paged {}).2.2.1 noLimit noSkip (.inl (by rw [page]; rfl))
  rw [page, perPage] at pagedWindow
  have offsetWindow := (window_ofParams .empty offset {}).2.1 (.inr (by rw [skip]; rfl))
  rw [skip] at offsetWindow
  have noWindow := (window_ofParams .empty .empty {}).2.2.2 rfl rfl rfl rfl
  refine ⟨⟨noLimit, noSkip, by rw [page]; rfl, pagedWindow.1, pagedWindow.2⟩, ⟨by rw [skip]; rfl, ?_,
    offsetWindow.2⟩, rfl, noWindow.1⟩
  exact offsetWindow.1

end Plan

end ParamFilter
