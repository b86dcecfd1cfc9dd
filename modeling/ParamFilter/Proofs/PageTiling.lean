import Mathlib
import ParamFilter.Proofs.Digits
import ParamFilter.Proofs.PageWindow
import ParamFilter.Proofs.WrittenOperands

/-!
# Pages tile the rows

Requests that differ in the page they ask for, and name the same page size, cut the rows into pages
without gaps and without overlaps. Every row below the largest count is on one page and on no other.
The amount to skip is cut at the largest count, so beyond some page all pages begin there; none of the
rows in question lies behind that point, which is why the cut does no harm to them.

Page and size are followed from their decimal digits. Requests that give a limit or an amount to skip
have no pages.
-/

namespace ParamFilter

namespace Operand

variable {value : String}

/-- A run of digits opens no brace. -/
theorem open_not_mem_of_isDigits (digits : Text.isDigits value.toList = true) :
    '\x7b' ∉ value.toList := fun brace =>
  absurd ((Text.isDigits_iff.mp digits).2 _ brace) (by decide)

/-- A run of digits counts as the number that it denotes, unless that is too large. -/
theorem count?_of_isDigits (digits : Text.isDigits value.toList = true)
    (bounded : Text.digitsValue value.toList ≤ Text.maxCount) :
    count? value = some (Text.digitsValue value.toList) := by
  have whole : (ofChunk value).value = value := by
    rw [ofChunk_of_not_mem (open_not_mem_of_isDigits digits)]
    rfl
  obtain ⟨filled, all⟩ := Text.isDigits_iff.mp digits
  rw [count?_eq_some_iff, Counts, whole, Text.trim_of_isDigits digits]
  exact ⟨value.toList, .inl rfl, filled, all, rfl, bounded⟩

end Operand

namespace Params

variable {params : Params} {key : CountKey}

/-- A count in decimal digits is read back. -/
theorem lastCount?_of_decimal {n : Nat} (held : params.get? key.name = some (.single (toString n)))
    (bounded : n ≤ Text.maxCount) : params.lastCount? key = some n := by
  have text : (toString n).toList = Nat.toDigits 10 n := Nat.toList_repr
  have digits : Text.isDigits (toString n).toList = true := by
    rw [text]
    exact Text.isDigits_toDigits n
  have value : Text.digitsValue (toString n).toList = n := by rw [text, Text.digitsValue_toDigits]
  have counted := Operand.count?_of_isDigits digits (by rwa [value])
  rw [value] at counted
  have plain := Operand.open_not_mem_of_isDigits digits
  rw [lastCount?, chunks, held, Option.map_some, Option.getD_some, Operand.chunks_of_not_mem plain,
    List.filterMap_cons_some counted]
  rfl

/-- A count without a parameter is not set. -/
theorem lastCount?_of_absent (absent : params.get? key.name = none) : params.lastCount? key = none := by
  rw [lastCount?, chunks, absent]
  rfl

/-- Parameters that ask for a page of a size in decimal digits, and for no limit or amount to skip.
They may hold anything else besides. -/
structure AsksForPage (params : Params) (page perPage : Nat) : Prop where
  page : params.get? "page" = some (.single (toString page))
  perPage : params.get? "per_page" = some (.single (toString perPage))
  noLimit : params.get? "limit" = none
  noSkip : params.get? "skip" = none

end Params

namespace Plan

/-- A row is among the results that a plan gives: behind those that it passes over, and within its
limit. The sum is exact. -/
def Covers (plan : Plan) (row : Nat) : Prop :=
  ∃ limit skip, plan.limit = some limit ∧ plan.skip = some skip ∧ skip ≤ row ∧ row < skip + limit

variable {params : Params} {page perPage : Nat}

/-- The plan for a page gives as many results as a page holds, and skips the pages before. -/
theorem limit_skip_of_asksForPage (schema : Schema) (options : PlanOptions)
    (asks : params.AsksForPage page perPage) (pageBounded : page ≤ Text.maxCount)
    (perPageBounded : perPage ≤ Text.maxCount) :
    (ofRequest (Request.ofParams schema params) options).limit = some perPage ∧
      (ofRequest (Request.ofParams schema params) options).skip = some (pageSkip page perPage) := by
  have pageRead : params.lastCount? .page = some page :=
    Params.lastCount?_of_decimal asks.page pageBounded
  have perPageRead : params.lastCount? .perPage = some perPage :=
    Params.lastCount?_of_decimal asks.perPage perPageBounded
  have noLimit : params.lastCount? .limit = none := Params.lastCount?_of_absent asks.noLimit
  have noSkip : params.lastCount? .skip = none := Params.lastCount?_of_absent asks.noSkip
  have pageHeld := (Request.count?_ofParams schema params .page).trans pageRead
  have perPageHeld := (Request.count?_ofParams schema params .perPage).trans perPageRead
  simp only [Directives.count?] at pageHeld perPageHeld
  have settled := window_of_page ((Request.count?_ofParams schema params .limit).trans noLimit)
    ((Request.count?_ofParams schema params .skip).trans noSkip) (.inl (by rw [pageHeld]; rfl))
    options.paging
  rw [pageHeld, perPageHeld, Option.getD_some, Option.getD_some, ← pageSkip_eq] at settled
  exact Prod.mk.inj settled

/-- A row below the largest count lies behind the start of a page, and less than a page behind it,
exactly when the page is the one that division gives. Where the amount to skip is cut, the row lies
before it. -/
theorem pageSkip_le_and_lt_iff {row : Nat} (first : 1 ≤ page) (filled : 1 ≤ perPage)
    (below : row < Text.maxCount) :
    pageSkip page perPage ≤ row ∧ row < pageSkip page perPage + perPage ↔
      page = row / perPage + 1 := by
  obtain ⟨before, rfl⟩ : ∃ before, page = before + 1 := ⟨page - 1, by omega⟩
  have quotient := Nat.div_eq_iff (x := row) (y := before) filled
  rw [Nat.add_right_cancel_iff, eq_comm, quotient, pageSkip, Nat.add_sub_cancel]
  omega

/-- Later pages skip no less. -/
theorem pageSkip_mono (perPage : Nat) {page next : Nat} (later : page ≤ next) :
    pageSkip page perPage ≤ pageSkip next perPage := by
  have before : (page - 1) * perPage ≤ (next - 1) * perPage :=
    Nat.mul_le_mul_right perPage (Nat.sub_le_sub_right later 1)
  exact min_le_min_left _ before

/-- The plan for a page covers a row exactly when the page is the one that division gives. -/
theorem covers_iff_of_asksForPage (schema : Schema) (options : PlanOptions) {row : Nat}
    (asks : params.AsksForPage page perPage) (first : 1 ≤ page) (pageBounded : page ≤ Text.maxCount)
    (filled : 1 ≤ perPage) (perPageBounded : perPage ≤ Text.maxCount) (below : row < Text.maxCount) :
    (ofRequest (Request.ofParams schema params) options).Covers row ↔ page = row / perPage + 1 := by
  obtain ⟨limit, skip⟩ := limit_skip_of_asksForPage schema options asks pageBounded perPageBounded
  rw [← pageSkip_le_and_lt_iff first filled below, Covers, limit, skip]
  constructor
  · rintro ⟨_, _, ⟨⟩, ⟨⟩, covered⟩
    exact covered
  · intro covered
    exact ⟨perPage, pageSkip page perPage, rfl, rfl, covered⟩

/-- Pages tile the rows.

Let requests ask for each page of one size, whatever else they hold. Then every row below the largest
count is covered by the plan of exactly one page. This is the page that division gives, which is itself
a count. And the amount to skip never decreases from a page to a later one, also where it is cut. -/
theorem pages_tile (schema : Schema) (options : PlanOptions) {perPage row : Nat}
    (filled : 1 ≤ perPage) (bounded : perPage ≤ 2 ^ 64 - 1) (below : row < 2 ^ 64 - 1)
    {request : Nat → Params}
    (asks : ∀ page, 1 ≤ page → page ≤ 2 ^ 64 - 1 → (request page).AsksForPage page perPage) :
    let plan := fun page => ofRequest (Request.ofParams schema (request page)) options
    (∃! page, (1 ≤ page ∧ page ≤ 2 ^ 64 - 1) ∧ (plan page).Covers row) ∧
      (row / perPage + 1 ≤ 2 ^ 64 - 1 ∧ (plan (row / perPage + 1)).Covers row) ∧
      ∀ page next, 1 ≤ page → page ≤ next → next ≤ 2 ^ 64 - 1 →
        ∃ skip later, (plan page).skip = some skip ∧ (plan next).skip = some later ∧ skip ≤ later := by
  intro plan
  have covers : ∀ page, 1 ≤ page → page ≤ 2 ^ 64 - 1 →
      ((plan page).Covers row ↔ page = row / perPage + 1) := fun page first pageBounded =>
    covers_iff_of_asksForPage schema options (asks page first pageBounded) first pageBounded filled
      bounded below
  have first : 1 ≤ row / perPage + 1 := Nat.le_add_left 1 _
  have last : row / perPage + 1 ≤ 2 ^ 64 - 1 := lt_of_le_of_lt (Nat.div_le_self row perPage) below
  have covered : (plan (row / perPage + 1)).Covers row := (covers _ first last).mpr rfl
  refine ⟨⟨row / perPage + 1, ⟨⟨first, last⟩, covered⟩, ?_⟩, ⟨last, covered⟩, ?_⟩
  · rintro page ⟨⟨pageFirst, pageLast⟩, pageCovers⟩
    exact (covers page pageFirst pageLast).mp pageCovers
  · intro page next pageFirst later nextLast
    have pageLast : page ≤ 2 ^ 64 - 1 := later.trans nextLast
    have skips := limit_skip_of_asksForPage schema options (asks page pageFirst pageLast) pageLast bounded
    have nextSkips := limit_skip_of_asksForPage schema options
      (asks next (pageFirst.trans later) nextLast) nextLast bounded
    exact ⟨_, _, skips.2, nextSkips.2, pageSkip_mono perPage later⟩

/-- Two pages of 2 ^ 63 rows reach the last row below the largest count, which is on the second. -/
theorem second_of_huge_pages :
    let perPage := 2 ^ 63
    let request := fun page : Nat => (⟨[("name", .single "Ann"), ("page", .single (toString page)),
      ("per_page", .single (toString perPage))], by simp⟩ : Params)
    1 ≤ perPage ∧ perPage ≤ 2 ^ 64 - 1 ∧ 2 ^ 64 - 2 < 2 ^ 64 - 1 ∧
      (∀ page, 1 ≤ page → page ≤ 2 ^ 64 - 1 → (request page).AsksForPage page perPage) ∧
      (ofRequest (Request.ofParams .empty (request 2)) {}).Covers (2 ^ 64 - 2) := by
  intro perPage request
  have filled : 1 ≤ perPage := by decide
  have bounded : perPage ≤ 2 ^ 64 - 1 := by decide
  have below : 2 ^ 64 - 2 < 2 ^ 64 - 1 := by decide
  have asks : ∀ page, 1 ≤ page → page ≤ 2 ^ 64 - 1 → (request page).AsksForPage page perPage :=
    fun page _ _ => ⟨rfl, rfl, rfl, rfl⟩
  have second : (2 ^ 64 - 2) / perPage + 1 = 2 := by decide
  have covered := (pages_tile .empty {} filled bounded below asks).2.1.2
  rw [second] at covered
  exact ⟨filled, bounded, below, asks, covered⟩

end Plan

end ParamFilter
