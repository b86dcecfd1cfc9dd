import Mathlib
import ParamFilter.Plan
import ParamFilter.Proofs.WrittenOperands

/-!
# Sort terms from one end to the other

An order is written as a comma list. Repeated values are joined by commas, the commas become spaces,
and the plan takes the words of that apart. Here the whole way is followed at once: the terms of a plan
are what is left when the value is cut at its commas and blanks alike, and one sign is read off each
piece. Terms that are written with a sign each come back as they were.

A value with an opening brace may hold an operator, and is not a matter of this module; neither is the
list of selected fields, which is passed on as it stands.
-/

namespace ParamFilter

namespace Param

/-- The values of a parameter with commas between them. -/
def joined : Param → String
  | single value => value
  | multi values => ",".intercalate values

end Param

namespace Operand

/-- A parameter is one chunk if its values hold something and do not open a brace. -/
theorem chunks_of_joined {param : Param} (filled : param.joined ≠ "")
    (plain : '\x7b' ∉ param.joined.toList) : chunks param = [param.joined] := by
  cases param with
  | single value => exact chunks_of_not_mem plain
  | multi values =>
    have present : values ≠ [] := by
      rintro rfl
      exact filled rfl
    exact chunks_multi present

end Operand

/-- A list of a request is the directive for what stands under its key, whatever else is asked for. -/
theorem Request.list?_ofParams (schema : Schema) {params : Params} {key : ListKey} {param : Param}
    (held : params.get? key.name = some param) (filled : param.joined ≠ "")
    (plain : '\x7b' ∉ param.joined.toList) :
    (ofParams schema params).directives.list? key = some (Sort.directive param.joined) := by
  have route : Route.ofKey key.name = .commaList key := Route.ofKey_eq_commaList_iff.mpr rfl
  have value : (Operand.ofChunk param.joined).value = param.joined := by
    rw [Operand.ofChunk_of_not_mem plain]
    rfl
  have made : Effect.Makes schema key.name param.joined (.commaList key (Sort.directive param.joined)) := by
    have written := @Effect.Makes.commaList schema _ param.joined key route (by rwa [value])
    rwa [value] at written
  have single : params.chunks key.name = [param.joined] := by
    rw [Params.chunks, held, Option.map_some, Option.getD_some, Operand.chunks_of_joined filled plain]
  have folded := at?_ofParams schema params (.commaList key)
  rw [Slot.key, single, List.foldl_cons, List.foldl_nil, Effect.revise_of_makes made] at folded
  simpa [Write.revise, at?] using folded

end ParamFilter

namespace ParamFilter.Sort

/-- What separates the terms of a value: a comma, or a blank of any sort. -/
def isSeparator (c : Char) : Bool := c == ',' || Text.isBlank c

/-- The pieces of a value between its separators, the empty ones too. -/
def pieces (value : String) : List (List Char) := value.toList.splitOnP isSeparator

/-- Reads a term off a piece: one sign at most, then the field. Without a field there is no term. -/
def Term.ofPiece? : List Char → Option Term
  | [] | ['-'] | ['+'] => none
  | '-' :: field => some ⟨String.ofList field, .descending⟩
  | '+' :: field => some ⟨String.ofList field, .ascending⟩
  | field => some ⟨String.ofList field, .ascending⟩

/-- A term as it is written with its sign. -/
def Term.written (term : Term) : String :=
  match term.order with
  | .descending => "-" ++ term.field
  | .ascending => "+" ++ term.field

/-- A field that a comma list can name. It may begin with a sign of its own. -/
structure Term.Spellable (term : Term) : Prop where
  named : term.field ≠ ""
  whole : ∀ c ∈ term.field.toList, isSeparator c = false
  plain : '\x7b' ∉ term.field.toList

/-- Spelling can be checked character by character. -/
instance (term : Term) : Decidable term.Spellable :=
  decidable_of_iff (term.field ≠ "" ∧ term.field.toList.all (!isSeparator ·) = true ∧
      '\x7b' ∉ term.field.toList)
    ⟨fun ⟨named, whole, plain⟩ => ⟨named, by simpa using whole, plain⟩,
      fun ⟨named, whole, plain⟩ => ⟨named, by simpa using whole, plain⟩⟩

/-- The terms of a comma list, written one behind the other. -/
def written (terms : List Term) : String := ",".intercalate (terms.map Term.written)

/-- Commas that become spaces separate like the blanks that are there already. No piece holds a comma,
so no piece changes. -/
theorem splitOnP_directive (value : String) :
    (directive value).toList.splitOnP Text.isBlank = pieces value := by
  rw [directive, String.toList_ofList, pieces]
  induction value.toList with
  | nil => rfl
  | cons c rest ih =>
    rw [List.map_cons, List.splitOnP_cons_eq_if_modifyHead, List.splitOnP_cons_eq_if_modifyHead, ih]
    by_cases comma : c = ','
    · have blank : Text.isBlank ' ' = true := by decide
      simp [isSeparator, comma, blank]
    · simp [isSeparator, comma]

/-- A piece that is not empty is a term if the word that it is has a field. -/
theorem Term.ofPiece?_of_ne_nil {word : List Char} (filled : word ≠ []) :
    ofPiece? word = if (ofWord word).field ≠ "" then some (ofWord word) else none := by
  unfold ofPiece?
  split <;> simp_all [ofWord]

/-- Leaving out the words that are empty and the terms without a field is reading the pieces. -/
theorem filter_map_ofWord (pieces : List (List Char)) :
    ((pieces.filter (!·.isEmpty)).map Term.ofWord).filter (·.field ≠ "") =
      pieces.filterMap Term.ofPiece? := by
  induction pieces with
  | nil => rfl
  | cons word rest ih =>
    by_cases empty : word = []
    · subst empty
      have dropped : Term.ofPiece? [] = none := rfl
      rw [List.filterMap_cons_none dropped, ← ih]
      simp
    · rw [List.filterMap_cons, Term.ofPiece?_of_ne_nil empty, ← ih]
      by_cases fieldless : (Term.ofWord word).field = ""
      · simp [empty, fieldless]
      · simp [empty, fieldless]

/-- The terms of a directive are those of the pieces of its list. -/
theorem terms_directive (value : String) :
    terms (directive value) = (pieces value).filterMap Term.ofPiece? := by
  rw [terms, Text.words, splitOnP_directive, filter_map_ofWord]

/-- A sign and a field are read as they were written, also if the field begins with a sign. -/
theorem Term.ofPiece?_written {term : Term} (named : term.field ≠ "") :
    ofPiece? term.written.toList = some term := by
  obtain ⟨field, order⟩ := term
  have word : ofWord (written ⟨field, order⟩).toList = ⟨field, order⟩ := by
    cases order <;> simp [written, ofWord]
  have filled : (written ⟨field, order⟩).toList ≠ [] := by
    cases order <;> simp [written]
  rw [ofPiece?_of_ne_nil filled, word, if_pos named]

/-- Neither sign separates, so a written term is one piece. -/
theorem Term.Spellable.not_isSeparator {term : Term} (spellable : term.Spellable) :
    ∀ c ∈ term.written.toList, isSeparator c = false := by
  obtain ⟨field, order⟩ := term
  have minus : isSeparator '-' = false := by decide
  have plus : isSeparator '+' = false := by decide
  have field := spellable.whole
  cases order <;> simpa [written, minus, plus] using field

/-- Neither sign is a brace. -/
theorem Term.Spellable.open_not_mem {term : Term} (spellable : term.Spellable) :
    '\x7b' ∉ term.written.toList := by
  obtain ⟨field, order⟩ := term
  have field := spellable.plain
  cases order <;> simpa [written] using field

/-- The list of a term and more behind it. -/
theorem written_cons {term : Term} {rest : List Term} (more : rest ≠ []) :
    (written (term :: rest)).toList = term.written.toList ++ ',' :: (written rest).toList := by
  rw [written, List.map_cons, String.intercalate_cons_of_ne_nil (by simpa using more), ← written]
  simp

/-- The pieces of a written list are its written terms. -/
theorem pieces_written {terms : List Term} (present : terms ≠ [])
    (spellable : ∀ term ∈ terms, term.Spellable) :
    pieces (written terms) = terms.map (·.written.toList) := by
  induction terms with
  | nil => exact absurd rfl present
  | cons term rest ih =>
    have first := (spellable term List.mem_cons_self).not_isSeparator
    by_cases last : rest = []
    · subst last
      have alone : written [term] = term.written := by simp [written]
      rw [pieces, alone, List.splitOnP_eq_singleton first]
      rfl
    · have others := ih last fun later member => spellable later (List.mem_cons_of_mem _ member)
      rw [pieces] at others
      rw [pieces, written_cons last, List.splitOnP_append_cons _ _ (by decide),
        List.splitOnP_eq_singleton first, others]
      rfl

/-- A written list opens no brace. -/
theorem open_not_mem_written {terms : List Term} (spellable : ∀ term ∈ terms, term.Spellable) :
    '\x7b' ∉ (written terms).toList := by
  induction terms with
  | nil => simp [written]
  | cons term rest ih =>
    have first := (spellable term List.mem_cons_self).open_not_mem
    have others := ih fun later member => spellable later (List.mem_cons_of_mem _ member)
    by_cases last : rest = []
    · subst last
      simpa [written] using first
    · rw [written_cons last]
      simp [first, others]

/-- A written list is read back. -/
theorem filterMap_pieces_written {terms : List Term} (present : terms ≠ [])
    (spellable : ∀ term ∈ terms, term.Spellable) :
    (pieces (written terms)).filterMap Term.ofPiece? = terms := by
  rw [pieces_written present spellable, List.filterMap_map]
  have read : ∀ term ∈ terms, (Term.ofPiece? ∘ fun term => term.written.toList) term = some term :=
    fun term member => Term.ofPiece?_written (spellable term member).named
  rw [List.filterMap_congr read, List.filterMap_some]

/-- A list with a term in it is not empty, because nothing is read off the empty text. -/
theorem written_ne_empty {terms : List Term} (present : terms ≠ [])
    (spellable : ∀ term ∈ terms, term.Spellable) : written terms ≠ "" := by
  intro empty
  have read := filterMap_pieces_written present spellable
  have nothing : (pieces "").filterMap Term.ofPiece? = [] := rfl
  rw [empty, nothing] at read
  exact present read.symm

end ParamFilter.Sort

namespace ParamFilter.Plan

/-- The order of a plan is the order that was asked for.

Whatever else a request holds, its plan has the terms that are left of the value of the order when it is
cut at every comma and every blank: pieces without a field are dropped, one sign is read, and nothing is
reordered. In particular a list that is written with a sign in front of each field comes back whole.

Proof: the value is one chunk, because it opens no brace, so the directive is the value with spaces for
its commas; and its words are the pieces of the value. -/
theorem sortTerms_ofParams (schema : Schema) (options : PlanOptions) {params : Params} {param : Param}
    (held : params.get? "sort_by" = some param) :
    let plan := ofRequest (Request.ofParams schema params) options
    (param.joined ≠ "" → '\x7b' ∉ param.joined.toList →
      plan.sortTerms = (Sort.pieces param.joined).filterMap Sort.Term.ofPiece?) ∧
    ∀ terms : List Sort.Term, terms ≠ [] → (∀ term ∈ terms, term.Spellable) →
      param.joined = Sort.written terms → plan.sortTerms = terms := by
  intro plan
  have cut : param.joined ≠ "" → '\x7b' ∉ param.joined.toList →
      plan.sortTerms = (Sort.pieces param.joined).filterMap Sort.Term.ofPiece? := by
    intro filled plain
    have sorted : plan.sort = some (Sort.directive param.joined) :=
      @Request.list?_ofParams schema params .sort param held filled plain
    rw [sortTerms, sorted, Option.map_some, Option.getD_some, Sort.terms_directive]
  refine ⟨cut, ?_⟩
  intro terms present spellable same
  have filled : param.joined ≠ "" := same ▸ Sort.written_ne_empty present spellable
  have plain : '\x7b' ∉ param.joined.toList := same ▸ Sort.open_not_mem_written spellable
  rw [cut filled plain, same, Sort.filterMap_pieces_written present spellable]

/-- Two values with a blank between their terms, a sign alone and a second sign: four terms are left. A
field that begins with a sign comes back with it. -/
theorem four_terms_of_two_values :
    let repeated := Param.multi ["-price\u2003 name,,+", "--cost,+created"]
    let terms : List Sort.Term := [⟨"+cost", .ascending⟩, ⟨"name", .descending⟩]
    let request := fun sort : Param => (⟨[("page", .single "2"), ("sort_by", sort)], by simp⟩ : Params)
    let plan := fun params => ofRequest (Request.ofParams .empty params) {}
    ((request repeated).get? "sort_by" = some repeated ∧ repeated.joined ≠ "" ∧
      '\x7b' ∉ repeated.joined.toList ∧
      (plan (request repeated)).sortTerms = [⟨"price", .descending⟩, ⟨"name", .ascending⟩,
        ⟨"-cost", .descending⟩, ⟨"created", .ascending⟩]) ∧
    (terms ≠ [] ∧ (∀ term ∈ terms, term.Spellable) ∧ Sort.written terms = "++cost,-name" ∧
      (plan (request (.single "++cost,-name"))).sortTerms = terms) := by
  intro repeated terms request plan
  have filled : repeated.joined ≠ "" := by decide
  have plain : '\x7b' ∉ repeated.joined.toList := by decide
  have present : terms ≠ [] := by simp [terms]
  have spellable : ∀ term ∈ terms, term.Spellable := by decide
  have text : Sort.written terms = "++cost,-name" := by decide
  have held : ∀ sort, (request sort).get? "sort_by" = some sort := fun sort => rfl
  have cut := (sortTerms_ofParams .empty {} (held repeated)).1 filled plain
  have back := (sortTerms_ofParams .empty {} (held (.single "++cost,-name"))).2 terms present spellable
    text.symm
  refine ⟨⟨rfl, filled, plain, cut.trans ?_⟩, present, spellable, text, back⟩
  decide

end ParamFilter.Plan
