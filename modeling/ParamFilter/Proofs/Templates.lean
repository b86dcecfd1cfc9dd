import Mathlib
import ParamFilter.Config.Placeholder

/-!
# Templates

A text with placeholders is cut where the placeholders stand, whatever stands between them, and filling it
in is one substitution from left to right. A value or a default goes in as it is: it is not cut again,
neither alone nor together with the text beside it. The first placeholder that nothing stands for is the
fault.

Texts in which a dollar sign and an opening brace start no placeholder, because the name is empty or the
brace stays open, are not templates and are not spoken of here.
-/

namespace ParamFilter

namespace Placeholder

/-- The end of a placeholder, behind its name. -/
def ending (placeholder : Placeholder) : List Char :=
  match placeholder.fallback with
  | none => ['\x7d']
  | some fallback => ':' :: '-' :: (fallback.toList ++ ['\x7d'])

/-- A placeholder as it is written. -/
def chars (placeholder : Placeholder) : List Char :=
  '$' :: '\x7b' :: (placeholder.name.toList ++ placeholder.ending)

/-- A placeholder that can be written. Its name is not empty and has neither a closing brace nor a colon,
and its default has no closing brace. -/
structure Spellable (placeholder : Placeholder) : Prop where
  filled : placeholder.name.toList ≠ []
  name : ∀ c ∈ placeholder.name.toList, c ≠ '\x7d' ∧ c ≠ ':'
  fallback : ∀ fallback, placeholder.fallback = some fallback → '\x7d' ∉ fallback.toList

/-- The text that stands for a placeholder, if there is one. The variable counts when it is set. -/
def text? (environment : String → Option String) (placeholder : Placeholder) : Option String :=
  (environment placeholder.name).or placeholder.fallback

/-- Without a text there is neither a value nor a default. -/
theorem text?_eq_none_iff {environment : String → Option String} {placeholder : Placeholder} :
    placeholder.text? environment = none ↔
      environment placeholder.name = none ∧ placeholder.fallback = none :=
  Option.or_eq_none_iff

/-- The end of a written placeholder reads back as the default, and what is behind stays. -/
theorem close?_ending_append {placeholder : Placeholder} (spellable : placeholder.Spellable)
    (behind : List Char) : close? (placeholder.ending ++ behind) = some (placeholder.fallback, behind) := by
  unfold ending
  split
  · next absent =>
    rw [absent]
    rfl
  · next fallback given =>
    have inside : ∀ c ∈ fallback.toList, (c != '\x7d') = true := fun c member =>
      bne_iff_ne.mpr fun same => spellable.fallback fallback given (same ▸ member)
    simp [close?, List.takeWhile_append_of_pos inside, List.dropWhile_append_of_pos inside, given]

/-- A written placeholder reads back, and what is behind stays: the name goes on to the first closing brace
or colon, which is where its end begins. -/
theorem ofText?_chars_append {placeholder : Placeholder} (spellable : placeholder.Spellable)
    (behind : List Char) : ofText? (placeholder.chars ++ behind) = some (placeholder, behind) := by
  have all : ∀ c ∈ placeholder.name.toList, isNameChar c = true := fun c member => by
    simpa [isNameChar] using spellable.name c member
  obtain ⟨last, rest, ends, stops⟩ : ∃ last rest,
      placeholder.ending ++ behind = last :: rest ∧ isNameChar last = false := by
    unfold ending
    split
    · exact ⟨_, _, rfl, rfl⟩
    · exact ⟨_, _, rfl, rfl⟩
  have named : (placeholder.name.toList ++ (placeholder.ending ++ behind)).takeWhile isNameChar =
      placeholder.name.toList := by
    rw [List.takeWhile_append_of_pos all, ends, List.takeWhile_cons_of_neg (by simp [stops]),
      List.append_nil]
  have ended : (placeholder.name.toList ++ (placeholder.ending ++ behind)).dropWhile isNameChar =
      placeholder.ending ++ behind := by
    rw [List.dropWhile_append_of_pos all, ends, List.dropWhile_cons_of_neg (by simp [stops])]
  simp only [chars, List.cons_append, List.append_assoc, ofText?, named, ended,
    close?_ending_append spellable]
  split
  · next empty => exact absurd empty spellable.filled
  · simp

/-- No placeholder starts without a dollar sign and an opening brace. -/
theorem ofText?_eq_none {text : List Char} (apart : ¬['$', '\x7b'] <+: text) : ofText? text = none := by
  unfold ofText?
  split
  · next rest => exact absurd ⟨rest, rfl⟩ apart
  · rfl

end Placeholder

namespace Piece

variable (environment : String → Option String)

/-- A text in which no placeholder starts is cut into its characters, and what is behind is cut as it is
alone. Only an opening brace right behind could make a placeholder of a dollar sign at the end. -/
theorem ofText_append {text behind : List Char} (unopened : ¬['$', '\x7b'] <:+: text)
    (apart : behind.head? ≠ some '\x7b') : ofText (text ++ behind) = text.map plain ++ ofText behind := by
  induction text with
  | nil => rfl
  | cons c rest ih =>
    have absent : ¬['$', '\x7b'] <+: c :: (rest ++ behind) := by
      rintro ⟨tail, same⟩
      obtain ⟨rfl, next⟩ := List.cons.inj same
      cases rest with
      | nil =>
        have first : '\x7b' :: tail = behind := next
        exact apart (first ▸ rfl)
      | cons d others =>
        obtain ⟨rfl, _⟩ := List.cons.inj next
        exact unopened ⟨[], others, rfl⟩
    have later : ¬['$', '\x7b'] <:+: rest := fun inside =>
      unopened (inside.trans (List.suffix_cons c rest).isInfix)
    rw [List.cons_append, ofText_cons_of_none (Placeholder.ofText?_eq_none absent), ih later,
      List.map_cons, List.cons_append]

/-- What stands for all pieces, one behind the other. The first piece that nothing stands for is the
fault. -/
def fill (pieces : List Piece) : Except Fault (List Char) :=
  (pieces.mapM (value environment)).map List.flatten

theorem fill_cons (piece : Piece) (pieces : List Piece) : fill environment (piece :: pieces) =
    match piece.value environment with
    | .ok chars => (fill environment pieces).map (chars ++ ·)
    | .error fault => .error fault := by
  rw [fill, List.mapM_cons]
  cases piece.value environment with
  | error fault => rfl
  | ok chars =>
    unfold fill
    cases pieces.mapM (value environment) <;> rfl

/-- Characters stand for themselves. -/
theorem fill_plain_append (text : List Char) (pieces : List Piece) :
    fill environment (text.map plain ++ pieces) = (fill environment pieces).map (text ++ ·) := by
  induction text with
  | nil =>
    rw [List.map_nil, List.nil_append]
    cases fill environment pieces <;> rfl
  | cons c rest ih =>
    rw [List.map_cons, List.cons_append, fill_cons, ih]
    cases fill environment pieces <;> rfl

/-- A placeholder is replaced by its text, and is the fault when it has none. -/
theorem value_named (placeholder : Placeholder) : (named placeholder).value environment =
    match placeholder.text? environment with
    | some text => .ok text.toList
    | none => .error (.unsetVariable placeholder.name) := by
  simp only [value, Placeholder.value, Placeholder.text?]
  cases environment placeholder.name with
  | some text => rfl
  | none => cases placeholder.fallback <;> rfl

end Piece

/-- A text with placeholders, taken apart: what stands in front of the first, and each placeholder with what
stands behind it. What stands between has no dollar sign with an opening brace, so that it could not be
taken for the start of a placeholder. -/
structure Template where
  lead : List Char
  parts : List (Placeholder × List Char)
  lead_plain : ¬['$', '\x7b'] <:+: lead
  parts_plain : ∀ part ∈ parts, ¬['$', '\x7b'] <:+: part.2
  spellable : ∀ part ∈ parts, part.1.Spellable

namespace Template

/-- The placeholders in order. -/
def placeholders (template : Template) : List Placeholder := template.parts.map Prod.fst

/-- The text as it is written. -/
def text (template : Template) : String :=
  String.ofList (template.lead ++ template.parts.flatMap fun part => part.1.chars ++ part.2)

/-- The text with something else in place of each placeholder. -/
def replaced (template : Template) (filler : Placeholder → String) : String :=
  String.ofList (template.lead ++ template.parts.flatMap fun part => (filler part.1).toList ++ part.2)

variable {environment : String → Option String}

/-- What stands in front of placeholders is never completed by them, because each begins with a dollar
sign. -/
theorem head?_parts_ne (parts : List (Placeholder × List Char)) :
    (parts.flatMap fun part => part.1.chars ++ part.2).head? ≠ some '\x7b' := by
  cases parts with
  | nil => simp
  | cons part rest => simp [Placeholder.chars]

/-- Behind the lead, either all placeholders are replaced, or the first one without a text is the fault.

Induct over the placeholders. Each is cut off where it stands, and what stands behind it is cut into its
characters up to the next. -/
theorem fill_parts {parts : List (Placeholder × List Char)}
    (plain : ∀ part ∈ parts, ¬['$', '\x7b'] <:+: part.2)
    (spellable : ∀ part ∈ parts, part.1.Spellable) :
    Piece.fill environment (Piece.ofText (parts.flatMap fun part => part.1.chars ++ part.2)) =
      match (parts.map Prod.fst).find? (·.text? environment = none) with
      | some placeholder => .error (.unsetVariable placeholder.name)
      | none => .ok (parts.flatMap fun part => ((part.1.text? environment).getD "").toList ++ part.2) := by
  induction parts with
  | nil => rw [List.flatMap_nil, Piece.ofText_nil]; rfl
  | cons part rest ih =>
    obtain ⟨placeholder, behind⟩ := part
    obtain ⟨behindPlain, restPlain⟩ := List.forall_mem_cons.mp plain
    obtain ⟨written, restWritten⟩ := List.forall_mem_cons.mp spellable
    have pieces : Piece.ofText
        (((placeholder, behind) :: rest).flatMap fun part => part.1.chars ++ part.2) =
        .named placeholder :: (behind.map .plain ++
          Piece.ofText (rest.flatMap fun part => part.1.chars ++ part.2)) := by
      rw [List.flatMap_cons, List.append_assoc,
        Piece.ofText_of_ofText? (Placeholder.ofText?_chars_append written _),
        Piece.ofText_append behindPlain (head?_parts_ne rest)]
    rw [pieces, Piece.fill_cons, Piece.value_named, Piece.fill_plain_append, ih restPlain restWritten,
      List.map_cons]
    cases found : placeholder.text? environment with
    | none => rw [List.find?_cons_of_pos (by simp [found])]
    | some text =>
      rw [List.find?_cons_of_neg (by simp [found]), List.flatMap_cons, found]
      cases (rest.map Prod.fst).find? (·.text? environment = none) with
      | none => simp [Except.map]
      | some first => rfl

/-- Filling in a template is one substitution from left to right.

If something stands for every placeholder, it takes the place of the placeholder, and all else stays as it
is. A variable that is set counts, even as the empty text and even against a default; values and defaults
may be any texts. Otherwise the first placeholder that nothing stands for is the fault, and there is no
other way to fail. -/
theorem expand_text (environment : String → Option String) (template : Template) :
    (Placeholder.expand environment template.text =
      match template.placeholders.find? (·.text? environment = none) with
      | some placeholder => .error (.unsetVariable placeholder.name)
      | none => .ok (template.replaced fun placeholder => (placeholder.text? environment).getD "")) ∧
    ((∃ fault, Placeholder.expand environment template.text = .error fault) ↔
      ∃ placeholder ∈ template.placeholders,
        environment placeholder.name = none ∧ placeholder.fallback = none) := by
  have filled : Placeholder.expand environment template.text =
      (Piece.fill environment (Piece.ofText template.text.toList)).map String.ofList := by
    rw [Placeholder.expand, Piece.fill]
    cases (Piece.ofText template.text.toList).mapM (Piece.value environment) <;> rfl
  have result : Placeholder.expand environment template.text =
      match template.placeholders.find? (·.text? environment = none) with
      | some placeholder => .error (.unsetVariable placeholder.name)
      | none => .ok (template.replaced fun placeholder => (placeholder.text? environment).getD "") := by
    rw [filled, text, String.toList_ofList, Piece.ofText_append template.lead_plain (head?_parts_ne _),
      Piece.fill_plain_append, fill_parts template.parts_plain template.spellable, placeholders, replaced]
    cases (template.parts.map Prod.fst).find? (·.text? environment = none) <;> rfl
  refine ⟨result, ?_⟩
  rw [result]
  simp only [← Placeholder.text?_eq_none_iff]
  cases found : template.placeholders.find? (·.text? environment = none) with
  | some placeholder =>
    have unset : placeholder.text? environment = none := by simpa using List.find?_some found
    exact ⟨fun _ => ⟨placeholder, List.mem_of_find?_eq_some found, unset⟩, fun _ => ⟨_, rfl⟩⟩
  | none =>
    constructor
    · rintro ⟨fault, failed⟩
      cases failed
    · rintro ⟨placeholder, member, unset⟩
      exact absurd unset (by simpa using List.find?_eq_none.mp found placeholder member)

/-- A value that names its own variable goes in as it is, behind a dollar sign that was there before, and so
does a default that becomes a placeholder only with the brace behind it. Without the variable there is no
other text for it. -/
theorem host_names_itself :
    let named : String → Option String := fun name => if name = "HOST" then some "$\x7bHOST\x7d" else none
    let text := "a$$\x7bHOST\x7d:$\x7bPORT:-$\x7bHOST\x7d\x7d"
    Placeholder.expand named text = .ok "a$$\x7bHOST\x7d:$\x7bHOST\x7d" ∧
      Placeholder.expand (fun _ => none) text = .error (.unsetVariable "HOST") := by
  intro named text
  have host : Placeholder.Spellable ⟨"HOST", none⟩ :=
    ⟨by decide, by simp, fun fallback given => by cases given⟩
  have port : Placeholder.Spellable ⟨"PORT", some "$\x7bHOST"⟩ :=
    ⟨by decide, by simp, fun fallback given => by cases given; decide⟩
  let template : Template :=
    { lead := ['a', '$']
      parts := [(⟨"HOST", none⟩, [':']), (⟨"PORT", some "$\x7bHOST"⟩, ['\x7d'])]
      lead_plain := by decide
      parts_plain := by decide
      spellable := by simp [host, port] }
  have written : template.text = text := by rfl
  rw [← written]
  exact ⟨(expand_text named template).1.trans (by cbv), (expand_text _ template).1.trans (by rfl)⟩

end Template

end ParamFilter
