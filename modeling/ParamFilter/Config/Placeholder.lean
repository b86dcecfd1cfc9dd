import ParamFilter.Fault

/-!
# Placeholders

A configuration may name variables of the environment: `${NAME}`, or `${NAME:-default}` with a text for
when the variable is not set. The text is cut into pieces before any variable is looked up, so neither
values nor defaults are ever searched for placeholders.
-/

namespace ParamFilter

/-- A variable that a text names, and what stands for it when it is not set. -/
structure Placeholder where
  name : String
  fallback : Option String
  deriving DecidableEq, Repr

namespace Placeholder

/-- The characters of a name: all but a closing brace and a colon. -/
def isNameChar (c : Char) : Bool := c != '\x7d' && c != ':'

/-- What follows the name of a placeholder: a closing brace, or a default and a closing brace. Gives the
    default and the text behind the brace. -/
def close? : List Char → Option (Option String × List Char)
  | '\x7d' :: behind => some (none, behind)
  | ':' :: '-' :: text =>
    match text.dropWhile (· != '\x7d') with
    | _ :: behind => some (some (String.ofList (text.takeWhile (· != '\x7d'))), behind)
    | [] => none
  | _ => none

/-- The placeholder that a text starts with, and the text behind it. -/
def ofText? : List Char → Option (Placeholder × List Char)
  | '$' :: '\x7b' :: text =>
    match text.takeWhile isNameChar with
    | [] => none
    | name => (close? (text.dropWhile isNameChar)).map fun (fallback, behind) =>
      (⟨String.ofList name, fallback⟩, behind)
  | _ => none

theorem length_lt_of_close? {text behind : List Char} {fallback : Option String}
    (found : close? text = some (fallback, behind)) : behind.length < text.length := by
  unfold close? at found
  split at found
  · cases found
    simp
  · next text =>
    split at found
    · next c rest restEq =>
      cases found
      have shorter := (List.dropWhile_suffix (l := text) (· != '\x7d')).length_le
      rw [restEq] at shorter
      simp only [List.length_cons] at shorter ⊢
      omega
    · cases found
  · cases found

theorem length_lt_of_ofText? {text behind : List Char} {placeholder : Placeholder}
    (found : ofText? text = some (placeholder, behind)) : behind.length < text.length := by
  unfold ofText? at found
  split at found
  · next text =>
    split at found
    · cases found
    · obtain ⟨⟨fallback, rest⟩, closed, same⟩ := Option.map_eq_some_iff.mp found
      cases same
      have shorter := length_lt_of_close? closed
      have suffix := (List.dropWhile_suffix (l := text) isNameChar).length_le
      simp only [List.length_cons]
      omega
  · cases found

/-- What stands for a placeholder. A variable that is set counts even when it is empty. -/
def value (environment : String → Option String) (placeholder : Placeholder) : Except Fault (List Char) :=
  match environment placeholder.name, placeholder.fallback with
  | some value, _ => .ok value.toList
  | none, some fallback => .ok fallback.toList
  | none, none => .error (.unsetVariable placeholder.name)

end Placeholder

/-- A piece of a text with placeholders. -/
inductive Piece where
  | plain (c : Char)
  | named (placeholder : Placeholder)
  deriving DecidableEq, Repr

namespace Piece

/-- The pieces of a text: a placeholder wherever one starts, and otherwise one character. -/
def ofText (text : List Char) : List Piece :=
  match found : Placeholder.ofText? text with
  | some (placeholder, behind) =>
    have := Placeholder.length_lt_of_ofText? found
    named placeholder :: ofText behind
  | none =>
    match text with
    | [] => []
    | c :: rest => plain c :: ofText rest
termination_by text.length

@[simp] theorem ofText_nil : ofText [] = [] := by
  rw [ofText]
  rfl

theorem ofText_of_ofText? {text behind : List Char} {placeholder : Placeholder}
    (found : Placeholder.ofText? text = some (placeholder, behind)) :
    ofText text = named placeholder :: ofText behind := by
  rw [ofText]
  split
  · next same =>
    obtain ⟨rfl, rfl⟩ := Prod.mk.inj (Option.some.inj (found.symm.trans same))
    rfl
  · next none => rw [found] at none; cases none

theorem ofText_cons_of_none {c : Char} {rest : List Char}
    (absent : Placeholder.ofText? (c :: rest) = none) :
    ofText (c :: rest) = plain c :: ofText rest := by
  rw [ofText]
  split
  · next found => rw [absent] at found; cases found
  · rfl

/-- What stands for a piece. -/
def value (environment : String → Option String) : Piece → Except Fault (List Char)
  | plain c => .ok [c]
  | named placeholder => placeholder.value environment

end Piece

namespace Placeholder

/-- The placeholders of a text. -/
def all (text : String) : List Placeholder :=
  (Piece.ofText text.toList).filterMap fun
    | .plain _ => none
    | .named placeholder => some placeholder

/-- A text with its placeholders filled in. The first that cannot be filled is the fault. -/
def expand (environment : String → Option String) (text : String) : Except Fault String := do
  let values ← (Piece.ofText text.toList).mapM (Piece.value environment)
  return String.ofList values.flatten

end Placeholder

end ParamFilter
