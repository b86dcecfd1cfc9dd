import ParamFilter.Params

/-!
# Operands

A parameter value may carry operators in braces: `{gte}18{lte}65` holds two operands. Reading takes two
steps. The value is first cut into chunks, one for each operand group found by a scan from the left; a
value without a group is one chunk. Then one brace expression is taken out of each chunk as its
operator, wherever it stands in the chunk, and what is left is the operand's value. Several values of
one parameter are joined by commas into one chunk and never cut.
-/

namespace ParamFilter

namespace Operand

/-- The characters of an operator name in a group. -/
def isWordChar (c : Char) : Bool := c.isAlphanum || c == '_'

/-- A brace of either kind. -/
def isBrace (c : Char) : Bool := c == '\x7b' || c == '\x7d'

/-- The group that a text starts with, and the text behind it. A group is an opening brace, a name, a
    closing brace, one character that is not a line feed, and as many characters as follow without a
    brace. The one character may itself be a brace. -/
def group? : List Char → Option (List Char × List Char)
  | '\x7b' :: text =>
    match text.takeWhile isWordChar, text.dropWhile isWordChar with
    | first :: name, '\x7d' :: c :: rest =>
      if c = '\n' then none
      else some ('\x7b' :: first :: name ++ '\x7d' :: c :: rest.takeWhile (!isBrace ·),
        rest.dropWhile (!isBrace ·))
    | _, _ => none
  | _ => none

/-- A group and the text behind it are the text, and the group is not empty. -/
theorem append_of_group? {text group rest : List Char} (found : group? text = some (group, rest)) :
    group ++ rest = text ∧ group ≠ [] := by
  unfold group? at found
  split at found
  · next text =>
    split at found
    · next first name c behind nameEq restEq =>
      split at found
      · cases found
      · obtain ⟨rfl, rfl⟩ := Prod.mk.inj (Option.some.inj found)
        refine ⟨?_, by simp⟩
        have whole : text.takeWhile isWordChar ++ text.dropWhile isWordChar = text :=
          List.takeWhile_append_dropWhile
        rw [nameEq, restEq] at whole
        simp [← whole]
    · cases found
  · cases found

theorem length_lt_of_group? {text group rest : List Char}
    (found : group? text = some (group, rest)) : rest.length < text.length := by
  obtain ⟨whole, notEmpty⟩ := append_of_group? found
  have positive := List.length_pos_iff.mpr notEmpty
  rw [← whole, List.length_append]
  omega

/-- The groups of a text: the scan takes a group wherever one starts and goes on behind it, and
    otherwise moves on by one character. -/
def groups (text : List Char) : List (List Char) :=
  match found : group? text with
  | some (group, rest) =>
    have := length_lt_of_group? found
    group :: groups rest
  | none =>
    match text with
    | [] => []
    | _ :: rest => groups rest
termination_by text.length

@[simp] theorem groups_nil : groups [] = [] := by
  rw [groups]
  rfl

theorem groups_of_group? {text group rest : List Char} (found : group? text = some (group, rest)) :
    groups text = group :: groups rest := by
  rw [groups]
  split
  · next same =>
    obtain ⟨rfl, rfl⟩ := Prod.mk.inj (Option.some.inj (found.symm.trans same))
    rfl
  · next none => rw [found] at none; cases none

theorem groups_cons_of_none {c : Char} {rest : List Char} (absent : group? (c :: rest) = none) :
    groups (c :: rest) = groups rest := by
  rw [groups]
  split
  · next found => rw [absent] at found; cases found
  · rfl

/-- The chunks of a parameter, one for each operand. -/
def chunks : Param → List String
  | .single value =>
    match groups value.toList with
    | [] => [value]
    | found => found.map String.ofList
  | .multi [] => []
  | .multi values => [",".intercalate values]

/-- What is between a brace and the last closing brace of its line, and what is behind that. -/
def uptoClose? : List Char → Option (List Char × List Char)
  | [] => none
  | c :: rest =>
    if c = '\n' then none
    else match uptoClose? rest with
      | some (inside, behind) => some (c :: inside, behind)
      | none => if c = '\x7d' then some ([], rest) else none

/-- The first brace expression of a text: what stands before it, in it and behind it. It starts at the
    first opening brace with a closing brace on the rest of its line, and ends at the last such. -/
def braced? : List Char → Option (List Char × List Char × List Char)
  | [] => none
  | c :: rest =>
    match if c = '\x7b' then uptoClose? rest else none with
    | some (inside, behind) => some ([], inside, behind)
    | none => (braced? rest).map fun (before, found) => (c :: before, found)

end Operand

/-- One operand of a parameter: the operator, if one was written, and the value. -/
structure Operand where
  operator : Option String
  value : String
  deriving DecidableEq, Repr

namespace Operand

/-- Takes the chunk as it is, for values that have braces of their own. -/
def verbatim (chunk : String) : Operand := ⟨none, chunk⟩

/-- Takes the first brace expression out of a chunk as its operator. An empty one is taken out too, but
    gives no operator. -/
def ofChunk (chunk : String) : Operand :=
  match braced? chunk.toList with
  | none => verbatim chunk
  | some (before, inside, behind) =>
    ⟨if inside.isEmpty then none else some (String.ofList inside), String.ofList (before ++ behind)⟩

end Operand

end ParamFilter
