import Mathlib
import ParamFilter.Proofs.Slots

/-!
# Operands as they are written

A client writes several operands into one value, each as an operator in braces with its value
behind: `{gte}18{lte}65`. This module follows such a value through both stages of reading and to the
end. The scan from the left cuts it exactly at the opening braces, because nothing between them
looks like one; the brace match on each chunk then finds that chunk's own operator, because no
closing brace comes later. So the filter is what merging the operands one by one gives, and the
directives stay unset.

Text in front of the first brace is passed over by the scan, and a value without an opening brace is one
chunk with no operator. Values with braces of their own and values that begin with a line feed are
outside of what is said here.
-/

namespace ParamFilter

namespace Operand

/-- The characters of a written operand. -/
def spelled (name value : List Char) : List Char := '\x7b' :: name ++ '\x7d' :: value

/-- An operand as it is written: the operator in braces, then the value. -/
def written (name value : String) : String := "\x7b" ++ name ++ "\x7d" ++ value

/-- An operator and a value that can be told apart once they are written: the operator is a word,
and the value starts on the line of its operator and has no braces. -/
structure Writable (name value : List Char) : Prop where
  named : name ≠ []
  word : ∀ c ∈ name, isWordChar c = true
  filled : value ≠ []
  sameLine : value.head? ≠ some '\n'
  plain : ∀ c ∈ value, isBrace c = false

/-- Writing can be checked character by character. -/
instance (name value : List Char) : Decidable (Writable name value) :=
  decidable_of_iff (name ≠ [] ∧ name.all isWordChar = true ∧ value ≠ [] ∧
      value.head? ≠ some '\n' ∧ value.all (!isBrace ·) = true)
    ⟨fun ⟨named, word, filled, sameLine, plain⟩ =>
        ⟨named, List.all_eq_true.mp word, filled, sameLine, by simpa using plain⟩,
      fun ⟨named, word, filled, sameLine, plain⟩ =>
        ⟨named, List.all_eq_true.mpr word, filled, sameLine, by simpa using plain⟩⟩

theorem toList_written (name value : String) :
    (written name value).toList = spelled name.toList value.toList := by
  simp [written, spelled]

/-- No group starts at a character that is not an opening brace. -/
theorem group?_cons_of_ne {c : Char} (other : c ≠ '\x7b') (rest : List Char) :
    group? (c :: rest) = none := by
  unfold group?
  split
  · next same => exact absurd (List.cons.inj same).1 other
  · rfl

/-- The scan passes over text without an opening brace. -/
theorem groups_append_of_not_mem {before : List Char} (plain : '\x7b' ∉ before) (text : List Char) :
    groups (before ++ text) = groups text := by
  induction before with
  | nil => rfl
  | cons c rest ih =>
    have other : c ≠ '\x7b' := Ne.symm (List.ne_of_not_mem_cons plain)
    have others : '\x7b' ∉ rest := List.not_mem_of_not_mem_cons plain
    rw [List.cons_append, groups_cons_of_none (group?_cons_of_ne other _), ih others]

/-- Text without an opening brace has no groups. -/
theorem groups_of_not_mem {text : List Char} (plain : '\x7b' ∉ text) : groups text = [] := by
  have scanned := groups_append_of_not_mem plain []
  rwa [List.append_nil, groups_nil] at scanned

/-- A value without an opening brace is one chunk. -/
theorem chunks_of_not_mem {value : String} (plain : '\x7b' ∉ value.toList) :
    chunks (.single value) = [value] := by
  rw [chunks, groups_of_not_mem plain]

/-- Several values that are not empty are one chunk. -/
theorem chunks_multi {values : List String} (present : values ≠ []) :
    chunks (.multi values) = [",".intercalate values] := by
  obtain ⟨value, rest, rfl⟩ := List.exists_cons_of_ne_nil present
  rfl

/-- Without an opening brace there is no brace expression. -/
theorem braced?_of_not_mem {text : List Char} (plain : '\x7b' ∉ text) : braced? text = none := by
  induction text with
  | nil => rfl
  | cons c rest ih =>
    have other : c ≠ '\x7b' := Ne.symm (List.ne_of_not_mem_cons plain)
    rw [braced?, if_neg other, ih (List.not_mem_of_not_mem_cons plain)]
    rfl

/-- A chunk without an opening brace is its own value. -/
theorem ofChunk_of_not_mem {chunk : String} (plain : '\x7b' ∉ chunk.toList) :
    ofChunk chunk = verbatim chunk := by
  rw [ofChunk, braced?_of_not_mem plain]

/-- A run of characters of one class ends where a character of another class follows. -/
theorem span_append {inClass : Char → Bool} {run : List Char}
    (inside : ∀ c ∈ run, inClass c = true) (rest : List Char)
    (boundary : ∀ c, rest.head? = some c → inClass c = false) :
    (run ++ rest).takeWhile inClass = run ∧ (run ++ rest).dropWhile inClass = rest := by
  rw [List.takeWhile_append_of_pos inside, List.dropWhile_append_of_pos inside]
  cases rest with
  | nil => simp
  | cons c tail =>
    have outside : inClass c = false := boundary c rfl
    simp [outside]

/-- A group is made of a word in braces, one character on the same line, and the run of characters
that are no braces. It ends with the text or in front of a brace. -/
theorem group?_of_parts {name run rest : List Char} {c : Char} (named : name ≠ [])
    (word : ∀ x ∈ name, isWordChar x = true) (line : c ≠ '\n')
    (plain : ∀ x ∈ run, isBrace x = false)
    (ends : ∀ x, rest.head? = some x → isBrace x = true) :
    group? ('\x7b' :: (name ++ '\x7d' :: c :: (run ++ rest))) =
      some ('\x7b' :: (name ++ '\x7d' :: c :: run), rest) := by
  have nameRun := span_append word ('\x7d' :: c :: (run ++ rest)) (by simp; decide)
  have inside : ∀ x ∈ run, (!isBrace x) = true := fun x member => by simp [plain x member]
  have valueRun := span_append inside rest fun x head => by simp [ends x head]
  unfold group?
  simp only [nameRun.1, nameRun.2]
  cases name with
  | nil => exact absurd rfl named
  | cons first others => simp only [line, if_false, valueRun.1, valueRun.2, List.cons_append]

/-- A written operand is a group, and the group ends where the operand does: at the end of the text
or at the next brace. -/
theorem group?_spelled {name value rest : List Char} (writable : Writable name value)
    (ends : ∀ c, rest.head? = some c → isBrace c = true) :
    group? (spelled name value ++ rest) = some (spelled name value, rest) := by
  obtain ⟨c, run, rfl⟩ := List.exists_cons_of_ne_nil writable.filled
  have line : c ≠ '\n' := fun feed => writable.sameLine (by rw [feed]; rfl)
  have plain : ∀ x ∈ run, isBrace x = false := fun x member =>
    writable.plain x (List.mem_cons_of_mem c member)
  have found := group?_of_parts writable.named writable.word line plain ends
  simpa [spelled] using found

/-- The scan cuts a row of written operands into those operands.

Induct over the operands. Behind the first one stands nothing or the brace of the next, so its group
ends there and the scan goes on at the next operand. -/
theorem groups_spelled {operands : List (List Char × List Char)}
    (writable : ∀ operand ∈ operands, Writable operand.1 operand.2) :
    groups (operands.flatMap fun operand => spelled operand.1 operand.2) =
      operands.map fun operand => spelled operand.1 operand.2 := by
  induction operands with
  | nil => simp
  | cons operand rest ih =>
    have first : Writable operand.1 operand.2 := writable operand List.mem_cons_self
    have others : ∀ later ∈ rest, Writable later.1 later.2 := fun later member =>
      writable later (List.mem_cons_of_mem _ member)
    have ends : ∀ c, (rest.flatMap fun operand => spelled operand.1 operand.2).head? = some c →
        isBrace c = true := by
      intro c head
      cases rest with
      | nil => cases head
      | cons next more =>
        have open' : '\x7b' = c := by simpa [spelled] using head
        exact open' ▸ rfl
    rw [List.flatMap_cons, groups_of_group? (group?_spelled first ends), ih others, List.map_cons]

/-- Without a closing brace there is nothing to match. -/
theorem uptoClose?_of_not_mem {text : List Char} (unclosed : '\x7d' ∉ text) :
    uptoClose? text = none := by
  induction text with
  | nil => rfl
  | cons c rest ih =>
    have other : c ≠ '\x7d' := Ne.symm (List.ne_of_not_mem_cons unclosed)
    rw [uptoClose?, ih (List.not_mem_of_not_mem_cons unclosed)]
    simp [other]

/-- The brace match runs along a line up to a closing brace when no other closes behind it. -/
theorem uptoClose?_append {inside behind : List Char} (line : '\n' ∉ inside)
    (last : '\x7d' ∉ behind) : uptoClose? (inside ++ '\x7d' :: behind) = some (inside, behind) := by
  induction inside with
  | nil =>
    rw [List.nil_append, uptoClose?, uptoClose?_of_not_mem last]
    simp
  | cons c rest ih =>
    have other : c ≠ '\n' := Ne.symm (List.ne_of_not_mem_cons line)
    rw [List.cons_append, uptoClose?, ih (List.not_mem_of_not_mem_cons line)]
    simp [other]

/-- The brace match takes the text between the first brace and the last closing one as the operator,
whatever it is, as long as it stays on one line. -/
theorem ofChunk_written_of_line {inside value : String} (filled : inside ≠ "")
    (line : '\n' ∉ inside.toList) (last : '\x7d' ∉ value.toList) :
    ofChunk (written inside value) = ⟨some inside, value⟩ := by
  have found : braced? (written inside value).toList = some ([], inside.toList, value.toList) := by
    rw [toList_written, spelled, List.cons_append, braced?, if_pos rfl, uptoClose?_append line last]
  have notEmpty : inside.toList.isEmpty = false := by simpa using filled
  rw [ofChunk, found]
  simp [notEmpty]

/-- The brace match takes out of a written operand what was written: its operator and its value. -/
theorem ofChunk_written {name value : String} (writable : Writable name.toList value.toList) :
    ofChunk (written name value) = ⟨some name, value⟩ := by
  apply ofChunk_written_of_line
  · intro empty
    exact writable.named (by rw [empty]; rfl)
  · intro feed
    exact absurd (writable.word _ feed) (by decide)
  · intro brace
    exact absurd (writable.plain _ brace) (by decide)

/-- A value with groups has them as its chunks. -/
theorem chunks_single_of_groups {value : String} (found : groups value.toList ≠ []) :
    chunks (.single value) = (groups value.toList).map String.ofList := by
  cases scanned : groups value.toList with
  | nil => exact absurd scanned found
  | cons group others => simp [chunks, scanned]

/-- The chunks of a row of written operands are those operands, whatever stands in front without a
brace. -/
theorem chunks_written {before : String} {operands : List (String × String)}
    (plain : '\x7b' ∉ before.toList) (present : operands ≠ [])
    (writable : ∀ operand ∈ operands, Writable operand.1.toList operand.2.toList) :
    chunks (.single (before ++ String.join (operands.map fun operand => written operand.1 operand.2))) =
      operands.map fun operand => written operand.1 operand.2 := by
  have row : (String.join (operands.map fun operand => written operand.1 operand.2)).toList =
      (operands.map fun operand => (operand.1.toList, operand.2.toList)).flatMap
        fun operand => spelled operand.1 operand.2 := by
    rw [String.toList_join, List.flatMap_map, List.flatMap_map]
    simp only [toList_written]
  have found : groups (before ++
      String.join (operands.map fun operand => written operand.1 operand.2)).toList =
      operands.map fun operand => spelled operand.1.toList operand.2.toList := by
    rw [String.toList_append, groups_append_of_not_mem plain, row, groups_spelled]
    · rw [List.map_map]
      rfl
    · intro operand member
      obtain ⟨source, sourceMember, rfl⟩ := List.mem_map.mp member
      exact writable source sourceMember
  have notEmpty : groups (before ++
      String.join (operands.map fun operand => written operand.1 operand.2)).toList ≠ [] := by
    rw [found]
    exact fun none => present (List.map_eq_nil_iff.mp none)
  rw [chunks_single_of_groups notEmpty, found, List.map_map]
  apply List.map_congr_left
  intro operand _
  rw [Function.comp_apply, ← toList_written, String.ofList_toList]

end Operand

/-- The operands of one parameter are its chunks. -/
theorem Params.operands_ofList_singleton (key : String) (value : Param) :
    (ofList [(key, value)]).operands = (Operand.chunks value).map (key, ·) := by
  simp [operands, ofList, insert, empty, insertEntry]

/-- A written operand has a value, so its kind alone decides. -/
theorem Schema.chunkCondition?_written (schema : Schema) (key : String) {name value : String}
    (writable : Operand.Writable name.toList value.toList) :
    schema.chunkCondition? key (Operand.written name value) =
      schema.condition? key ⟨some name, value⟩ := by
  have filled : value ≠ "" := fun empty => writable.filled (by rw [empty]; rfl)
  rw [chunkCondition?, Operand.ofChunk_written writable, if_neg filled]

/-- The conditions of written operands are found operand by operand. -/
theorem Schema.filterMap_chunkCondition?_written (schema : Schema) (key : String)
    {operands : List (String × String)}
    (writable : ∀ operand ∈ operands, Operand.Writable operand.1.toList operand.2.toList) :
    (operands.map fun operand => Operand.written operand.1 operand.2).filterMap
        (schema.chunkCondition? key) =
      operands.filterMap fun operand => schema.condition? key ⟨some operand.1, operand.2⟩ := by
  rw [List.filterMap_map]
  apply List.filterMap_congr
  intro operand member
  exact schema.chunkCondition?_written key (writable operand member)

namespace Request

variable (schema : Schema)

/-- A chunk of a field adds its condition to the path of the field, if it gives one. -/
theorem step_field {key : String} (unreserved : key ∉ reservedKeys) (request : Request)
    (chunk : String) :
    step schema request (key, chunk) = match schema.chunkCondition? key chunk with
      | some condition => { request with filter := request.filter.merge key condition }
      | none => request := by
  cases given : schema.chunkCondition? key chunk with
  | some condition =>
    have made : Effect.Makes schema key chunk (.condition key condition) :=
      (Effect.makes_field_iff unreserved).mpr ⟨condition, given, rfl⟩
    exact step_of_makes schema made request
  | none =>
    apply step_of_not_makes
    intro write made
    obtain ⟨condition, other, _⟩ := (Effect.makes_field_iff unreserved).mp made
    cases given.symm.trans other

/-- Handling the chunks of a field adds their conditions in order and touches no directive. -/
theorem foldl_step_field {key : String} (unreserved : key ∉ reservedKeys) (request : Request)
    (chunks : List String) :
    (chunks.map (key, ·)).foldl (step schema) request =
      { request with
        filter := (chunks.filterMap (schema.chunkCondition? key)).foldl (·.merge key ·)
          request.filter } := by
  induction chunks generalizing request with
  | nil => rfl
  | cons chunk rest ih =>
    rw [List.map_cons, List.foldl_cons, step_field schema unreserved, ih]
    cases given : schema.chunkCondition? key chunk with
    | none => rw [List.filterMap_cons_none given]
    | some condition => rw [List.filterMap_cons_some given, List.foldl_cons]

/-- A request with one parameter, a field, asks for the conditions of its chunks, merged in order.
-/
theorem ofParams_field {key : String} (unreserved : key ∉ reservedKeys) (value : Param) :
    ofParams schema (Params.ofList [(key, value)]) =
      { filter := ((Operand.chunks value).filterMap (schema.chunkCondition? key)).foldl
          (·.merge key ·) .empty } := by
  rw [ofParams, Params.operands_ofList_singleton, foldl_step_field schema unreserved]

/-- A field whose value is a row of written operands gets exactly their conditions, merged in the
order in which they are written; directives stay unset. Each operand is coerced on its own, by the
kind that its own operator finds.

Proof: the chunks of the value are the written operands, each of them reads back as its operator and
its value, and a request with one field merges what its chunks give. -/
theorem ofParams_written_operands {key before : String} {operands : List (String × String)}
    (unreserved : key ∉ reservedKeys) (plain : '\x7b' ∉ before.toList) (present : operands ≠ [])
    (writable : ∀ operand ∈ operands,
      Operand.Writable operand.1.toList operand.2.toList) :
    ofParams schema (Params.ofList [(key, .single (before ++
        String.join (operands.map fun operand => Operand.written operand.1 operand.2)))]) =
      { filter := (operands.filterMap fun operand =>
          schema.condition? key ⟨some operand.1, operand.2⟩).foldl (·.merge key ·) .empty
        directives := {} } := by
  rw [ofParams_field schema unreserved, Operand.chunks_written plain present writable,
    schema.filterMap_chunkCondition?_written key writable]

/-- Three operands behind some text: the second is no comparison, so its literal replaces the first,
and the third replaces the literal. -/
theorem row_of_ages :
    let schema := Schema.empty.declare "age" ⟨.number, none⟩
    let operands := [("gte", "18"), ("eq", "30"), ("lt", "40")]
    "age" ∉ reservedKeys ∧ '\x7b' ∉ "at ".toList ∧ operands ≠ [] ∧
      (∀ operand ∈ operands, Operand.Writable operand.1.toList operand.2.toList) ∧
      (ofParams schema (Params.ofList
        [("age", .single "at \x7bgte\x7d18\x7beq\x7d30\x7blt\x7d40")])).filter.entries =
        [("age", .operators [("$lt", .text "40")])] := by
  intro schema operands
  have unreserved : "age" ∉ reservedKeys := by decide
  have plain : '\x7b' ∉ "at ".toList := by decide
  have present : operands ≠ [] := by simp [operands]
  have writable : ∀ operand ∈ operands,
      Operand.Writable operand.1.toList operand.2.toList := by decide
  have text : "at \x7bgte\x7d18\x7beq\x7d30\x7blt\x7d40" = "at " ++
      String.join (operands.map fun operand => Operand.written operand.1 operand.2) := by decide
  refine ⟨unreserved, plain, present, writable, ?_⟩
  rw [text, ofParams_written_operands schema unreserved plain present writable]
  cbv

end Request

end ParamFilter
