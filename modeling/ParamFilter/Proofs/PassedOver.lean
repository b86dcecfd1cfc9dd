import Mathlib
import ParamFilter.Proofs.Slots

/-!
# Operands that are passed over

Nothing is dropped in silence. Reading a request takes the operands one by one, and each of them
either makes its one write, to the slot that its key owns, and has nothing to say for debugging; or
it leaves the request exactly as it was and gives one debug notice, which names its key. There is no
third way and no half-way. Which of the two happens depends on the operand alone: it writes where the
list of writes has a write for it. So the writes and the debug notices of a whole request can be listed
in the order of the operands.

Looking up a key may give trace notices on either way. They are not counted here, and why an operand
is passed over is not a matter of this module.
-/

namespace ParamFilter

namespace Notice

/-- The key of the operand that a notice says is passed over. The other notices are about no operand. -/
def skipped? : Notice → Option String
  | emptyValue key | emptyCombinator key | malformedCombinator key | notCount key _
  | noCondition key _ _ _ => some key
  | _ => none

/-- A debug notice about an operand under this key. Its text starts with the key, behind which there is
a colon, or the equals sign in front of the value. -/
structure Names (notice : Notice) (key : String) : Prop where
  debug : notice.level = .debug
  skipped : notice.skipped? = some key
  text : ∃ reason, notice.text = "Skipping " ++ key ++ ":" ++ reason ∨
    notice.text = "Skipping " ++ key ++ "=" ++ reason

/-- Every notice of passing over is for debugging and names the key in its text. -/
theorem names_of_skipped? {notice : Notice} {key : String} (skips : notice.skipped? = some key) :
    notice.Names key := by
  cases notice with
  | emptyValue held =>
    obtain rfl := Option.some.inj skips
    exact ⟨rfl, rfl, " empty value", .inl (by rw [String.append_assoc]; rfl)⟩
  | emptyCombinator held =>
    obtain rfl := Option.some.inj skips
    exact ⟨rfl, rfl, " value is empty", .inl (by rw [String.append_assoc]; rfl)⟩
  | malformedCombinator held =>
    obtain rfl := Option.some.inj skips
    exact ⟨rfl, rfl, " invalid JSON", .inl (by rw [String.append_assoc]; rfl)⟩
  | notCount held value =>
    obtain rfl := Option.some.inj skips
    exact ⟨rfl, rfl, Text.quoted value ++ ": not a count", .inr String.append_assoc⟩
  | noCondition held value kind operator =>
    obtain rfl := Option.some.inj skips
    refine ⟨rfl, rfl, Text.quoted value ++ (": no " ++ (kind.name ++
      (" condition for operator " ++ Text.quotedOption operator))), .inr ?_⟩
    exact String.append_assoc.trans <| String.append_assoc.trans <|
      String.append_assoc.trans String.append_assoc
  | _ => cases skips

/-- The debug notices of a list, in their order. -/
def debugs (notices : List Notice) : List Notice := notices.filter (·.level = .debug)

theorem debugs_append (former latter : List Notice) :
    debugs (former ++ latter) = debugs former ++ debugs latter :=
  List.filter_append former latter

/-- Trace notices are not for debugging. -/
theorem debugs_eq_nil_of_trace {notices : List Notice}
    (trace : ∀ notice ∈ notices, notice.level = .trace) : debugs notices = [] := by
  rw [debugs, List.filter_eq_nil_iff]
  intro notice member
  simp [trace notice member]

end Notice

open Notice (debugs)

/-- Looking up a key gives trace notices only. The descent says something where it ends, and nothing on
its way. -/
theorem Schema.level_of_mem_resolve (schema : Option Schema) (parent key : String)
    (operator : Option String) :
    ∀ notice ∈ (resolve schema parent key operator).notices, notice.level = .trace := by
  fun_induction resolve schema parent key operator with
  | case1 => simp [Notice.level]
  | case2 => simp [Notice.level]
  | case3 parent key schema dotted before behind declared found _ container ih => exact ih
  | case4 => simp [Notice.level]
  | case5 => simp [Notice.level]
  | case6 => simp

namespace Effect

/-- An effect that says nothing for debugging before its result, and whose result, where it is no
write, is a notice about this key. -/
structure SpeaksOf (key : String) (effect : Effect) : Prop where
  lookup : ∀ notice ∈ effect.lookup, notice.level = .trace
  passedOver : ∀ notice, effect.result = .error notice → notice.skipped? = some key

theorem speaksOf_written (key : String) (write : Write) : SpeaksOf key (written write) :=
  ⟨nofun, nofun⟩

theorem speaksOf_passedOver {key : String} {notice : Notice} (skips : notice.skipped? = some key) :
    SpeaksOf key (passedOver notice) := by
  refine ⟨nofun, fun other same => ?_⟩
  obtain rfl := Except.error.inj same
  exact skips

variable (schema : Schema) (key : String)

theorem speaksOf_ofCombinator (value : String) : SpeaksOf key (ofCombinator key value) := by
  unfold ofCombinator
  split
  · exact speaksOf_passedOver rfl
  · split
    · exact speaksOf_written key _
    · exact speaksOf_passedOver rfl

theorem speaksOf_ofCount (slot : CountKey) (value : String) :
    SpeaksOf key (ofCount key slot value) := by
  unfold ofCount
  split
  · exact speaksOf_passedOver rfl
  · exact speaksOf_written key _

theorem speaksOf_ofField (value : String) (operator : Option String) :
    SpeaksOf key (ofField schema key value operator) := by
  have trace := Schema.level_of_mem_resolve (some schema) "" key operator
  unfold ofField
  simp only
  split
  · refine ⟨trace, fun notice same => ?_⟩
    obtain rfl := Except.error.inj same
    rfl
  · exact ⟨trace, nofun⟩

/-- Whatever route a chunk takes, it speaks of its own key. -/
theorem speaksOf_ofChunk (chunk : String) : SpeaksOf key (ofChunk schema key chunk) := by
  simp only [ofChunk]
  generalize (if Route.ofKey key = .combinator then Operand.verbatim chunk
    else Operand.ofChunk chunk) = operand
  split
  · exact speaksOf_passedOver rfl
  · split
    · exact speaksOf_ofCombinator key _
    · exact speaksOf_ofCount key _ _
    · exact speaksOf_written key _
    · exact speaksOf_ofField schema key _ _

/-- The write of an operand, if it makes one. -/
def write? (operand : String × String) : Option Write :=
  match (ofChunk schema operand.1 operand.2).result with
  | .ok write => some write
  | .error _ => none

/-- The write of an operand is the one that the list of writes has for it. -/
theorem write?_eq_some_iff {operand : String × String} {write : Write} :
    write? schema operand = some write ↔ Makes schema operand.1 operand.2 write := by
  rw [← result_eq_ok_iff, write?]
  split
  · next made result => rw [result, Option.some_inj, Except.ok.injEq]
  · next notice result => rw [result]; exact ⟨nofun, nofun⟩

/-- The notice of passing an operand over, if it is passed over. -/
def skip? (operand : String × String) : Option Notice :=
  match (ofChunk schema operand.1 operand.2).result with
  | .ok _ => none
  | .error notice => some notice

/-- An operand has a write or a notice of passing it over, and never both. -/
theorem written_or_skipped (operand : String × String) :
    (∃ write, (ofChunk schema operand.1 operand.2).result = .ok write ∧
        write? schema operand = some write ∧ skip? schema operand = none) ∨
      ∃ notice, (ofChunk schema operand.1 operand.2).result = .error notice ∧
        write? schema operand = none ∧ skip? schema operand = some notice := by
  rw [write?, skip?]
  cases (ofChunk schema operand.1 operand.2).result with
  | ok write => exact .inl ⟨write, rfl, rfl, rfl⟩
  | error notice => exact .inr ⟨notice, rfl, rfl, rfl⟩

/-- What an operand says for debugging is the notice of passing it over, or nothing. -/
theorem debugs_notices (operand : String × String) :
    debugs (ofChunk schema operand.1 operand.2).notices = (skip? schema operand).toList := by
  have speaks := speaksOf_ofChunk schema operand.1 operand.2
  have quiet := Notice.debugs_eq_nil_of_trace speaks.lookup
  unfold notices skip?
  cases result : (ofChunk schema operand.1 operand.2).result with
  | ok write => exact quiet
  | error notice =>
    have debug := (Notice.names_of_skipped? (speaks.passedOver notice result)).debug
    have itself : debugs [notice] = [notice] := List.filter_eq_self.mpr (by simpa using debug)
    exact (Notice.debugs_append _ _).trans (by rw [quiet, itself]; rfl)

end Effect

namespace Request

/-- How far reading has come: the request so far, and all that has been said. -/
structure Reading where
  request : Request := {}
  said : List Notice := []

/-- Handles one operand, and says what there is to say about it. -/
def Reading.handle (schema : Schema) (reading : Reading) (operand : String × String) : Reading where
  request := step schema reading.request operand
  said := reading.said ++ (Effect.ofChunk schema operand.1 operand.2).notices

/-- One write has been made, to the slot that the key owns. The slot is filled, every other slot is
as it was, and nothing has been said for debugging. -/
structure Wrote (key : String) (before after : Reading) : Prop where
  write : ∃ write : Write, write.slot = Slot.ofKey key ∧ after.request = before.request.apply write
  filled : (after.request.at? (Slot.ofKey key)).isSome = true
  others : ∀ slot, slot ≠ Slot.ofKey key → after.request.at? slot = before.request.at? slot
  silent : debugs after.said = debugs before.said

/-- The request is as it was, and one debug notice more has been given, which names the key. -/
structure PassedOver (key : String) (before after : Reading) : Prop where
  unchanged : after.request = before.request
  noticed : ∃ notice : Notice, notice.Names key ∧ debugs after.said = debugs before.said ++ [notice]

/-- What has been written was not passed over: the one says nothing and the other does. -/
theorem Wrote.not_passedOver {key : String} {before after : Reading} (wrote : Wrote key before after) :
    ¬PassedOver key before after := by
  rintro ⟨_, notice, _, noticed⟩
  rw [wrote.silent] at noticed
  simpa using congrArg List.length noticed

variable (schema : Schema)

/-- An operand that makes a write has written. -/
theorem wrote_of_makes {key chunk : String} {write : Write}
    (made : Effect.Makes schema key chunk write) (reading : Reading) :
    Wrote key reading (reading.handle schema (key, chunk)) := by
  have stepped : (reading.handle schema (key, chunk)).request = reading.request.apply write :=
    step_of_makes schema made reading.request
  refine ⟨⟨write, made.slot_eq, stepped⟩, ?_, fun slot elsewhere => ?_, ?_⟩
  · rw [stepped, at?_apply, ← made.slot_eq]
    exact write.isSome_revise _
  · rw [stepped, at?_apply, Write.revise_of_ne (by rw [made.slot_eq]; exact elsewhere.symm)]
  · have said := Effect.debugs_notices schema (key, chunk)
    rw [Effect.skip?, Effect.result_eq_ok_iff.mpr made] at said
    rw [Reading.handle, Notice.debugs_append, said, Option.toList_none, List.append_nil]

/-- An operand that gives a notice in place of a write is passed over. -/
theorem passedOver_of_error {key chunk : String} {notice : Notice}
    (passed : (Effect.ofChunk schema key chunk).result = .error notice) (reading : Reading) :
    PassedOver key reading (reading.handle schema (key, chunk)) := by
  refine ⟨by rw [Reading.handle, step, passed], notice, ?_, ?_⟩
  · exact Notice.names_of_skipped? ((Effect.speaksOf_ofChunk schema key chunk).passedOver notice passed)
  · have said := Effect.debugs_notices schema (key, chunk)
    rw [Effect.skip?, passed] at said
    rw [Reading.handle, Notice.debugs_append, said, Option.toList_some]

/-- Handling an operand does one of the two, whatever was read before. -/
theorem wrote_or_passedOver (reading : Reading) (operand : String × String) :
    Xor (Wrote operand.1 reading (reading.handle schema operand))
      (PassedOver operand.1 reading (reading.handle schema operand)) := by
  obtain ⟨key, chunk⟩ := operand
  cases result : (Effect.ofChunk schema key chunk).result with
  | ok write =>
    have wrote := wrote_of_makes schema (Effect.result_eq_ok_iff.mp result) reading
    exact .inl ⟨wrote, wrote.not_passedOver⟩
  | error notice =>
    have passed := passedOver_of_error schema result reading
    exact .inr ⟨passed, fun wrote => wrote.not_passedOver passed⟩

/-- Handling an operand has written where the operand makes a write, and nowhere else. -/
theorem wrote_iff (reading : Reading) (operand : String × String) :
    Wrote operand.1 reading (reading.handle schema operand) ↔
      ∃ write, Effect.Makes schema operand.1 operand.2 write := by
  constructor
  · intro wrote
    cases result : (Effect.ofChunk schema operand.1 operand.2).result with
    | ok write => exact ⟨write, Effect.result_eq_ok_iff.mp result⟩
    | error notice => exact absurd (passedOver_of_error schema result reading) wrote.not_passedOver
  · rintro ⟨write, made⟩
    exact wrote_of_makes schema made reading

/-- Handling operands one by one handles the request and collects what they say. -/
theorem foldl_handle (operands : List (String × String)) (reading : Reading) :
    operands.foldl (Reading.handle schema) reading =
      ⟨operands.foldl (step schema) reading.request, reading.said ++
        operands.flatMap fun operand => (Effect.ofChunk schema operand.1 operand.2).notices⟩ := by
  induction operands generalizing reading with
  | nil => simp
  | cons operand rest ih =>
    rw [List.foldl_cons, ih]
    simp [Reading.handle]

/-- Handling operands one by one is making their writes one by one. -/
theorem foldl_step_eq_foldl_apply (operands : List (String × String)) (request : Request) :
    operands.foldl (step schema) request =
      (operands.filterMap (Effect.write? schema)).foldl apply request := by
  induction operands generalizing request with
  | nil => rfl
  | cons operand rest ih =>
    rw [List.foldl_cons, ih, step]
    obtain ⟨write, result, written, _⟩ | ⟨notice, result, notWritten, _⟩ :=
      Effect.written_or_skipped schema operand
    · rw [result, List.filterMap_cons_some written, List.foldl_cons]
    · rw [result, List.filterMap_cons_none notWritten]

/-- What operands say for debugging are the notices of those that are passed over, in their order. -/
theorem debugs_flatMap_notices (operands : List (String × String)) :
    debugs (operands.flatMap fun operand => (Effect.ofChunk schema operand.1 operand.2).notices) =
      operands.filterMap (Effect.skip? schema) := by
  induction operands with
  | nil => rfl
  | cons operand rest ih =>
    rw [List.flatMap_cons, Notice.debugs_append, ih, Effect.debugs_notices]
    cases skipped : Effect.skip? schema operand with
    | none => rw [List.filterMap_cons_none skipped]; rfl
    | some notice => rw [List.filterMap_cons_some skipped]; rfl

/-- Every operand is counted once, among the writes or among those that are passed over. -/
theorem length_skips_add_length_writes (operands : List (String × String)) :
    (operands.filterMap (Effect.skip? schema)).length +
      (operands.filterMap (Effect.write? schema)).length = operands.length := by
  induction operands with
  | nil => rfl
  | cons operand rest ih =>
    obtain ⟨write, _, written, notSkipped⟩ | ⟨notice, _, notWritten, skipped⟩ :=
      Effect.written_or_skipped schema operand
    · rw [List.filterMap_cons_some written, List.filterMap_cons_none notSkipped, List.length_cons,
        List.length_cons]
      omega
    · rw [List.filterMap_cons_some skipped, List.filterMap_cons_none notWritten, List.length_cons,
        List.length_cons]
      omega

/-- Every operand of a request is accounted for. The operands are the chunks of every parameter under its
key, parameter by parameter.

Reading is handling them one by one in their order. Whatever was read before, each of them either makes
one write, to the slot of its key, or changes nothing and gives one debug notice that names its key;
and it writes where the list of writes has one for it. So a request is what its writes make of nothing;
the debug notices are those of the operands that are passed over, in the order of the operands; and
together they are as many as there are operands. -/
theorem operands_accounted_for (schema : Schema) (params : Params) :
    let operands := params.entries.flatMap fun entry =>
      (Operand.chunks entry.2).map fun chunk => (entry.1, chunk)
    operands.foldl (Reading.handle schema) {} =
        ⟨ofParams schema params, notices schema params⟩ ∧
      (∀ (reading : Reading) (operand : String × String),
        Xor (Wrote operand.1 reading (reading.handle schema operand))
          (PassedOver operand.1 reading (reading.handle schema operand))) ∧
      (∀ (reading : Reading) (operand : String × String),
        Wrote operand.1 reading (reading.handle schema operand) ↔
          ∃ write, Effect.Makes schema operand.1 operand.2 write) ∧
      (∀ operand write, Effect.write? schema operand = some write ↔
        Effect.Makes schema operand.1 operand.2 write) ∧
      ofParams schema params = (operands.filterMap (Effect.write? schema)).foldl apply {} ∧
      debugs (notices schema params) = operands.filterMap (Effect.skip? schema) ∧
      (debugs (notices schema params)).length +
        (operands.filterMap (Effect.write? schema)).length = operands.length := by
  intro operands
  -- reading folds over this list under another name, which unfolds to it
  have order : debugs (notices schema params) = operands.filterMap (Effect.skip? schema) :=
    debugs_flatMap_notices schema operands
  refine ⟨foldl_handle schema operands {}, wrote_or_passedOver schema, wrote_iff schema,
    fun _ _ => Effect.write?_eq_some_iff schema, foldl_step_eq_foldl_apply schema operands {},
    order, ?_⟩
  rw [order]
  exact length_skips_add_length_writes schema operands

end Request

end ParamFilter
