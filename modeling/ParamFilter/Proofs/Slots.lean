import ParamFilter.Proofs.Writes

/-!
# One slot for each key

A request keeps what it is asked for in slots: four counts, two lists and one condition for each
path. Every key owns exactly one of them, and no two keys share one. A chunk makes at most one
write, and it goes to the slot of its key.

So a slot is a function of its owner's chunks alone: `at?_ofParams` says that reading all
parameters leaves in a slot what folding the chunks of its key would leave there, in their order and
with nothing else in between. Statements about whole requests are reduced to one key in this way.
Notices are not covered here.
-/

namespace ParamFilter

/-- A place of a request that one key can fill. -/
inductive Slot where
  | count (key : CountKey)
  | commaList (key : ListKey)
  | path (path : String)
  deriving DecidableEq, Repr

namespace Slot

/-- What a slot holds when it is filled. -/
abbrev Value : Slot → Type
  | count _ => Nat
  | commaList _ => String
  | path _ => Condition

/-- The only key that may own a slot. -/
def key : Slot → String
  | count slot => slot.name
  | commaList slot => slot.name
  | path named => named

/-- The slot that a key owns. -/
def ofKey (key : String) : Slot :=
  match Route.ofKey key with
  | .count slot => count slot
  | .commaList slot => commaList slot
  | .combinator | .field => path key

/-- No two keys own the same slot, because the slot names its owner. -/
@[simp] theorem key_ofKey (key : String) : (ofKey key).key = key := by
  cases route : Route.ofKey key with
  | combinator => simp [ofKey, route, Slot.key]
  | count slot => simpa [ofKey, route, Slot.key] using (Route.ofKey_eq_count_iff.mp route).symm
  | commaList slot =>
    simpa [ofKey, route, Slot.key] using (Route.ofKey_eq_commaList_iff.mp route).symm
  | field => simp [ofKey, route, Slot.key]

end Slot

/-- What a path holds once a condition has been added to what it held. -/
def Condition.placedOn (added : Condition) : Option Condition → Condition
  | some old => old.mergeOver added
  | none => added

namespace Write

/-- The slot that a write fills. -/
def slot : Write → Slot
  | count key _ => .count key
  | commaList key _ => .commaList key
  | combination path _ => .path path
  | condition path _ => .path path

/-- What a slot holds after a write. Another slot keeps what it has. Only a condition looks at what
it finds in its slot; the other writes replace it. -/
def revise (write : Write) (slot : Slot) (held : Option slot.Value) : Option slot.Value :=
  match slot, write with
  | .count key, .count target n => if target = key then some n else held
  | .commaList key, .commaList target list => if target = key then some list else held
  | .path named, .combination target value => if target = named then some (.json value) else held
  | .path named, .condition target added =>
    if target = named then some (added.placedOn held) else held
  | _, _ => held

/-- A write leaves all slots but its own as they are. -/
theorem revise_of_ne {write : Write} {slot : Slot} (elsewhere : write.slot ≠ slot)
    (held : Option slot.Value) : write.revise slot held = held := by
  cases slot <;> cases write <;> simp_all [revise, Write.slot]

/-- A write fills its own slot. -/
theorem isSome_revise (write : Write) (held : Option write.slot.Value) :
    (write.revise write.slot held).isSome = true := by
  cases write <;> simp [revise, Write.slot]

end Write

namespace Directives

/-- One of the lists. -/
def list? (directives : Directives) : ListKey → Option String
  | .sort => directives.sort
  | .select => directives.select

end Directives

namespace Request

/-- What a request holds in a slot. -/
def at? (request : Request) : (slot : Slot) → Option slot.Value
  | .count key => request.directives.count? key
  | .commaList key => request.directives.list? key
  | .path path => request.filter.get? path

/-- A request that asks for nothing holds nothing. -/
@[simp] theorem at?_empty (slot : Slot) : ({} : Request).at? slot = none := by
  cases slot with
  | count key => cases key <;> rfl
  | commaList key => cases key <;> rfl
  | path path => rfl

/-- Requests are the same when they hold the same in every slot. -/
theorem ext_at? {left right : Request} (same : ∀ slot, left.at? slot = right.at? slot) :
    left = right := by
  have filters : left.filter = right.filter := Filter.ext_get? fun path => same (.path path)
  have directives : left.directives = right.directives := by
    have page : left.directives.page = right.directives.page := same (.count .page)
    have perPage : left.directives.perPage = right.directives.perPage := same (.count .perPage)
    have limit : left.directives.limit = right.directives.limit := same (.count .limit)
    have skip : left.directives.skip = right.directives.skip := same (.count .skip)
    have sort : left.directives.sort = right.directives.sort := same (.commaList .sort)
    have select : left.directives.select = right.directives.select := same (.commaList .select)
    cases directivesLeft : left.directives
    cases directivesRight : right.directives
    simp_all
  cases left
  cases right
  simp_all

/-- Making a write is revising every slot by it. -/
theorem at?_apply (request : Request) (write : Write) (slot : Slot) :
    (request.apply write).at? slot = write.revise slot (request.at? slot) := by
  cases write with
  | count target n => cases slot with
    | count key => cases target <;> cases key <;> rfl
    | commaList key => cases target <;> cases key <;> rfl
    | path path => rfl
  | commaList target list => cases slot with
    | count key => cases target <;> cases key <;> rfl
    | commaList key => cases target <;> cases key <;> rfl
    | path path => rfl
  | combination target value => cases slot with
    | count key => rfl
    | commaList key => rfl
    | path path =>
      by_cases same : target = path
      · subst same
        simp [at?, apply, Write.revise]
      · simp [at?, apply, Write.revise, same, Filter.get?_set_of_ne _ (Ne.symm same)]
  | condition target condition => cases slot with
    | count key => rfl
    | commaList key => rfl
    | path path =>
      by_cases same : target = path
      · subst same
        simp only [at?, apply, Write.revise, Filter.merge, Filter.get?_set_self]
        rfl
      · simp [at?, apply, Write.revise, Filter.merge, same,
          Filter.get?_set_of_ne _ (Ne.symm same)]

end Request

namespace Effect

variable {schema : Schema} {key chunk : String}

/-- A chunk writes to the slot that its key owns. -/
theorem Makes.slot_eq {write : Write} (made : Makes schema key chunk write) :
    write.slot = Slot.ofKey key := by
  cases made with
  | combination route => simp [Slot.ofKey, route, Write.slot]
  | count route => simp [Slot.ofKey, route, Write.slot]
  | commaList route => simp [Slot.ofKey, route, Write.slot]
  | condition route => simp [Slot.ofKey, route, Write.slot]

/-- What a slot holds after a chunk of some key. -/
def revise (schema : Schema) (key : String) (slot : Slot) (held : Option slot.Value)
    (chunk : String) : Option slot.Value :=
  match (ofChunk schema key chunk).result with
  | .ok write => write.revise slot held
  | .error _ => held

/-- A chunk that makes a write revises by it. -/
theorem revise_of_makes {write : Write} (made : Makes schema key chunk write) (slot : Slot)
    (held : Option slot.Value) : revise schema key slot held chunk = write.revise slot held := by
  rw [revise, result_eq_ok_iff.mpr made]

/-- A chunk that makes no write revises nothing. -/
theorem revise_of_not_makes (idle : ∀ write, ¬Makes schema key chunk write) (slot : Slot)
    (held : Option slot.Value) : revise schema key slot held chunk = held := by
  unfold revise
  split
  · next write made => exact absurd (result_eq_ok_iff.mp made) (idle write)
  · rfl

/-- A chunk leaves the slots that its key does not own as they are. -/
theorem revise_of_ne {slot : Slot} (elsewhere : Slot.ofKey key ≠ slot) (held : Option slot.Value) :
    revise schema key slot held chunk = held := by
  unfold revise
  split
  · next write made =>
    have target : write.slot = Slot.ofKey key := (result_eq_ok_iff.mp made).slot_eq
    exact Write.revise_of_ne (target ▸ elsewhere) held
  · rfl

/-- After a chunk a slot is filled if it was before, or if its owner made a write. -/
theorem isSome_revise_iff {slot : Slot} {held : Option slot.Value} :
    (revise schema key slot held chunk).isSome = true ↔
      held.isSome = true ∨ (Slot.ofKey key = slot ∧ ∃ write, Makes schema key chunk write) := by
  by_cases own : Slot.ofKey key = slot
  · by_cases active : ∃ write, Makes schema key chunk write
    · obtain ⟨write, made⟩ := active
      have target : write.slot = slot := made.slot_eq.trans own
      subst target
      simp [revise_of_makes made, Write.isSome_revise, own, Exists.intro write made]
    · have idle : ∀ write, ¬Makes schema key chunk write := fun write made => active ⟨write, made⟩
      simp [revise_of_not_makes idle, active]
  · simp [revise_of_ne own, own]

/-- After many chunks a slot is filled if it was before, or if one of them made a write as its
owner. No later chunk empties a slot. -/
theorem isSome_foldl_revise_iff {slot : Slot} {held : Option slot.Value} {chunks : List String} :
    (chunks.foldl (revise schema key slot) held).isSome = true ↔
      held.isSome = true ∨
        (Slot.ofKey key = slot ∧ ∃ chunk ∈ chunks, ∃ write, Makes schema key chunk write) := by
  induction chunks generalizing held with
  | nil => simp
  | cons chunk rest ih =>
    rw [List.foldl_cons, ih, isSome_revise_iff]
    simp only [List.mem_cons, exists_eq_or_imp]
    constructor
    · rintro ((before | ⟨own, here⟩) | ⟨own, later⟩)
      · exact .inl before
      · exact .inr ⟨own, .inl here⟩
      · exact .inr ⟨own, .inr later⟩
    · rintro (before | ⟨own, here | later⟩)
      · exact .inl (.inl before)
      · exact .inl (.inr ⟨own, here⟩)
      · exact .inr ⟨own, later⟩

end Effect

/-- The chunks of the value under a key, and none where the key is absent. -/
def Params.chunks (params : Params) (key : String) : List String :=
  ((params.get? key).map Operand.chunks).getD []

/-- The texts that stand under a key in a list of pairs, in their order. -/
def textsUnder (key : String) (pairs : List (String × String)) : List String :=
  (pairs.filter (·.1 = key)).map Prod.snd

/-- The chunks of one entry stand under its key only. -/
theorem textsUnder_map (key held : String) (chunks : List String) :
    textsUnder key (chunks.map (held, ·)) = if held = key then chunks else [] := by
  induction chunks with
  | nil => simp [textsUnder]
  | cons chunk rest ih =>
    by_cases same : held = key
    · simp_all [textsUnder]
    · simp [textsUnder, same]

/-- A key that no entry has stands over no chunk. -/
theorem textsUnder_of_absent {key : String} {entries : List (String × Param)}
    (absent : key ∉ entries.map Prod.fst) :
    textsUnder key (entries.flatMap fun entry => (Operand.chunks entry.2).map (entry.1, ·)) = [] := by
  simp only [textsUnder, List.map_eq_nil_iff, List.filter_eq_nil_iff, List.mem_flatMap, List.mem_map,
    decide_eq_true_eq]
  rintro operand ⟨entry, member, chunk, _, rfl⟩ same
  exact absent (List.mem_map.mpr ⟨entry, member, same⟩)

/-- Among all operands, a key stands over the chunks of its own value. Since no key is held twice,
nothing behind the entry of the key adds to them. -/
theorem textsUnder_operands (params : Params) (key : String) :
    textsUnder key params.operands = params.chunks key := by
  obtain ⟨entries, distinct⟩ := params
  simp only [Params.operands, Params.chunks, Params.get?]
  induction entries with
  | nil => rfl
  | cons entry rest ih =>
    obtain ⟨held, value⟩ := entry
    obtain ⟨fresh, tail⟩ := List.nodup_cons.mp distinct
    have apart : textsUnder key (((held, value) :: rest).flatMap fun entry =>
        (Operand.chunks entry.2).map (entry.1, ·)) =
        textsUnder key ((Operand.chunks value).map (held, ·)) ++
          textsUnder key (rest.flatMap fun entry => (Operand.chunks entry.2).map (entry.1, ·)) := by
      simp [textsUnder]
    rw [apart]
    by_cases same : held = key
    · subst same
      rw [textsUnder_of_absent fresh, textsUnder_map]
      simp
    · have different : (key == held) = false := beq_eq_false_iff_ne.mpr (Ne.symm same)
      rw [ih tail, textsUnder_map]
      simp [List.lookup_cons, different, same]

namespace Request

variable (schema : Schema)

/-- Handling an operand is making the write of its chunk. -/
theorem step_of_makes {key chunk : String} {write : Write}
    (made : Effect.Makes schema key chunk write) (request : Request) :
    step schema request (key, chunk) = request.apply write := by
  rw [step, Effect.result_eq_ok_iff.mpr made]

/-- An operand without a write is handled by doing nothing. -/
theorem step_of_not_makes {key chunk : String}
    (idle : ∀ write, ¬Effect.Makes schema key chunk write) (request : Request) :
    step schema request (key, chunk) = request := by
  unfold step
  split
  · next write made => exact absurd (Effect.result_eq_ok_iff.mp made) (idle write)
  · rfl

/-- Operands that change nothing one by one change nothing together. -/
theorem foldl_step_of_idle {operands : List (String × String)} (request : Request)
    (idle : ∀ operand ∈ operands, step schema request operand = request) :
    operands.foldl (step schema) request = request := by
  induction operands with
  | nil => rfl
  | cons operand rest ih =>
    rw [List.foldl_cons, idle operand List.mem_cons_self]
    exact ih fun later member => idle later (List.mem_cons_of_mem _ member)

/-- Handling an operand revises every slot by its chunk. -/
theorem at?_step (request : Request) (operand : String × String) (slot : Slot) :
    (step schema request operand).at? slot =
      Effect.revise schema operand.1 slot (request.at? slot) operand.2 := by
  unfold step Effect.revise
  split <;> simp_all [at?_apply]

/-- Handling many operands leaves in a slot what the chunks under its own key leave there.

Induct over the operands. One under the slot's key revises the slot and stays among the chunks; any
other belongs to another slot and drops out on both sides. -/
theorem at?_foldl_step (operands : List (String × String)) (request : Request) (slot : Slot) :
    (operands.foldl (step schema) request).at? slot =
      (textsUnder slot.key operands).foldl (Effect.revise schema slot.key slot)
        (request.at? slot) := by
  induction operands generalizing request with
  | nil => rfl
  | cons operand rest ih =>
    rw [List.foldl_cons, ih, at?_step]
    by_cases own : operand.1 = slot.key
    · simp [textsUnder, own]
    · have elsewhere : Slot.ofKey operand.1 ≠ slot := fun same => own (by rw [← same, Slot.key_ofKey])
      rw [Effect.revise_of_ne elsewhere]
      simp [textsUnder, own]

/-- A slot of a request depends on nothing but the chunks under its key. -/
theorem at?_ofParams (params : Params) (slot : Slot) :
    (ofParams schema params).at? slot =
      (params.chunks slot.key).foldl (Effect.revise schema slot.key slot) none := by
  rw [ofParams, at?_foldl_step, textsUnder_operands, at?_empty]

/-- A slot of a request is filled exactly when its owner is among the parameters and one of the
owner's chunks makes a write. -/
theorem isSome_at?_ofParams_iff (params : Params) (slot : Slot) :
    ((ofParams schema params).at? slot).isSome = true ↔
      Slot.ofKey slot.key = slot ∧
        ∃ chunk ∈ params.chunks slot.key, ∃ write, Effect.Makes schema slot.key chunk write := by
  rw [at?_ofParams, Effect.isSome_foldl_revise_iff]
  simp

end Request

end ParamFilter
