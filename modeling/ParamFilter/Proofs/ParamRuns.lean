import Mathlib
import ParamFilter.Proofs.EntryOrder

/-!
# Parameters over whole runs

Parameters are set and added to in any number and in any order. Their keys stand in the order in which
each was first named, and what a key holds is a matter of that key alone: the value of the last setting,
with the texts behind it that were added since. The law of one operation is `get?_apply` for the values
and `keys_apply` for the keys, and the laws of a run follow by induction from its end.

What the texts mean, and whether a key is one that a schema declares, is not spoken of here.
-/

namespace ParamFilter

namespace Param

/-- Texts under one key as a value: a text that is alone, or a list. -/
def ofTexts : List String → Param
  | [text] => .single text
  | texts => .multi texts

/-- What a key holds when texts are added to what it held. A value that was alone becomes the first of a
list, and a list grows at its end, the empty list like any other. -/
def extended (held : Option Param) (texts : List String) : Option Param :=
  if texts = [] then held
  else some (match held with
    | none => ofTexts texts
    | some (.single first) => .multi (first :: texts)
    | some (.multi values) => .multi (values ++ texts))

@[simp] theorem extended_nil (held : Option Param) : extended held [] = held := if_pos rfl

/-- The last text comes behind what the others leave. -/
theorem extended_append_singleton (held : Option Param) (texts : List String) (text : String) :
    extended held (texts ++ [text]) = gather (extended held texts) text := by
  cases texts with
  | nil => rcases held with _ | ⟨first⟩ | ⟨values⟩ <;> rfl
  | cons first rest =>
    rcases held with _ | ⟨_⟩ | ⟨values⟩
    · cases rest <;> rfl
    · rfl
    · exact congrArg (some ∘ multi) (List.append_assoc values (first :: rest) [text]).symm

/-- Gathering texts one by one is adding them all. -/
theorem foldl_gather (held : Option Param) (texts : List String) :
    texts.foldl gather held = extended held texts := by
  induction texts using List.reverseRecOn with
  | nil => rfl
  | append_singleton texts text ih =>
    rw [List.foldl_append, ih, extended_append_singleton]
    rfl

end Param

namespace Params

/-- The keys in their order. -/
def keys (params : Params) : List String := params.entries.map Prod.fst

/-- One operation on parameters. -/
inductive Step where
  | insert (key : String) (value : Param)
  | append (key : String) (text : String)
  deriving DecidableEq, Repr

/-- The parameters after an operation. -/
def apply (params : Params) : Step → Params
  | .insert key value => params.insert key value
  | .append key text => params.append key text

/-- The parameters that some operations leave, one after the other, when there were none before. -/
def run (steps : List Step) : Params := steps.foldl apply empty

/-- A last operation is applied to what the others leave. -/
theorem run_concat (steps : List Step) (step : Step) : run (steps ++ [step]) = (run steps).apply step := by
  rw [run, List.foldl_append]
  rfl

namespace Step

/-- The key that an operation names. -/
def key : Step → String
  | insert key _ => key
  | append key _ => key

/-- The value that an operation sets under a key. -/
def inserted? (asked : String) : Step → Option Param
  | insert key value => if key = asked then some value else none
  | append _ _ => none

/-- The text that an operation adds under a key. -/
def appended? (asked : String) : Step → Option String
  | insert _ _ => none
  | append key text => if key = asked then some text else none

/-- What a key holds after an operation, given what it held before. -/
def revise (asked : String) (held : Option Param) (step : Step) : Option Param :=
  if step.key = asked then
    match step with
    | insert _ value => some value
    | append _ text => Param.gather held text
  else held

variable {asked : String} {step : Step}

/-- An operation leaves the other keys what they hold. -/
theorem revise_of_ne (other : step.key ≠ asked) (held : Option Param) : step.revise asked held = held :=
  if_neg other

theorem inserted?_of_ne (other : step.key ≠ asked) : step.inserted? asked = none := by
  cases step with
  | insert key value => exact if_neg other
  | append key text => rfl

theorem appended?_of_ne (other : step.key ≠ asked) : step.appended? asked = none := by
  cases step with
  | insert key value => rfl
  | append key text => exact if_neg other

end Step

/-- The value of the last setting of a key, if it was set at all. -/
def lastInserted (key : String) (steps : List Step) : Option Param :=
  steps.reverse.findSome? (Step.inserted? key)

/-- The texts that were added to a key since it was last set, in their order. -/
def appendedSince (key : String) (steps : List Step) : List String :=
  (steps.rtakeWhile fun step => (step.inserted? key).isNone).filterMap (Step.appended? key)

theorem lastInserted_concat (key : String) (steps : List Step) (step : Step) :
    lastInserted key (steps ++ [step]) = (step.inserted? key).or (lastInserted key steps) := by
  rw [lastInserted, List.reverse_append, List.reverse_singleton, List.singleton_append,
    List.findSome?_cons]
  cases step.inserted? key <;> rfl

/-- A setting starts the texts anew. -/
theorem appendedSince_concat (key : String) (steps : List Step) (step : Step) :
    appendedSince key (steps ++ [step]) = if (step.inserted? key).isSome then []
      else appendedSince key steps ++ (step.appended? key).toList := by
  rw [appendedSince, List.rtakeWhile_concat]
  cases step.inserted? key with
  | some value => rfl
  | none =>
    rw [if_pos (by rfl), List.filterMap_append]
    cases added : step.appended? key <;> simp [appendedSince, added]

section Steps

variable (params : Params) (step : Step)

/-- After an operation a key holds what the operation makes of what it held. -/
theorem get?_apply (asked : String) :
    (params.apply step).get? asked = step.revise asked (params.get? asked) := by
  cases step with
  | insert key value =>
    by_cases same : key = asked
    · subst same
      rw [Step.revise, Step.key, if_pos rfl]
      exact get?_insert_self params key value
    · rw [Step.revise, Step.key, if_neg same]
      exact get?_insert_of_ne params (Ne.symm same) value
  | append key text => exact get?_append params key text asked

/-- The keys after an insertion: those from before, and the inserted one at the end when it is new. -/
theorem map_fst_insertEntry (key : String) (value : Param) (entries : List (String × Param)) :
    (insertEntry key value entries).map Prod.fst =
      if key ∈ entries.map Prod.fst then entries.map Prod.fst else entries.map Prod.fst ++ [key] := by
  induction entries with
  | nil => rfl
  | cons entry rest ih =>
    obtain ⟨held, old⟩ := entry
    unfold insertEntry
    split
    · next same => simp [same]
    · next different =>
      rw [List.map_cons, List.map_cons, ih]
      by_cases later : key ∈ rest.map Prod.fst
      · rw [if_pos later, if_pos (List.mem_cons_of_mem _ later)]
      · rw [if_neg later, if_neg (by simpa [Ne.symm different] using later)]
        rfl

/-- An operation moves no key. The one that it names comes last when it is new. -/
theorem keys_apply : (params.apply step).keys =
    if step.key ∈ params.keys then params.keys else params.keys ++ [step.key] := by
  cases step with
  | insert key value => exact map_fst_insertEntry key value params.entries
  | append key text => exact map_fst_insertEntry key _ params.entries

/-- The entries are told by the keys and by what each key holds, because no key is held twice. -/
theorem entries_eq_map {value : String → Param}
    (held : ∀ key ∈ params.keys, params.get? key = some (value key)) :
    params.entries = params.keys.map fun key => (key, value key) := by
  obtain ⟨entries, distinct⟩ := params
  simp only [keys, get?] at held ⊢
  induction entries with
  | nil => rfl
  | cons entry rest ih =>
    obtain ⟨key, old⟩ := entry
    obtain ⟨fresh, tail⟩ := List.nodup_cons.mp distinct
    have first : old = value key := by simpa using held key List.mem_cons_self
    have later : ∀ other ∈ rest.map Prod.fst, rest.lookup other = some (value other) := by
      intro other member
      have different : (other == key) = false := beq_eq_false_iff_ne.mpr fun same => fresh (same ▸ member)
      simpa [List.lookup_cons, different] using held other (List.mem_cons_of_mem _ member)
    rw [List.map_cons, List.map_cons, ← ih tail later, first]

end Steps

section Runs

variable (steps : List Step)

/-- What comes last in a list is a new element or has been met before. -/
theorem eraseDups_concat (named : List String) (key : String) : (named ++ [key]).eraseDups =
    if key ∈ named.eraseDups then named.eraseDups else named.eraseDups ++ [key] := by
  rw [List.eraseDups_append]
  by_cases met : key ∈ named
  · have nothing : [key].removeAll named = [] := by simp [List.removeAll, met]
    rw [nothing, if_pos (List.mem_eraseDups.mpr met), List.eraseDups_nil, List.append_nil]
  · have alone : [key].removeAll named = [key] := by simp [List.removeAll, met]
    rw [alone, if_neg (mt List.mem_eraseDups.mp met)]
    rfl

/-- After a run the keys are those that were named, each where it was named first. -/
theorem keys_run : (run steps).keys = (steps.map Step.key).eraseDups := by
  induction steps using List.reverseRecOn with
  | nil => rfl
  | append_singleton steps step ih =>
    rw [run_concat, keys_apply, ih, List.map_append, List.map_singleton, eraseDups_concat]

/-- After a run a key holds what the operations that name it make of nothing, one after the other. -/
theorem get?_run (key : String) : (run steps).get? key =
    (steps.filter (·.key = key)).foldl (fun held step => step.revise key held) none := by
  induction steps using List.reverseRecOn with
  | nil => rfl
  | append_singleton steps step ih =>
    rw [run_concat, get?_apply, ih, List.filter_append, List.foldl_append]
    by_cases named : step.key = key
    · rw [List.filter_cons_of_pos (by simpa using named)]
      rfl
    · rw [List.filter_cons_of_neg (by simpa using named), Step.revise_of_ne named]
      rfl

/-- After a run a key holds the value that it was last set to, with the texts behind it that were added
since.

Induct over the operations from the last one back. A setting of the key leaves nothing to add, an
addition to the key is the last of the texts, and an operation on another key is neither. -/
theorem get?_run_eq_extended (key : String) :
    (run steps).get? key = Param.extended (lastInserted key steps) (appendedSince key steps) := by
  induction steps using List.reverseRecOn with
  | nil => rfl
  | append_singleton steps step ih =>
    rw [run_concat, get?_apply, ih, lastInserted_concat, appendedSince_concat]
    by_cases named : step.key = key
    · subst named
      cases step with
      | insert key value => simp [Step.revise, Step.key, Step.inserted?]
      | append key text =>
        simp [Step.revise, Step.key, Step.inserted?, Step.appended?, Param.extended_append_singleton]
    · rw [Step.revise_of_ne named, Step.inserted?_of_ne named, Step.appended?_of_ne named]
      simp

end Runs

/-- What parameters hold after any run.

The keys are distinct, they are those that some operation names, and they stand in the order in which
each was named first. What a key holds depends on nothing but the operations on this key: it is the value
of the last setting, or nothing, with the texts that were added since. One more text makes a value that
was alone a list and goes to the end of a list. No operation moves a key that is there, and none changes
what another key holds.

The first two parts are the two inductions over a run, and the last two are the laws of one operation. -/
theorem run_grows_in_place (steps : List Step) :
    let result := run steps
    (result.keys.Nodup ∧ result.keys = (steps.map Step.key).eraseDups ∧
      result.size = (steps.map Step.key).toFinset.card) ∧
    (∀ key, result.get? key = Param.extended (lastInserted key steps) (appendedSince key steps)) ∧
    (∀ key otherSteps, otherSteps.filter (·.key = key) = steps.filter (·.key = key) →
      (run otherSteps).get? key = result.get? key) ∧
    (∀ key text, (result.append key text).get? key = some (match result.get? key with
      | none => .single text
      | some (.single first) => .multi [first, text]
      | some (.multi values) => .multi (values ++ [text]))) ∧
    ∀ step, result.keys <+: (result.apply step).keys ∧
      ∀ key, key ≠ step.key → (result.apply step).get? key = result.get? key := by
  intro result
  have distinct : result.keys.Nodup := result.distinct
  have keys : result.keys = (steps.map Step.key).eraseDups := keys_run steps
  have size : result.size = (steps.map Step.key).toFinset.card := by
    have named : (steps.map Step.key).toFinset = result.keys.toFinset := by
      ext key
      rw [List.mem_toFinset, List.mem_toFinset, keys, List.mem_eraseDups]
    rw [named, List.toFinset_card_of_nodup distinct]
    exact (List.length_map Prod.fst).symm
  refine ⟨⟨distinct, keys, size⟩, get?_run_eq_extended steps, ?_, ?_, ?_⟩
  · intro key otherSteps same
    rw [get?_run, same, ← get?_run]
  · intro key text
    rw [get?_append, if_pos rfl]
    rcases result.get? key with _ | ⟨first⟩ | ⟨values⟩ <;> rfl
  · intro step
    constructor
    · rw [keys_apply]
      split
      · exact List.prefix_rfl
      · exact List.prefix_append _ _
    · intro key other
      rw [get?_apply, Step.revise_of_ne (Ne.symm other)]

/-- A tag is set to an empty list and grows while the page is repeated and set anew; the run on the tag
alone leaves the same tag, and one more page moves neither. -/
theorem tag_grows_beside_page :
    let steps : List Step := [.append "page" "1", .append "tag" "old", .insert "tag" (.multi []),
      .append "page" "2", .append "tag" "a", .insert "page" (.single "7"), .append "tag" "b"]
    let tags : List Step := [.append "tag" "old", .insert "tag" (.multi []), .append "tag" "a",
      .append "tag" "b"]
    tags.filter (·.key = "tag") = steps.filter (·.key = "tag") ∧
      (run tags).get? "tag" = some (.multi ["a", "b"]) ∧
      (run steps).keys = ["page", "tag"] ∧ "tag" ≠ (Step.append "page" "8").key ∧
      ((run steps).append "page" "8").get? "tag" = some (.multi ["a", "b"]) ∧
      ((run steps).append "page" "8").get? "page" = some (.multi ["7", "8"]) := by
  intro steps tags
  obtain ⟨⟨_, keys, _⟩, held, alone, more, still⟩ := run_grows_in_place steps
  have ownSteps : tags.filter (·.key = "tag") = steps.filter (·.key = "tag") := by decide
  have tag : (run steps).get? "tag" = some (.multi ["a", "b"]) := (held "tag").trans (by decide)
  have other : "tag" ≠ (Step.append "page" "8").key := by decide
  refine ⟨ownSteps, (alone "tag" tags ownSteps).trans tag, keys.trans (by decide), other,
    ((still (.append "page" "8")).2 "tag" other).trans tag, (more "page" "8").trans ?_⟩
  rw [held "page"]
  decide

end Params

end ParamFilter
