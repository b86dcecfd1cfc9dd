import Mathlib
import ParamFilter.Proofs.ByteOrder
import ParamFilter.Proofs.FixedFilter
import ParamFilter.Proofs.Slots

/-!
# Filters over whole runs

A filter is written to by three operations, in any number and in any order. What it holds under a path in
the end is a matter of that path alone: of the condition it began with and of the operations that name it.
The last operation that replaced the condition counts, and the operator objects that were merged since are
united with it, the later operand winning where two have the same operator.

Whether a merge replaces or unites depends on what it finds, so a path may go from one to the other any
number of times. `Step.replaces_or_unites` says that there is no third way. Conditions inside of operands
are never united and are not spoken of here.
-/

namespace ParamFilter

/-- An operator object holds each operator once, in the order of the keys. -/
def Condition.Ordered : Condition → Prop
  | operators operands => Keyed.Ascending operands
  | _ => True

/-- A condition that is no operator object replaces what a path held. -/
theorem Condition.placedOn_of_literal {condition : Condition}
    (literal : ∀ new, condition ≠ .operators new) (held : Option Condition) :
    condition.placedOn held = condition := by
  cases held with
  | none => rfl
  | some old =>
    cases condition with
    | operators new => exact absurd rfl (literal new)
    | _ => cases old <;> rfl

/-- A condition replaces whatever is no operator object. -/
theorem Condition.placedOn_of_apart {held : Option Condition}
    (apart : ∀ old, held ≠ some (.operators old)) (condition : Condition) :
    condition.placedOn held = condition := by
  cases held with
  | none => rfl
  | some old =>
    cases old with
    | operators operands => exact absurd rfl (apart operands)
    | _ => rfl

namespace Filter

/-- One operation on a filter. -/
inductive Step where
  | merge (path : String) (condition : Condition)
  | set (path : String) (condition : Condition)
  | overlay (upper : Filter)

/-- The filter after an operation. -/
def apply (filter : Filter) : Step → Filter
  | .merge path condition => filter.merge path condition
  | .set path condition => filter.set path condition
  | .overlay upper => filter.overlay upper

/-- The filter after some operations, one after the other. -/
def run (filter : Filter) (steps : List Step) : Filter := steps.foldl apply filter

@[simp] theorem run_nil (filter : Filter) : filter.run [] = filter := rfl

@[simp] theorem run_cons (filter : Filter) (step : Step) (rest : List Step) :
    filter.run (step :: rest) = (filter.apply step).run rest := rfl

/-- Every operator object of a filter is ordered. -/
def Ordered (filter : Filter) : Prop :=
  ∀ path condition, filter.get? path = some condition → condition.Ordered

namespace Step

/-- The paths that an operation names. -/
def paths : Step → List String
  | merge path _ => [path]
  | set path _ => [path]
  | overlay upper => upper.paths

/-- Every operator object that an operation brings along is ordered. -/
def Ordered : Step → Prop
  | merge _ condition => condition.Ordered
  | set _ condition => condition.Ordered
  | overlay upper => upper.Ordered

/-- The operations after which a path holds the new condition and nothing of what it held: a setting, an
overlay that has the path, and a merge unless both conditions are operator objects. -/
inductive Replaces (path : String) (held : Option Condition) : Step → Condition → Prop
  | set (condition : Condition) : Replaces path held (.set path condition) condition
  | overlay {upper : Filter} {condition : Condition} (laid : upper.get? path = some condition) :
      Replaces path held (.overlay upper) condition
  | mergeLiteral {condition : Condition} (literal : ∀ new, condition ≠ .operators new) :
      Replaces path held (.merge path condition) condition
  | mergeOnto {condition : Condition} (apart : ∀ old, held ≠ some (.operators old)) :
      Replaces path held (.merge path condition) condition

/-- What a path holds after an operation, given what it held before. -/
def revise (path : String) (held : Option Condition) : Step → Option Condition
  | merge named condition => if named = path then some (condition.placedOn held) else held
  | set named condition => if named = path then some condition else held
  | overlay upper => (upper.get? path).or held

variable {path : String} {held : Option Condition} {step : Step}

/-- An operation leaves the paths that it does not name as they are. -/
theorem revise_of_not_mem (unnamed : path ∉ step.paths) : step.revise path held = held := by
  cases step with
  | merge named condition => exact if_neg fun same => unnamed (by simp [paths, same])
  | set named condition => exact if_neg fun same => unnamed (by simp [paths, same])
  | overlay upper =>
    have absent : upper.get? path = none := Keyed.lookup_eq_none_of_not_mem unnamed
    rw [revise, absent, Option.none_or]

/-- Where an operation replaces, the path holds the new condition. -/
theorem revise_of_replaces {condition : Condition} (replaces : step.Replaces path held condition) :
    step.revise path held = some condition := by
  cases replaces with
  | set => exact if_pos rfl
  | overlay laid => rw [revise, laid, Option.some_or]
  | mergeLiteral literal =>
    rw [revise, if_pos rfl, Condition.placedOn_of_literal literal]
  | mergeOnto apart =>
    rw [revise, if_pos rfl, Condition.placedOn_of_apart apart]

/-- Where a merge finds operators and brings operators, it unites them. -/
theorem revise_merge_operators (path : String) (old new : List (String × Condition)) :
    (merge path (.operators new)).revise path (some (.operators old)) =
      some (.operators (Keyed.union old new)) :=
  if_pos rfl

/-- An operation that names a path replaces what is there, or unites two operator objects. -/
theorem replaces_or_unites (held : Option Condition) (named : path ∈ step.paths) :
    (∃ condition, step.Replaces path held condition) ∨
      ∃ old new, held = some (.operators old) ∧ step = .merge path (.operators new) := by
  cases step with
  | set other condition =>
    obtain rfl := List.mem_singleton.mp named
    exact .inl ⟨condition, .set condition⟩
  | overlay upper =>
    obtain ⟨condition, laid⟩ := Option.isSome_iff_exists.mp (Keyed.mem_keys_iff.mp named)
    exact .inl ⟨condition, .overlay laid⟩
  | merge other condition =>
    obtain rfl := List.mem_singleton.mp named
    by_cases onto : ∃ old, held = some (.operators old)
    · by_cases operators : ∃ new, condition = .operators new
      · obtain ⟨old, rfl⟩ := onto
        obtain ⟨new, rfl⟩ := operators
        exact .inr ⟨old, new, rfl, rfl⟩
      · exact .inl ⟨condition, .mergeLiteral (not_exists.mp operators)⟩
    · exact .inl ⟨condition, .mergeOnto (not_exists.mp onto)⟩

end Step

section Runs

variable (filter : Filter)

/-- After one operation a path holds what the operation makes of what it held. -/
theorem get?_apply (step : Step) (path : String) :
    (filter.apply step).get? path = step.revise path (filter.get? path) := by
  cases step with
  | merge named condition =>
    by_cases same : named = path
    · subst same
      rw [Step.revise, if_pos rfl]
      exact get?_set_self filter named _
    · rw [Step.revise, if_neg same]
      exact get?_set_of_ne filter (Ne.symm same) _
  | set named condition =>
    by_cases same : named = path
    · subst same
      rw [Step.revise, if_pos rfl]
      exact get?_set_self filter named condition
    · rw [Step.revise, if_neg same]
      exact get?_set_of_ne filter (Ne.symm same) condition
  | overlay upper => exact get?_overlay filter upper path

/-- All that one operation can do to a path: nothing, if it does not name the path; put a condition in place
of what is there; or unite two operator objects. -/
theorem apply_cases (step : Step) (path : String) :
    (path ∉ step.paths ∧ (filter.apply step).get? path = filter.get? path) ∨
    (∃ condition, step.Replaces path (filter.get? path) condition ∧
      (filter.apply step).get? path = some condition) ∨
    ∃ old new, filter.get? path = some (.operators old) ∧ step = .merge path (.operators new) ∧
      (filter.apply step).get? path = some (.operators (Keyed.union old new)) := by
  rw [get?_apply]
  by_cases named : path ∈ step.paths
  · rcases Step.replaces_or_unites (filter.get? path) named with
      ⟨condition, replaces⟩ | ⟨old, new, before, rfl⟩
    · exact .inr (.inl ⟨condition, replaces, Step.revise_of_replaces replaces⟩)
    · exact .inr (.inr ⟨old, new, before, rfl, by rw [before, Step.revise_merge_operators]⟩)
  · exact .inl ⟨named, Step.revise_of_not_mem named⟩

/-- The paths after one operation are those before and those that it names. -/
theorem mem_paths_apply (step : Step) (path : String) :
    path ∈ (filter.apply step).paths ↔ path ∈ step.paths ∨ path ∈ filter.paths := by
  cases step with
  | merge named condition => rw [Step.paths, List.mem_singleton]; exact Keyed.mem_keys_insert
  | set named condition => rw [Step.paths, List.mem_singleton]; exact Keyed.mem_keys_insert
  | overlay upper => exact mem_paths_overlay

/-- After a run a path holds what the operations that name it make of what it held, one after the other. -/
theorem get?_run (steps : List Step) (path : String) :
    (filter.run steps).get? path =
      (steps.filter (path ∈ ·.paths)).foldl (fun held step => step.revise path held)
        (filter.get? path) := by
  induction steps generalizing filter with
  | nil => rfl
  | cons step rest ih =>
    rw [run_cons, ih, get?_apply]
    by_cases named : path ∈ step.paths
    · rw [List.filter_cons_of_pos (by simpa using named), List.foldl_cons]
    · rw [List.filter_cons_of_neg (by simpa using named), Step.revise_of_not_mem named]

/-- The paths after a run are those before and all that an operation names. -/
theorem mem_paths_run (steps : List Step) (path : String) :
    path ∈ (filter.run steps).paths ↔ path ∈ filter.paths ∨ ∃ step ∈ steps, path ∈ step.paths := by
  induction steps generalizing filter with
  | nil => simp
  | cons step rest ih =>
    rw [run_cons, ih, mem_paths_apply, List.exists_mem_cons_iff, ← or_assoc, or_comm (a := path ∈ step.paths)]

/-- A last operation is applied to what the others leave. -/
theorem run_append_singleton (steps : List Step) (step : Step) :
    filter.run (steps ++ [step]) = (filter.run steps).apply step := by
  rw [run, List.foldl_append]
  rfl

/-- The paths of a filter are in the order of their bytes. -/
theorem pairwise_paths : filter.paths.Pairwise fun former latter =>
    Text.Utf8.encode former.toList < Text.Utf8.encode latter.toList :=
  List.pairwise_map.mpr (filter.ascending.imp fun below =>
    Text.Utf8.encode_lt_of_lt (String.lt_iff_toList_lt.mp below))

end Runs

/-- One operator is in order. -/
theorem ordered_operator (name : String) (operand : Condition) :
    (Condition.operator name operand).Ordered :=
  List.pairwise_singleton _ _

/-- A filter without conditions has no operator objects. -/
theorem ordered_empty : empty.Ordered := by
  intro path condition held
  cases held

/-- A filter that is made of JSON has no operator objects. -/
theorem ordered_ofFields (fields : List (String × Json)) : (ofFields fields).Ordered := by
  intro path condition held
  have found : ((Keyed.ofList fields).lookup path).map Condition.json = some condition := by
    rw [← Keyed.lookup_map]
    exact held
  obtain ⟨value, _, rfl⟩ := Option.map_eq_some_iff.mp found
  exact trivial

/-- An ordered operation puts ordered conditions in place of others. -/
theorem Step.Replaces.ordered {path : String} {held : Option Condition} {step : Step}
    {condition : Condition} (replaces : step.Replaces path held condition) (ordered : step.Ordered) :
    condition.Ordered := by
  cases replaces with
  | set => exact ordered
  | overlay laid => exact ordered path condition laid
  | mergeLiteral => exact ordered
  | mergeOnto => exact ordered

/-- Operations keep operator objects ordered. A union is ordered because what it is added to is. -/
theorem Ordered.apply {filter : Filter} (ordered : filter.Ordered) {step : Step}
    (stepOrdered : step.Ordered) : (filter.apply step).Ordered := by
  intro path condition held
  rcases filter.apply_cases step path with
    ⟨_, same⟩ | ⟨new, replaces, after⟩ | ⟨old, new, before, rfl, after⟩
  · exact ordered path condition (same ▸ held)
  · obtain rfl := Option.some.inj (after.symm.trans held)
    exact replaces.ordered stepOrdered
  · obtain rfl := Option.some.inj (after.symm.trans held)
    have oldOrdered : Keyed.Ascending old := ordered path _ before
    exact oldOrdered.union new

theorem Ordered.run {filter : Filter} (ordered : filter.Ordered) {steps : List Step}
    (stepsOrdered : ∀ step ∈ steps, step.Ordered) : (filter.run steps).Ordered := by
  induction steps generalizing filter with
  | nil => exact ordered
  | cons step rest ih =>
    obtain ⟨first, others⟩ := List.forall_mem_cons.mp stepsOrdered
    exact ih (ordered.apply first) others

/-- What the operators under a path are made of after some operations. `base` are those that the last
operation to replace the condition has put there, or those of the filter if no operation has, and `since`
are the operators of all operations on the path since, each of which was a merge. -/
def BuiltFrom (filter : Filter) (steps : List Step) (path : String) (base : List (String × Condition))
    (since : List (List (String × Condition))) : Prop :=
  ∃ before after, steps = before ++ after ∧
    (filter.run before).get? path = some (.operators base) ∧
    (before = [] ∨ ∃ earlier last, before = earlier ++ [last] ∧
      last.Replaces path ((filter.run earlier).get? path) (.operators base)) ∧
    after.filter (path ∈ ·.paths) = since.map fun new => .merge path (.operators new)

section BuiltFrom

variable {filter : Filter} {steps : List Step} {step : Step} {path : String}
  {base new : List (String × Condition)} {since : List (List (String × Condition))}

/-- An operation that replaces by operators is a new base. -/
theorem builtFrom_of_replaces
    (replaces : step.Replaces path ((filter.run steps).get? path) (.operators base)) :
    BuiltFrom filter (steps ++ [step]) path base [] := by
  refine ⟨steps ++ [step], [], (List.append_nil _).symm, ?_, .inr ⟨steps, step, rfl, replaces⟩, rfl⟩
  rw [run_append_singleton, get?_apply, Step.revise_of_replaces replaces]

/-- An operation on other paths leaves a base what it is. -/
theorem BuiltFrom.append_of_not_mem (built : BuiltFrom filter steps path base since)
    (unnamed : path ∉ step.paths) : BuiltFrom filter (steps ++ [step]) path base since := by
  obtain ⟨before, after, rfl, held, last, merges⟩ := built
  refine ⟨before, after ++ [step], List.append_assoc _ _ _, held, last, ?_⟩
  rw [List.filter_append, merges, List.filter_cons_of_neg (by simpa using unnamed), List.filter_nil,
    List.append_nil]

/-- A merge of operators onto operators is one more merge since. -/
theorem BuiltFrom.append_merge (built : BuiltFrom filter steps path base since) :
    BuiltFrom filter (steps ++ [.merge path (.operators new)]) path base (since ++ [new]) := by
  obtain ⟨before, after, rfl, held, last, merges⟩ := built
  have named : path ∈ (Step.merge path (.operators new)).paths := List.mem_singleton_self path
  refine ⟨before, after ++ [.merge path (.operators new)], List.append_assoc _ _ _, held, last, ?_⟩
  rw [List.filter_append, merges, List.filter_cons_of_pos (by simpa using named), List.filter_nil,
    List.map_append, List.map_singleton]

/-- The merges that an operator object is built from bring ordered operators. -/
theorem BuiltFrom.ascending (built : BuiltFrom filter steps path base since)
    (stepsOrdered : ∀ step ∈ steps, step.Ordered) : ∀ new ∈ since, Keyed.Ascending new := by
  obtain ⟨before, after, rfl, _, _, merges⟩ := built
  intro new member
  have merged : Step.merge path (.operators new) ∈ after.filter (path ∈ ·.paths) := by
    rw [merges]
    exact List.mem_map_of_mem member
  exact stepsOrdered _ (List.mem_append_right before (List.mem_filter.mp merged).1)

end BuiltFrom

/-- The operators under a path are those of the last replacing operation, united in order with those of the
merges since.

Induct over the operations from the last one back. One that does not name the path changes nothing. One that
replaces is itself the base. One that unites adds to what the others have built. -/
theorem exists_builtFrom (filter : Filter) (steps : List Step) (path : String)
    {operands : List (String × Condition)}
    (held : (filter.run steps).get? path = some (.operators operands)) :
    ∃ base since, BuiltFrom filter steps path base since ∧ operands = since.foldl Keyed.union base := by
  induction steps using List.reverseRecOn generalizing operands with
  | nil => exact ⟨operands, [], ⟨[], [], rfl, held, .inl rfl, rfl⟩, rfl⟩
  | append_singleton steps step ih =>
    rw [run_append_singleton] at held
    rcases (filter.run steps).apply_cases step path with
      ⟨unnamed, same⟩ | ⟨condition, replaces, after⟩ | ⟨old, new, before, rfl, after⟩
    · obtain ⟨base, since, built, rfl⟩ := ih (same ▸ held)
      exact ⟨base, since, built.append_of_not_mem unnamed, rfl⟩
    · obtain rfl := Option.some.inj (after.symm.trans held)
      exact ⟨operands, [], builtFrom_of_replaces replaces, rfl⟩
    · obtain rfl := Condition.operators.inj (Option.some.inj (after.symm.trans held))
      obtain ⟨base, since, built, rfl⟩ := ih before
      exact ⟨base, since ++ [new], built.append_merge, by rw [List.foldl_append]; rfl⟩

/-- In a union of several objects the last operand of each operator counts. -/
theorem lookup_foldl_union {since : List (List (String × Condition))}
    (distinct : ∀ new ∈ since, (Keyed.keys new).Nodup) (base : List (String × Condition)) (key : String) :
    (since.foldl Keyed.union base).lookup key =
      (since.reverse.findSome? (·.lookup key)).or (base.lookup key) := by
  induction since generalizing base with
  | nil => rfl
  | cons new rest ih =>
    obtain ⟨first, others⟩ := List.forall_mem_cons.mp distinct
    rw [List.foldl_cons, ih others, Keyed.lookup_union first, List.reverse_cons, List.findSome?_append,
      List.findSome?_singleton, Option.or_assoc]

/-- What a filter holds after any run.

The paths are distinct and in the order of their bytes, and they are those from before and those that some
operation names. What is held under a path depends on nothing but what was held there and the operations
that name it. An operation that replaces leaves exactly the new condition; a merge of two operator objects unites
them, and the new operand counts where both have the operator. So an operator object holds, for each
operator, the last operand among those that the merges since its last replacement have brought, and else
the operand of that replacement. It holds no operator twice.

The first three parts follow from what one operation does to the paths and to one path. The last one looks
for the operation that replaced last. -/
theorem run_later_wins (filter : Filter) (steps : List Step) (ordered : filter.Ordered)
    (stepsOrdered : ∀ step ∈ steps, step.Ordered) :
    let result := filter.run steps
    (result.paths.Nodup ∧ result.paths.Pairwise fun former latter =>
      Text.Utf8.encode former.toList < Text.Utf8.encode latter.toList) ∧
    (∀ path, path ∈ result.paths ↔ path ∈ filter.paths ∨ ∃ step ∈ steps, path ∈ step.paths) ∧
    (∀ (path : String) (other : Filter) (otherSteps : List Step), other.get? path = filter.get? path →
      otherSteps.filter (path ∈ ·.paths) = steps.filter (path ∈ ·.paths) →
      (other.run otherSteps).get? path = result.get? path) ∧
    (∀ (path : String) (step : Step) (condition : Condition),
      step.Replaces path (result.get? path) condition →
      (result.apply step).get? path = some condition) ∧
    (∀ path old new, result.get? path = some (.operators old) → Keyed.Ascending new →
      ∃ united, (result.apply (.merge path (.operators new))).get? path = some (.operators united) ∧
        Keyed.Ascending united ∧ ∀ key, united.lookup key = (new.lookup key).or (old.lookup key)) ∧
    (∀ path operands, result.get? path = some (.operators operands) →
      Keyed.Ascending operands ∧ ∃ base since, BuiltFrom filter steps path base since ∧
        ∀ key, operands.lookup key = (since.reverse.findSome? (·.lookup key)).or (base.lookup key)) := by
  intro result
  have resultOrdered : result.Ordered := ordered.run stepsOrdered
  refine ⟨⟨result.ascending.nodup_keys, result.pairwise_paths⟩, filter.mem_paths_run steps, ?_, ?_, ?_, ?_⟩
  · intro path other otherSteps same sameSteps
    rw [get?_run, get?_run, same, sameSteps]
  · intro path step condition replaces
    rw [get?_apply, Step.revise_of_replaces replaces]
  · intro path old new before newOrdered
    have oldOrdered : Keyed.Ascending old := resultOrdered path _ before
    refine ⟨Keyed.union old new, ?_, oldOrdered.union new, Keyed.lookup_union newOrdered.nodup_keys old⟩
    rw [get?_apply, before, Step.revise_merge_operators]
  · intro path operands held
    obtain ⟨base, since, built, rfl⟩ := exists_builtFrom filter steps path held
    refine ⟨resultOrdered path _ held, base, since, built, fun key => ?_⟩
    exact lookup_foldl_union (fun new member => (built.ascending stepsOrdered new member).nodup_keys) base key

/-- An age is replaced by a literal in the middle of a run and built up again, and operators take the place
of a fixed name. The run on another path has no part in the age. -/
theorem age_is_built_up_again :
    let filter := empty.set "age" (.operator "gte" (.text "18"))
    let steps : List Step := [.merge "age" (.operator "lte" (.text "65")), .set "age" (.int 30),
      .merge "age" (.operator "gt" (.text "1")), .overlay (ofFields [("name", .obj [])]),
      .merge "name" (.operator "not" (.pattern "jo")), .merge "age" (.operator "lt" (.text "40"))]
    let ages : List Step := [.merge "age" (.operator "lte" (.text "65")), .set "age" (.int 30),
      .merge "age" (.operator "gt" (.text "1")), .merge "age" (.operator "lt" (.text "40"))]
    let operators := [("$gt", Condition.text "1"), ("$lt", .text "40")]
    filter.Ordered ∧ (∀ step ∈ steps, step.Ordered) ∧
      (filter.run steps).get? "age" = some (.operators operators) ∧
      (∃ base since, BuiltFrom filter steps "age" base since ∧
        operators.lookup "$lt" = (since.reverse.findSome? (·.lookup "$lt")).or (base.lookup "$lt")) ∧
      (filter.run ages).get? "age" = some (.operators operators) ∧
      "name" ∈ (filter.run steps).paths := by
  intro filter steps ages operators
  have first : (Step.set "age" (.operator "gte" (.text "18"))).Ordered := ordered_operator _ _
  have ordered : filter.Ordered := ordered_empty.apply first
  have stepsOrdered : ∀ step ∈ steps, step.Ordered := by
    simp only [steps, List.forall_mem_cons]
    exact ⟨ordered_operator _ _, trivial, ordered_operator _ _, ordered_ofFields _, ordered_operator _ _,
      ordered_operator _ _, List.forall_mem_nil _⟩
  have held : (filter.run steps).get? "age" = some (.operators operators) := by cbv
  obtain ⟨_, paths, alone, _, _, built⟩ := run_later_wins filter steps ordered stepsOrdered
  obtain ⟨_, base, since, from', later⟩ := built "age" operators held
  have ownSteps : ages.filter ("age" ∈ ·.paths) = steps.filter ("age" ∈ ·.paths) := by cbv
  have named : (Step.merge "name" (.operator "not" (.pattern "jo"))) ∈ steps := by simp [steps]
  refine ⟨ordered, stepsOrdered, held, ⟨base, since, from', later "$lt"⟩, ?_, ?_⟩
  · rw [alone "age" filter ages rfl ownSteps, held]
  · exact (paths "name").mpr (.inr ⟨_, named, List.mem_singleton_self "name"⟩)

end Filter

end ParamFilter
