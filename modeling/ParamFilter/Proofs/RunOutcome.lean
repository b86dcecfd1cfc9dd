import Mathlib
import ParamFilter.Proofs.Configurations

/-!
# How a run of the command line ends

A run whose arguments are understood either prints one plan, or stops with one fault and prints nothing.
Which of the two happens is settled before the query is looked at. The configuration is loaded first,
then the fixed filter is read, and the first fault counts. `Hindered` lists these faults; it knows
neither the query nor the way to combine filters, so neither can keep a run from its plan.

Arguments that are refused, and the notices on the error stream, are not matters of this module.
-/

namespace ParamFilter

/-- A text of JSON that is no object is no fixed filter. -/
theorem Filter.ofText_of_notObject {text : String} {json : Json}
    (read : Json.ofText? text = some json) (other : ∀ fields, json ≠ .obj fields) :
    ofText text = .error .notObject := by
  rw [ofText, read]
  cases json with
  | obj fields => exact absurd rfl (other fields)
  | _ => rfl

namespace CommandLine

/-- The fixed filter for a text: none without a text, and otherwise the object that the text holds. -/
inductive FixedBy : Option String → Option Filter → Prop
  | nothing : FixedBy none none
  | object {text : String} {fields : List (String × Json)}
      (read : Json.ofText? text = some (.obj fields)) : FixedBy (some text) (some (Filter.ofFields fields))

/-- A text, if there is one, holds an object exactly if there is a fixed filter for it. -/
theorem exists_fixedBy_iff {asked : Option String} :
    (∃ fixed, FixedBy asked fixed) ↔
      ∀ text, asked = some text → ∃ fields, Json.ofText? text = some (.obj fields) := by
  constructor
  · rintro ⟨fixed, given⟩ text rfl
    cases given with
    | object read => exact ⟨_, read⟩
  · intro object
    cases asked with
    | none => exact ⟨none, .nothing⟩
    | some text =>
      obtain ⟨fields, read⟩ := object text rfl
      exact ⟨_, .object read⟩

namespace Outcome

/-- A run prints one plan and nothing else. -/
structure Prints (outcome : Outcome) (plan : Plan) : Prop where
  succeeded : outcome.exitCode = 0
  printed : outcome.output = Json.pretty "" plan.toJson ++ "\n"

/-- A run stops with a fault and prints nothing. -/
structure Stops (outcome : Outcome) (fault : Fault) : Prop where
  failed : outcome = .failed fault
  code : outcome.exitCode = 1
  silent : outcome.output = ""

/-- A run that stops, stops with one fault. -/
theorem Stops.iff {outcome : Outcome} {fault : Fault} (stops : outcome.Stops fault) (other : Fault) :
    outcome.Stops other ↔ other = fault := by
  constructor
  · intro otherwise
    cases otherwise.failed.symm.trans stops.failed
    rfl
  · rintro rfl
    exact stops

/-- A run does not print a plan and stop. -/
theorem Prints.not_stops {outcome : Outcome} {plan : Plan} (prints : outcome.Prints plan)
    (fault : Fault) : ¬outcome.Stops fault := by
  intro stops
  cases prints.succeeded.symm.trans stops.code

end Outcome

variable {environment : String → Option String} {path : String} {found : File}

/-- What keeps a run from answering: a configuration that cannot be loaded, or, where it can be, a fixed
filter that is no object. -/
inductive Hindered (environment : String → Option String) (path : String) (found : File) :
    Option String → Fault → Prop
  | unloadable {fixed : Option String} {fault : Fault}
      (unloadable : Unloadable environment path found fault) :
      Hindered environment path found fixed fault
  | notJson {config : Config} {isMissing : Bool} {text : String}
      (loads : Loads environment path found config isMissing) (malformed : Json.ofText? text = none) :
      Hindered environment path found (some text) .malformedJson
  | notObject {config : Config} {isMissing : Bool} {text : String} {json : Json}
      (loads : Loads environment path found config isMissing)
      (read : Json.ofText? text = some json) (other : ∀ fields, json ≠ .obj fields) :
      Hindered environment path found (some text) .notObject

/-- A run is ready to answer, or it is hindered. -/
theorem ready_or_hindered (environment : String → Option String) (path : String) (found : File)
    (asked : Option String) :
    (∃ config isMissing fixed, Loads environment path found config isMissing ∧ FixedBy asked fixed) ∨
      ∃ fault, Hindered environment path found asked fault := by
  rcases loads_or_unloadable environment path found with
    ⟨config, isMissing, loads⟩ | ⟨fault, unloadable⟩
  · cases asked with
    | none => exact .inl ⟨config, isMissing, none, loads, .nothing⟩
    | some text =>
      cases read : Json.ofText? text with
      | none => exact .inr ⟨_, .notJson loads read⟩
      | some json =>
        by_cases object : ∃ fields, json = .obj fields
        · obtain ⟨fields, rfl⟩ := object
          exact .inl ⟨config, isMissing, _, loads, .object read⟩
        · exact .inr ⟨_, .notObject loads read fun fields same => object ⟨fields, same⟩⟩
  · exact .inr ⟨fault, .unloadable unloadable⟩

section Run

variable {file : String → File} {arguments : List String} {asked : Arguments}

/-- A hindered run has no answer. -/
theorem answer_of_hindered {fault : Fault}
    (hindered : Hindered environment asked.config found asked.fixed fault) :
    answer environment found asked = .error fault := by
  obtain ⟨query, config, fixed, combine, verbose⟩ := asked
  cases hindered with
  | unloadable unloadable =>
    rw [answer, loadConfig_of_unloadable unloadable]
    rfl
  | notJson loads malformed =>
    rw [answer, loadConfig_of_loads loads]
    simp only [Filter.ofText, malformed]
    rfl
  | notObject loads read other =>
    rw [answer, loadConfig_of_loads loads]
    simp only [Filter.ofText_of_notObject read other]
    rfl

/-- The plan that arguments ask for, with a configuration and a fixed filter. What the arguments say on
the way to combine filters counts before the configuration. -/
def Arguments.plan (asked : Arguments) (config : Config) (fixed : Option Filter) : Plan :=
  let settled := { config with combine := asked.combine.getD config.combine }
  Plan.ofRequest (Request.ofParams config.schema (Params.ofQuery asked.query)) (settled.options fixed)

/-- A run that is ready answers with the plan. -/
theorem answer_of_ready {config : Config} {isMissing : Bool} {fixed : Option Filter}
    (loads : Loads environment asked.config found config isMissing) (fixedBy : FixedBy asked.fixed fixed) :
    ∃ notices, answer environment found asked = .ok (notices, asked.plan config fixed) := by
  obtain ⟨query, path, text, combine, verbose⟩ := asked
  cases fixedBy with
  | nothing =>
    rw [answer, loadConfig_of_loads loads]
    exact ⟨_, rfl⟩
  | object read =>
    rw [answer, loadConfig_of_loads loads]
    simp only [Filter.ofText, read]
    exact ⟨_, rfl⟩

/-- A hindered run stops with what hinders it. -/
theorem run_of_hindered {fault : Fault} (accepted : Arguments.ofList arguments = .ok asked)
    (hindered : Hindered environment asked.config (file asked.config) asked.fixed fault) :
    (run environment file arguments).Stops fault := by
  have failed : run environment file arguments = .failed fault := by
    simp only [run, accepted, answer_of_hindered hindered]
  rw [failed]
  exact ⟨rfl, rfl, rfl⟩

/-- A run that is ready prints the plan. -/
theorem run_of_ready {config : Config} {isMissing : Bool} {fixed : Option Filter}
    (accepted : Arguments.ofList arguments = .ok asked)
    (loads : Loads environment asked.config (file asked.config) config isMissing)
    (fixedBy : FixedBy asked.fixed fixed) :
    (run environment file arguments).Prints (asked.plan config fixed) := by
  obtain ⟨notices, answers⟩ := answer_of_ready loads fixedBy
  have answered : run environment file arguments = .answered notices (asked.plan config fixed) := by
    simp only [run, accepted, answers]
  rw [answered]
  exact ⟨rfl, rfl⟩

/-- What the configuration and the fixed filter settle is the same for all queries, ways to combine
filters and flags. -/
theorem run_congr {others : List String} {other : Arguments}
    (accepted : Arguments.ofList arguments = .ok asked) (otherAccepted : Arguments.ofList others = .ok other)
    (samePath : other.config = asked.config) (sameFixed : other.fixed = asked.fixed) :
    (run environment file others).exitCode = (run environment file arguments).exitCode ∧
      ∀ fault, (run environment file others).Stops fault ↔
        (run environment file arguments).Stops fault := by
  rcases ready_or_hindered environment asked.config (file asked.config) asked.fixed with
    ⟨config, isMissing, fixed, loads, fixedBy⟩ | ⟨fault, hindered⟩
  · have prints := run_of_ready accepted loads fixedBy
    rw [← samePath] at loads
    rw [← sameFixed] at fixedBy
    have otherPrints := run_of_ready otherAccepted loads fixedBy
    refine ⟨otherPrints.succeeded.trans prints.succeeded.symm, fun fault => ?_⟩
    exact iff_of_false (otherPrints.not_stops fault) (prints.not_stops fault)
  · have stops := run_of_hindered accepted hindered
    rw [← samePath, ← sameFixed] at hindered
    have otherStops := run_of_hindered otherAccepted hindered
    refine ⟨otherStops.code.trans stops.code.symm, fun fault => ?_⟩
    rw [otherStops.iff, stops.iff]

/-- A run succeeds exactly if nothing hinders it. -/
theorem exitCode_run_eq_zero_iff (accepted : Arguments.ofList arguments = .ok asked) :
    (run environment file arguments).exitCode = 0 ↔
      (∃ config isMissing, Loads environment asked.config (file asked.config) config isMissing) ∧
        ∃ fixed, FixedBy asked.fixed fixed := by
  constructor
  · intro succeeded
    rcases ready_or_hindered environment asked.config (file asked.config) asked.fixed with
      ⟨config, isMissing, fixed, loads, fixedBy⟩ | ⟨fault, hindered⟩
    · exact ⟨⟨config, isMissing, loads⟩, fixed, fixedBy⟩
    · cases succeeded.symm.trans (run_of_hindered accepted hindered).code
  · rintro ⟨⟨config, isMissing, loads⟩, fixed, fixedBy⟩
    exact (run_of_ready accepted loads fixedBy).succeeded

/-- A run that does not succeed stops. -/
theorem exists_stops_run (accepted : Arguments.ofList arguments = .ok asked)
    (unsuccessful : (run environment file arguments).exitCode ≠ 0) :
    ∃ fault, (run environment file arguments).Stops fault := by
  rcases ready_or_hindered environment asked.config (file asked.config) asked.fixed with
    ⟨config, isMissing, fixed, loads, fixedBy⟩ | ⟨fault, hindered⟩
  · exact absurd (run_of_ready accepted loads fixedBy).succeeded unsuccessful
  · exact ⟨fault, run_of_hindered accepted hindered⟩

/-- The command line is all or nothing.

Let arguments be understood. Then the run succeeds exactly if the configuration can be loaded and the
fixed filter, if there is one, is an object; it prints the plan that is asked for. Otherwise it stops with
one fault and prints nothing. A fault of the configuration counts before any of the fixed filter, and
neither depends on the query. The last parts say how a configuration is loaded: the default stands in
for one missing file only, and all that can be wrong with a text is a fault of the configuration. -/
theorem run_all_or_nothing (environment : String → Option String) (file : String → File)
    {arguments : List String} {asked : Arguments} (accepted : Arguments.ofList arguments = .ok asked) :
    let outcome := run environment file arguments
    let found := file asked.config
    let load := loadConfig environment asked.config found
    (outcome.exitCode = 0 ↔ (∃ loaded, load = .ok loaded) ∧
      ∀ text, asked.fixed = some text → ∃ fields, Json.ofText? text = some (.obj fields)) ∧
    (∀ config isMissing fixed, load = .ok (config, isMissing) → FixedBy asked.fixed fixed →
      outcome.Prints (asked.plan config fixed)) ∧
    (outcome.exitCode ≠ 0 → ∃ fault, outcome.Stops fault) ∧
    (∀ fault, load = .error fault → outcome.Stops fault) ∧
    (∀ loaded text, load = .ok loaded → asked.fixed = some text →
      (Json.ofText? text = none → ∃ fault, outcome.Stops fault ∧ fault.kind = .serialization) ∧
      ∀ json, Json.ofText? text = some json → (∀ fields, json ≠ .obj fields) →
        ∃ fault, outcome.Stops fault ∧ fault.kind = .badRequest) ∧
    (∀ others other, Arguments.ofList others = .ok other → other.config = asked.config →
      other.fixed = asked.fixed → (run environment file others).exitCode = outcome.exitCode ∧
        ∀ fault, (run environment file others).Stops fault ↔ outcome.Stops fault) ∧
    ((∀ config, load = .ok (config, true) ↔
        config = {} ∧ asked.config = "config.yaml" ∧ found = .missing) ∧
      (∀ config, load = .ok (config, false) ↔
        ∃ content, found = .text content ∧ Config.Accepted environment content config) ∧
      (∀ fault, load = .error fault ↔ Unloadable environment asked.config found fault) ∧
      ∀ fault, load = .error fault → found ≠ .unreadable → fault.kind = .configuration) := by
  intro outcome found load
  have loaded : ∀ config isMissing, load = .ok (config, isMissing) ↔
      Loads environment asked.config found config isMissing := fun config isMissing =>
    loadConfig_eq_ok_iff
  have failed : ∀ fault, load = .error fault ↔ Unloadable environment asked.config found fault :=
    fun fault => loadConfig_eq_error_iff
  refine ⟨?_, ?_, exists_stops_run accepted, ?_, ?_, ?_, ?_, ?_, failed, ?_⟩
  · rw [exitCode_run_eq_zero_iff accepted, exists_fixedBy_iff, Prod.exists]
    simp only [loaded, found]
  · intro config isMissing fixed loads fixedBy
    exact run_of_ready accepted ((loaded config isMissing).mp loads) fixedBy
  · intro fault unloadable
    exact run_of_hindered accepted (.unloadable ((failed fault).mp unloadable))
  · rintro ⟨config, isMissing⟩ text loads given
    have hindered : ∀ fault, Hindered environment asked.config found (some text) fault →
        outcome.Stops fault := fun fault hindered =>
      run_of_hindered accepted (by rwa [given])
    have ready := (loaded config isMissing).mp loads
    constructor
    · intro malformed
      exact ⟨_, hindered _ (.notJson ready malformed), rfl⟩
    · intro json read other
      exact ⟨_, hindered _ (.notObject ready read other), rfl⟩
  · intro others other otherAccepted samePath sameFixed
    exact run_congr accepted otherAccepted samePath sameFixed
  · exact fun config => (loaded config true).trans loads_true_iff
  · exact fun config => (loaded config false).trans loads_false_iff
  · exact fun fault unloadable readable => ((failed fault).mp unloadable).kind_eq readable

/-- Without any file, a fixed object is merged into the plan under the default configuration. A fixed
list stops the run, and under another name the missing configuration stops it before the list does. -/
theorem outcomes_without_files :
    let file := fun _ : String => File.missing
    let environment := fun _ : String => (none : Option String)
    let merged := ["page=2", "--combine", "merge", "--find-cond=\x7b\"a\":1\x7d"]
    let asked : Arguments := ⟨"page=2", "config.yaml", some "\x7b\"a\":1\x7d", some .merge, false⟩
    let listed := ["--find-cond", "[1]", "page=2"]
    let elsewhere := ["page=2", "--find-cond", "[1]", "-cother.yaml"]
    (Arguments.ofList merged = .ok asked ∧
      (run environment file merged).Prints (asked.plan {} (some (Filter.ofFields [("a", .int 1)])))) ∧
    (Arguments.ofList listed = .ok ⟨"page=2", "config.yaml", some "[1]", none, false⟩ ∧
      ∃ fault, (run environment file listed).Stops fault ∧ fault.kind = .badRequest) ∧
    (Arguments.ofList elsewhere = .ok ⟨"page=2", "other.yaml", some "[1]", none, false⟩ ∧
      (run environment file elsewhere).Stops (.missingConfig "other.yaml")) := by
  intro file environment merged asked listed elsewhere
  have mergedAccepted : Arguments.ofList merged = .ok asked := by cbv
  have listedAccepted :
      Arguments.ofList listed = .ok ⟨"page=2", "config.yaml", some "[1]", none, false⟩ := by cbv
  have elsewhereAccepted :
      Arguments.ofList elsewhere = .ok ⟨"page=2", "other.yaml", some "[1]", none, false⟩ := by cbv
  have object : Json.ofText? "\x7b\"a\":1\x7d" = some (.obj [("a", .int 1)]) := by cbv
  have list : Json.ofText? "[1]" = some (.arr [.int 1]) := by cbv
  have noObject : ∀ fields, Json.arr [.int 1] ≠ .obj fields := by simp
  have prints := (run_all_or_nothing environment file mergedAccepted).2.1 {} true _ rfl (.object object)
  have badRequest := ((run_all_or_nothing environment file listedAccepted).2.2.2.2.1 ({}, true) "[1]" rfl
    rfl).2 _ list noObject
  have missing := (run_all_or_nothing environment file elsewhereAccepted).2.2.2.1
    (.missingConfig "other.yaml") rfl
  exact ⟨⟨mergedAccepted, prints⟩, ⟨listedAccepted, badRequest⟩, elsewhereAccepted, missing⟩

end Run

end CommandLine

end ParamFilter
