import Mathlib
import ParamFilter.CommandLine.Outcome
import ParamFilter.Proofs.PageWindow

/-!
# Configurations that are accepted

Which texts are configurations, and why the others are not: a placeholder cannot be filled, the text
describes nothing, or its pages hold nothing. A file with such a text cannot be loaded, and the fault
says so, whatever the cause was. Only the file that nobody named may be missing.

An accepted configuration promises pages that hold something, and the plan keeps this promise for the
default size. It does not keep it for a size that the request names: zero is a count, and it is taken
as it is. `limit_of_accepted` says that this is the only way to an empty page.

How YAML is read is not a matter of this module.
-/

namespace ParamFilter

namespace Config

open Yaml (Document)

/-- The configuration that a text describes once its placeholders are filled. -/
def described? (expanded : String) : Option Config :=
  (Document.ofText? expanded).bind fun document =>
    document.run? (ofNode document Yaml.maxDepth document.root)

variable {environment : String → Option String} {text : String} {cause : Fault} {config : Config}

/-- A text is a configuration. -/
structure Accepted (environment : String → Option String) (text : String) (config : Config) : Prop where
  described : ∃ expanded, Placeholder.expand environment text = .ok expanded ∧
    described? expanded = some config
  filledPages : 1 ≤ config.paging.perPage

/-- A text is no configuration, for a reason. -/
inductive Rejected (environment : String → Option String) (text : String) : Fault → Prop
  | unfilled {cause : Fault} (unset : Placeholder.expand environment text = .error cause) :
      Rejected environment text cause
  | malformed {expanded : String} (filled : Placeholder.expand environment text = .ok expanded)
      (nothing : described? expanded = none) : Rejected environment text .malformedYaml
  | emptyPages {expanded : String} {config : Config}
      (filled : Placeholder.expand environment text = .ok expanded)
      (described : described? expanded = some config) (empty : config.paging.perPage = 0) :
      Rejected environment text .emptyPages

/-- A text whose placeholders cannot be filled is not read. -/
theorem ofYaml_of_unfilled (unset : Placeholder.expand environment text = .error cause) :
    ofYaml environment text = .error cause := by
  rw [ofYaml, unset]
  rfl

/-- A text whose placeholders are filled is read, and its pages are looked at. -/
theorem ofYaml_of_filled {expanded : String}
    (filled : Placeholder.expand environment text = .ok expanded) :
    ofYaml environment text = match described? expanded with
      | none => .error .malformedYaml
      | some config => if config.paging.perPage = 0 then .error .emptyPages else .ok config := by
  rw [ofYaml, filled]
  rfl

theorem ofYaml_of_accepted (accepted : Accepted environment text config) :
    ofYaml environment text = .ok config := by
  obtain ⟨⟨expanded, filled, described⟩, filledPages⟩ := accepted
  rw [ofYaml_of_filled filled, described]
  exact if_neg (Nat.one_le_iff_ne_zero.mp filledPages)

theorem ofYaml_of_rejected (rejected : Rejected environment text cause) :
    ofYaml environment text = .error cause := by
  cases rejected with
  | unfilled unset => exact ofYaml_of_unfilled unset
  | malformed filled nothing => rw [ofYaml_of_filled filled, nothing]
  | emptyPages filled described empty =>
    rw [ofYaml_of_filled filled, described]
    exact if_pos empty

/-- A text is a configuration, or it is none for a reason. -/
theorem accepted_or_rejected (environment : String → Option String) (text : String) :
    (∃ config, Accepted environment text config) ∨ ∃ cause, Rejected environment text cause := by
  cases expansion : Placeholder.expand environment text with
  | error cause => exact .inr ⟨cause, .unfilled expansion⟩
  | ok expanded =>
    cases reading : described? expanded with
    | none => exact .inr ⟨_, .malformed expansion reading⟩
    | some config =>
      by_cases empty : config.paging.perPage = 0
      · exact .inr ⟨_, .emptyPages expansion reading empty⟩
      · exact .inl ⟨config, ⟨expanded, expansion, reading⟩, Nat.one_le_iff_ne_zero.mpr empty⟩

/-- The configurations that are read are the accepted ones. -/
theorem ofYaml_eq_ok_iff : ofYaml environment text = .ok config ↔ Accepted environment text config := by
  refine ⟨fun read => ?_, ofYaml_of_accepted⟩
  rcases accepted_or_rejected environment text with ⟨other, accepted⟩ | ⟨cause, rejected⟩
  · obtain rfl : other = config := by simpa [ofYaml_of_accepted accepted] using read
    exact accepted
  · cases read.symm.trans (ofYaml_of_rejected rejected)

/-- The faults of a text are the reasons to reject it. -/
theorem ofYaml_eq_error_iff : ofYaml environment text = .error cause ↔ Rejected environment text cause := by
  refine ⟨fun read => ?_, ofYaml_of_rejected⟩
  rcases accepted_or_rejected environment text with ⟨config, accepted⟩ | ⟨other, rejected⟩
  · cases read.symm.trans (ofYaml_of_accepted accepted)
  · obtain rfl : other = cause := by simpa [ofYaml_of_rejected rejected] using read
    exact rejected

end Config

namespace CommandLine

variable {environment : String → Option String} {path : String} {found : File} {config : Config}
  {isMissing : Bool} {fault : Fault}

/-- What is found under a path gives a configuration: its text does, or the empty configuration stands
in for the one file that may be missing. -/
inductive Loads (environment : String → Option String) (path : String) :
    File → Config → Bool → Prop
  | unnamed (default : path = "config.yaml") : Loads environment path .missing {} true
  | text {content : String} {config : Config}
      (accepted : Config.Accepted environment content config) :
      Loads environment path (.text content) config false

/-- The empty configuration stands in for one file only, and only while it is missing. -/
theorem loads_true_iff :
    Loads environment path found config true ↔ config = {} ∧ path = "config.yaml" ∧ found = .missing := by
  constructor
  · intro loads
    cases loads with
    | unnamed default => exact ⟨rfl, default, rfl⟩
  · rintro ⟨rfl, default, rfl⟩
    exact .unnamed default

/-- Any other configuration is a text that is accepted. -/
theorem loads_false_iff :
    Loads environment path found config false ↔
      ∃ content, found = .text content ∧ Config.Accepted environment content config := by
  constructor
  · intro loads
    cases loads with
    | text accepted => exact ⟨_, rfl, accepted⟩
  · rintro ⟨content, rfl, accepted⟩
    exact .text accepted

/-- What is found under a path gives none. -/
inductive Unloadable (environment : String → Option String) (path : String) : File → Fault → Prop
  | missing (named : path ≠ "config.yaml") : Unloadable environment path .missing (.missingConfig path)
  | unreadable : Unloadable environment path .unreadable .unreadable
  | broken {content : String} {cause : Fault} (rejected : Config.Rejected environment content cause) :
      Unloadable environment path (.text content) (.brokenConfig path cause)

/-- A file that is there and can be read is at fault as a configuration only, and so is a missing one. -/
theorem Unloadable.kind_eq (unloadable : Unloadable environment path found fault)
    (readable : found ≠ .unreadable) : fault.kind = .configuration := by
  cases unloadable with
  | missing => rfl
  | unreadable => exact absurd rfl readable
  | broken => rfl

theorem loadConfig_of_loads (loads : Loads environment path found config isMissing) :
    loadConfig environment path found = .ok (config, isMissing) := by
  cases loads with
  | unnamed default => exact if_pos default
  | text accepted => rw [loadConfig, Config.ofYaml_of_accepted accepted]

theorem loadConfig_of_unloadable (unloadable : Unloadable environment path found fault) :
    loadConfig environment path found = .error fault := by
  cases unloadable with
  | missing named => exact if_neg named
  | unreadable => rfl
  | broken rejected => rw [loadConfig, Config.ofYaml_of_rejected rejected]

/-- Whatever is found gives a configuration or a fault. -/
theorem loads_or_unloadable (environment : String → Option String) (path : String) (found : File) :
    (∃ config isMissing, Loads environment path found config isMissing) ∨
      ∃ fault, Unloadable environment path found fault := by
  cases found with
  | missing =>
    by_cases default : path = "config.yaml"
    · exact .inl ⟨_, _, .unnamed default⟩
    · exact .inr ⟨_, .missing default⟩
  | unreadable => exact .inr ⟨_, .unreadable⟩
  | text content =>
    rcases Config.accepted_or_rejected environment content with ⟨config, accepted⟩ | ⟨cause, rejected⟩
    · exact .inl ⟨config, _, .text accepted⟩
    · exact .inr ⟨_, .broken rejected⟩

/-- The configuration step succeeds with what is found, or with the default. -/
theorem loadConfig_eq_ok_iff :
    loadConfig environment path found = .ok (config, isMissing) ↔
      Loads environment path found config isMissing := by
  refine ⟨fun loaded => ?_, loadConfig_of_loads⟩
  rcases loads_or_unloadable environment path found with ⟨other, missing, loads⟩ | ⟨fault, unloadable⟩
  · obtain ⟨rfl, rfl⟩ : other = config ∧ missing = isMissing := by
      simpa [loadConfig_of_loads loads] using loaded
    exact loads
  · cases loaded.symm.trans (loadConfig_of_unloadable unloadable)

/-- The configuration step fails for a reason. -/
theorem loadConfig_eq_error_iff :
    loadConfig environment path found = .error fault ↔ Unloadable environment path found fault := by
  refine ⟨fun loaded => ?_, loadConfig_of_unloadable⟩
  rcases loads_or_unloadable environment path found with ⟨config, missing, loads⟩ | ⟨other, unloadable⟩
  · cases loaded.symm.trans (loadConfig_of_loads loads)
  · obtain rfl : other = fault := by simpa [loadConfig_of_unloadable unloadable] using loaded
    exact unloadable

end CommandLine

namespace Plan

/-- A page holds something unless the request asks for nothing.

Take a configuration that is accepted, and any request without a limit or an amount to skip. If its plan
has a limit at all, this is the size that the request names last and that is a number; where none is, it
is the default, which is at least one. So the limit is zero exactly if the request names zero. -/
theorem limit_of_accepted {environment : String → Option String} {text : String} {config : Config}
    (accepted : Config.ofYaml environment text = .ok config) (schema : Schema) (params : Params)
    (fixed : Option Filter) :
    let request := Request.ofParams schema params
    let plan := ofRequest request (config.options fixed)
    request.directives.limit = none → request.directives.skip = none →
      ∀ limit, plan.limit = some limit →
        limit = (params.lastCount? .perPage).getD config.paging.perPage ∧
          (1 ≤ limit ↔ params.lastCount? .perPage ≠ some 0) := by
  intro request plan noLimit noSkip limit given
  have filledPages : 1 ≤ config.paging.perPage := (Config.ofYaml_eq_ok_iff.mp accepted).filledPages
  have perPageHeld := Request.count?_ofParams schema params .perPage
  simp only [Directives.count?] at perPageHeld
  have size : limit = (params.lastCount? .perPage).getD config.paging.perPage := by
    by_cases paged : request.directives.page.isSome = true ∨ request.directives.perPage.isSome = true
    · have settled := congrArg Prod.fst (window_of_page noLimit noSkip paged config.paging)
      rw [perPageHeld] at settled
      exact Option.some.inj (given.symm.trans settled)
    · rw [not_or] at paged
      have settled := congrArg Prod.fst (window_of_nothing noLimit noSkip (by simpa using paged.1)
        (by simpa using paged.2) config.paging)
      cases given.symm.trans settled
  refine ⟨size, ?_⟩
  cases named : params.lastCount? .perPage with
  | none =>
    rw [named] at size
    simpa [size] using filledPages
  | some n =>
    rw [named] at size
    simp [size, Nat.one_le_iff_ne_zero]

/-- A size that is no number leaves the default of the configuration. -/
theorem second_page_of_default_size :
    let config : Config := {}
    let params := Params.ofQuery "page=2&per_page=all"
    let request := Request.ofParams config.schema params
    let plan := ofRequest request (config.options none)
    Config.ofYaml (fun _ => none) "{}" = .ok config ∧
      request.directives.limit = none ∧ request.directives.skip = none ∧
      ∃ limit, plan.limit = some limit ∧ limit = 10 ∧ 1 ≤ limit := by
  intro config params request plan
  have accepted : Config.ofYaml (fun _ => none) "{}" = .ok config := by cbv
  have evaluated : (Request.ofParams .empty (Params.ofQuery "page=2&per_page=all")).directives =
      { page := some 2 } := by cbv
  have read : request.directives = { page := some 2 } := evaluated
  have noLimit : request.directives.limit = none := by rw [read]
  have noSkip : request.directives.skip = none := by rw [read]
  have settled : window request.directives config.paging = (some 10, some 10) := by rw [read]; rfl
  have given : plan.limit = some 10 := congrArg Prod.fst settled
  have unnamed : params.lastCount? .perPage = none :=
    (Request.count?_ofParams config.schema params .perPage).symm.trans (congrArg Directives.perPage read)
  obtain ⟨size, positive⟩ := limit_of_accepted accepted config.schema params none noLimit noSkip 10 given
  refine ⟨accepted, noLimit, noSkip, 10, given, ?_, positive.mpr (by simp [unnamed])⟩
  rw [size, unnamed]

/-- A request that names the size zero gets a page that holds nothing, whatever the configuration says
on pages. -/
theorem page_of_nothing :
    let config : Config := {}
    let request := Request.ofParams config.schema (Params.ofQuery "page=2&per_page=0")
    let plan := ofRequest request (config.options none)
    Config.ofYaml (fun _ => none) "{}" = .ok config ∧
      request.directives.limit = none ∧ request.directives.skip = none ∧
      plan.limit = some 0 ∧ plan.skip = some 0 := by
  intro config request plan
  have accepted : Config.ofYaml (fun _ => none) "{}" = .ok config := by cbv
  have evaluated : (Request.ofParams .empty (Params.ofQuery "page=2&per_page=0")).directives =
      { page := some 2, perPage := some 0 } := by cbv
  have read : request.directives = { page := some 2, perPage := some 0 } := evaluated
  have settled : window request.directives config.paging = (some 0, some 0) := by rw [read]; rfl
  exact ⟨accepted, by rw [read], by rw [read], congrArg Prod.fst settled, congrArg Prod.snd settled⟩

end Plan

end ParamFilter
