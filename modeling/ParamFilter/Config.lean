import ParamFilter.Config.Placeholder
import ParamFilter.Plan
import ParamFilter.Schema.Json
import ParamFilter.Schema.Yaml

/-!
# Configuration

The schema, the paging defaults and the way to combine filters, as a file describes them. Placeholders
are filled in before the text is read as YAML, wherever they stand.
-/

namespace ParamFilter

/-- What is set up before any request. -/
structure Config where
  schema : Schema := .empty
  paging : Paging := {}
  combine : Combine := .overwrite

namespace Config

open Yaml (Document Node Reading)

/-- Whether a configuration says nothing more than no configuration does. -/
def isDefault (config : Config) : Bool :=
  config.schema.paths.isEmpty && config.paging == {} && config.combine == .overwrite

/-- What goes into a plan besides the request. -/
def options (config : Config) (fixed : Option Filter) : PlanOptions :=
  ⟨fixed, config.combine, config.paging⟩

/-- Paging defaults as JSON. -/
def pagingToJson (paging : Paging) : Json :=
  .obj [("page", .int paging.page), ("per_page", .int paging.perPage)]

/-- A configuration as JSON. -/
def toJson (config : Config) : Json :=
  .obj [("combine", .str config.combine.name), ("paging", pagingToJson config.paging),
    ("schema", config.schema.toJson)]

/-- Reads paging defaults. -/
def pagingOfNode (document : Document) (depth : Nat) (node : Node) : Reading Paging := do
  let fields ← document.fields depth node
  return ⟨← Yaml.fieldOr fields "page" 1 document.count,
    ← Yaml.fieldOr fields "per_page" 10 document.count⟩

/-- Reads a way to combine filters. -/
def combineOfNode (document : Document) (node : Node) : Reading Combine := do
  Combine.ofName? (← document.word node)

/-- Reads a configuration, given how many mappings deep it may be. -/
def ofNode (document : Document) (depth : Nat) (node : Node) : Reading Config := do
  let fields ← document.fields depth node
  return {
    schema := ← Yaml.fieldOr fields "schema" .empty (Schema.ofNode document (depth - 1))
    paging := ← Yaml.fieldOr fields "paging" {} (pagingOfNode document (depth - 1))
    combine := ← Yaml.fieldOr fields "combine" .overwrite (combineOfNode document) }

/-- Reads a configuration from a text. Pages have to hold something. -/
def ofYaml (environment : String → Option String) (text : String) : Except Fault Config := do
  let expanded ← Placeholder.expand environment text
  let read := (Document.ofText? expanded).bind fun document =>
    document.run? (ofNode document Yaml.maxDepth document.root)
  match read with
  | none => .error .malformedYaml
  | some config => if config.paging.perPage = 0 then .error .emptyPages else .ok config

end Config

end ParamFilter
