import ParamFilter.Fault
import ParamFilter.Schema
import ParamFilter.Yaml.Field

/-!
# Schemas in YAML

The same description of a schema as in JSON, with YAML's latitude: path names and tags may be any
scalars, an empty value stands for an empty mapping, and of several declarations under one name the last
counts. All of them have to be sound.
-/

namespace ParamFilter.Schema

open Yaml (Document Node Reading)

mutual

/-- Reads a schema, given how many mappings deep it may be. -/
def ofNode (document : Document) : Nat → Node → Reading Schema
  | 0, node => do
    let _ ← document.fields 0 node
    return empty
  | depth + 1, node => do
    let fields ← document.fields (depth + 1) node
    return ofList (← Yaml.fieldOr fields "paths" [] (pathsOfNode document depth))

/-- Reads declarations by name. -/
def pathsOfNode (document : Document) : Nat → Node → Reading (List (String × Declaration Schema))
  | 0, node => do
    let _ ← document.fields 0 node
    return []
  | depth + 1, node => do
    let fields ← document.fields (depth + 1) node
    fields.mapM fun (name, node) => do return (name, ← declarationOfNode document depth node)

/-- Reads one declaration. The type is required, and the inner schema may be null. -/
def declarationOfNode (document : Document) : Nat → Node → Reading (Declaration Schema)
  | 0, _ => Reading.fault
  | depth + 1, node => do
    let fields ← document.fields (depth + 1) node
    match ← Yaml.field fields "type" with
    | none => Reading.fault
    | some type =>
      let tag ← document.word type
      let child ← Yaml.fieldOr fields "schema" none fun node => do
        match ← document.nonNull node with
        | some node => return some (← ofNode document depth node)
        | none => return none
      return ⟨PathType.ofTag tag, child⟩

end

/-- Reads a schema from a text. -/
def ofYaml (text : String) : Except Fault Schema :=
  let read := (Document.ofText? text).bind fun document =>
    document.run? (ofNode document Yaml.maxDepth document.root)
  match read with
  | some schema => .ok schema
  | none => .error .malformedYaml

end ParamFilter.Schema
