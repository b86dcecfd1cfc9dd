import ParamFilter.Json
import ParamFilter.Schema

/-!
# Schemas as JSON

A schema is written as an object whose member `paths` holds the declarations by name; a declaration
has its tag under `type` and its inner schema, if there is one, under `schema`. Reading is more generous
than writing. Members with other names are passed over, missing paths are no paths, and an inner schema
may be null. A tag may be wrapped into an object as the only key, over null. And an object of
known members may be written as the list of their values in order, where members at the end may be
left out.
-/

namespace ParamFilter

/-- Reads a type from its tag. -/
def PathType.ofJson? : Json → Option PathType
  | .str tag => some (ofTag tag)
  | .obj [(tag, .null)] => some (ofTag tag)
  | _ => none

namespace Schema

mutual

/-- A schema as JSON. -/
def toJson : Schema → Json
  | mk paths => .obj [("paths", .obj (pathsToJson paths))]

/-- The declarations by name. -/
def pathsToJson : List (String × Declaration Schema) → List (String × Json)
  | [] => []
  | (name, ⟨type, none⟩) :: rest => (name, .obj [("type", .str type.tag)]) :: pathsToJson rest
  | (name, ⟨type, some child⟩) :: rest =>
    (name, .obj [("schema", toJson child), ("type", .str type.tag)]) :: pathsToJson rest

end

/-- A declaration as JSON. -/
def declarationToJson (declaration : Declaration Schema) : Json :=
  .obj <| (declaration.child.toList.map fun child => ("schema", child.toJson)) ++
    [("type", .str declaration.type.tag)]

/-- What a value says of an inner schema, given what it reads as: null stands for none. -/
def childOf? : Json → Option Schema → Option (Option Schema)
  | .null, _ => some none
  | _, read => read.map some

mutual

/-- Reads a schema. -/
def ofJson? : Json → Option Schema
  | .obj fields => (pathsField? fields).map ofList
  | .arr [] => some empty
  | .arr [.obj paths] => (declarations? paths).map ofList
  | _ => none

/-- Reads the declarations under the member `paths`; without it there are none. -/
def pathsField? : List (String × Json) → Option (List (String × Declaration Schema))
  | [] => some []
  | (key, value) :: rest =>
    if key = "paths" then
      match value with
      | .obj paths => declarations? paths
      | _ => none
    else pathsField? rest

/-- Reads declarations by name. -/
def declarations? : List (String × Json) → Option (List (String × Declaration Schema))
  | [] => some []
  | (name, value) :: rest => do
    let declaration ← declaration? value
    return (name, declaration) :: (← declarations? rest)

/-- Reads one declaration. -/
def declaration? : Json → Option (Declaration Schema)
  | .obj fields => do
    let type ← PathType.ofJson? (← fields.lookup "type")
    return ⟨type, ← childField? fields⟩
  | .arr [type] => (PathType.ofJson? type).map (⟨·, none⟩)
  | .arr [type, child] => do
    return ⟨← PathType.ofJson? type, ← childOf? child (ofJson? child)⟩
  | _ => none

/-- Reads the inner schema under the member `schema`; without it there is none. -/
def childField? : List (String × Json) → Option (Option Schema)
  | [] => some none
  | (key, value) :: rest =>
    if key = "schema" then childOf? value (ofJson? value) else childField? rest

end

end Schema

end ParamFilter
