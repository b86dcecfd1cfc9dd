import ParamFilter.Keyed

/-!
# Schemas

A schema declares, for each path of a document, a type and possibly a schema for what is inside. The
type decides how the values of a parameter are coerced. Two of the types are containers, into which a
dotted key may descend; a container without a schema of its own is an untyped region.
-/

namespace ParamFilter

/-- How the values of a field are read. A field of unknown kind gives no condition. -/
inductive Kind where
  | boolean
  | number
  | string
  | date
  | identifier
  | geoPoint
  | unknown
  deriving DecidableEq, Repr

/-- The name of a kind in messages. -/
def Kind.name : Kind → String
  | boolean => "Boolean"
  | number => "Number"
  | string => "String"
  | date => "Date"
  | identifier => "Identifier"
  | geoPoint => "GeoPoint"
  | unknown => "Unknown"

/-- The declared type of a path. -/
inductive PathType where
  | boolean
  | string
  /-- A list of plain values. -/
  | array
  | objectId
  | number
  | date
  /-- A list of documents with a schema of their own. -/
  | documentArray
  /-- A container of whatever the documents hold. -/
  | mixed
  | unsupported
  deriving DecidableEq, Repr

namespace PathType

/-- The types that have a tag of their own; every other tag is unsupported. -/
def all : List PathType :=
  [boolean, string, array, objectId, number, date, documentArray, mixed, unsupported]

/-- The tag that stands for a type in schema descriptions. -/
def tag : PathType → String
  | boolean => "boolean"
  | string => "string"
  | array => "array"
  | objectId => "objectId"
  | number => "number"
  | date => "date"
  | documentArray => "documentArray"
  | mixed => "mixed"
  | unsupported => "unsupported"

/-- The type that a tag stands for. Tags are compared exactly, and unknown ones are unsupported. -/
def ofTag (tag : String) : PathType := (all.find? (·.tag = tag)).getD unsupported

/-- The name of a type in messages. -/
def name : PathType → String
  | boolean => "Boolean"
  | string => "String"
  | array => "Array"
  | objectId => "ObjectId"
  | number => "Number"
  | date => "Date"
  | documentArray => "DocumentArray"
  | mixed => "Mixed"
  | unsupported => "Unsupported"

/-- Whether a dotted key may descend into a path of this type. -/
def isContainer : PathType → Bool
  | documentArray | mixed => true
  | _ => false

/-- The kind of a field of this type. Containers are no fields. -/
def kind : PathType → Kind
  | boolean => .boolean
  | string | array => .string
  | objectId => .identifier
  | number => .number
  | date => .date
  | documentArray | mixed | unsupported => .unknown

@[simp] theorem ofTag_tag (type : PathType) : ofTag type.tag = type := by cases type <;> decide

end PathType

/-- The declaration of one path, with the schema of what is inside, if it has one. -/
structure Declaration (σ : Type) where
  type : PathType
  child : Option σ
  deriving DecidableEq

/-- The declarations of all paths, in the order of their names. -/
inductive Schema where
  | mk (paths : List (String × Declaration Schema))

namespace Schema

/-- The declarations with their names. -/
def paths : Schema → List (String × Declaration Schema)
  | mk paths => paths

/-- The schema that declares nothing. -/
def empty : Schema := mk []

/-- Declares a path, in place of an earlier declaration of the same name. -/
def declare (schema : Schema) (name : String) (declaration : Declaration Schema) : Schema :=
  mk (Keyed.insert name declaration schema.paths)

/-- The schema of the given declarations, the last of several under one name. -/
def ofList (declarations : List (String × Declaration Schema)) : Schema :=
  mk (Keyed.ofList declarations)

/-- The declaration of exactly this name. -/
def path? (schema : Schema) (name : String) : Option (Declaration Schema) :=
  schema.paths.lookup name

mutual

/-- Whether the names strictly increase at every depth. -/
def Ordered : Schema → Prop
  | mk paths => Keyed.Ascending paths ∧ PathsOrdered paths

/-- Whether the schemas inside the declarations are ordered. -/
def PathsOrdered : List (String × Declaration Schema) → Prop
  | [] => True
  | (_, ⟨_, none⟩) :: rest => PathsOrdered rest
  | (_, ⟨_, some child⟩) :: rest => Ordered child ∧ PathsOrdered rest

end

end Schema

end ParamFilter
