import Mathlib
import ParamFilter.Schema.Json
import ParamFilter.Schema.Yaml

/-!
# Schemas that are written and read again

A schema that is written as JSON and read again is the same schema, however deep it is. The reader accepts
more than the writer makes: members that nobody knows, tags that nobody knows, null for a missing inner
schema, and lists of values for objects. What it makes of them is a schema like any other, so the second
writing is the first one.

Names stand in order at every depth of a schema, once each, and this is what makes equal schemas equal. It
is not assumed of anything that is read: both readers put names in order, and so does a declaration.
-/

namespace ParamFilter.Schema

section Order

theorem pathsOrdered_cons {name : String} {declaration : Declaration Schema}
    {rest : List (String × Declaration Schema)} : PathsOrdered ((name, declaration) :: rest) ↔
      (∀ child ∈ declaration.child, child.Ordered) ∧ PathsOrdered rest := by
  obtain ⟨type, child⟩ := declaration
  cases child <;> simp [PathsOrdered]

/-- The schemas inside declarations are ordered, one by one. -/
theorem pathsOrdered_iff {paths : List (String × Declaration Schema)} :
    PathsOrdered paths ↔ ∀ entry ∈ paths, ∀ child ∈ entry.2.child, child.Ordered := by
  induction paths with
  | nil => simp [PathsOrdered]
  | cons entry rest ih => rw [pathsOrdered_cons, ih, List.forall_mem_cons]

theorem ordered_empty : empty.Ordered := ⟨Keyed.ascending_nil, trivial⟩

/-- A declaration keeps the order, if the schema inside it is ordered. -/
theorem Ordered.declare {schema : Schema} (ordered : schema.Ordered) (name : String)
    {declaration : Declaration Schema}
    (inner : ∀ child ∈ declaration.child, child.Ordered) :
    (schema.declare name declaration).Ordered := by
  obtain ⟨paths⟩ := schema
  obtain ⟨ascending, children⟩ := ordered
  refine ⟨ascending.insert name declaration, pathsOrdered_iff.mpr fun entry member => ?_⟩
  rcases Keyed.mem_insert member with rfl | held
  · exact inner
  · exact pathsOrdered_iff.mp children entry held

/-- Putting declarations together gives an order, if the schemas inside them have one. -/
theorem ordered_ofList {declarations : List (String × Declaration Schema)}
    (inner : PathsOrdered declarations) : (ofList declarations).Ordered := by
  refine ⟨Keyed.ascending_ofList declarations, pathsOrdered_iff.mpr fun entry member => ?_⟩
  rcases Keyed.mem_union member with given | held
  · exact pathsOrdered_iff.mp inner entry given
  · cases held

end Order

section Json

/-- A declaration without an inner schema is read as one without. -/
theorem declaration?_of_bare (type : PathType) :
    declaration? (.obj [("type", .str type.tag)]) = some ⟨type, none⟩ := by
  simp [declaration?, childField?, PathType.ofJson?]

/-- A declaration with an inner schema is read with what its object is read as. An object is not null, so
the inner schema is not lost even if it declares nothing. -/
theorem declaration?_of_child {child : Schema} (read : ofJson? child.toJson = some child)
    (type : PathType) :
    declaration? (.obj [("schema", child.toJson), ("type", .str type.tag)]) =
      some ⟨type, some child⟩ := by
  have kept : childOf? child.toJson (ofJson? child.toJson) = some (some child) := by
    obtain ⟨paths⟩ := child
    rw [read]
    rfl
  have tag : List.lookup "type" [("schema", child.toJson), ("type", Json.str type.tag)] =
      some (.str type.tag) := rfl
  simp [declaration?, childField?, PathType.ofJson?, kept, tag]

mutual

/-- What is written of an ordered schema is read as this schema. -/
theorem ofJson?_toJson : ∀ {schema : Schema}, schema.Ordered → ofJson? schema.toJson = some schema
  | mk paths, ⟨ascending, children⟩ => by
    have read : pathsField? [("paths", .obj (pathsToJson paths))] = some paths :=
      declarations?_pathsToJson children
    rw [toJson, ofJson?, read, Option.map_some, ofList, ascending.ofList_eq]

/-- What is written of declarations is read as these. -/
theorem declarations?_pathsToJson : ∀ {paths : List (String × Declaration Schema)},
    PathsOrdered paths → declarations? (pathsToJson paths) = some paths
  | [], _ => rfl
  | (name, ⟨type, none⟩) :: rest, children => by
    have others : declarations? (pathsToJson rest) = some rest := declarations?_pathsToJson children
    rw [pathsToJson, declarations?, declaration?_of_bare, others]
    rfl
  | (name, ⟨type, some child⟩) :: rest, ⟨inner, children⟩ => by
    have others := declarations?_pathsToJson children
    rw [pathsToJson, declarations?, declaration?_of_child (ofJson?_toJson inner), others]
    rfl

end

/-- An inner schema is one that has been read. -/
theorem mem_of_childOf? {json : Json} {read : Option Schema} {held : Option Schema}
    (kept : held ∈ childOf? json read) {child : Schema} (here : child ∈ held) : child ∈ read := by
  unfold childOf? at kept
  split at kept
  · obtain rfl := Option.some.inj kept
    cases here
  · obtain ⟨schema, same, rfl⟩ := Option.map_eq_some_iff.mp kept
    exact same.trans here

/-- Whatever is read as a schema is ordered, and so are the schemas inside of whatever is read as
declarations.

The induction is on the reader, one case for each form that it takes. Only schemas are put in order, and
their parts pass on what they hold. -/
theorem ordered_of_read :
    (∀ json, ∀ schema ∈ ofJson? json, schema.Ordered) ∧
    (∀ entries, ∀ declarations ∈ declarations? entries, PathsOrdered declarations) ∧
    (∀ json, ∀ declaration ∈ declaration? json, ∀ child ∈ declaration.child, child.Ordered) ∧
    (∀ fields, ∀ held ∈ childField? fields, ∀ child ∈ held, child.Ordered) ∧
    (∀ fields, ∀ declarations ∈ pathsField? fields, PathsOrdered declarations) := by
  refine ofJson?.mutual_induct_unfolding
    (fun _ read => ∀ schema ∈ read, schema.Ordered)
    (fun _ read => ∀ declarations ∈ read, PathsOrdered declarations)
    (fun _ read => ∀ declaration ∈ read, ∀ child ∈ declaration.child, child.Ordered)
    (fun _ read => ∀ held ∈ read, ∀ child ∈ held, child.Ordered)
    (fun _ read => ∀ declarations ∈ read, PathsOrdered declarations)
    ?object ?nothing ?list ?noSchema ?fields ?tagAlone ?tagAndChild ?noDeclaration ?noEntries ?entries
    ?childless ?child ?otherMember ?pathless ?paths ?noPaths ?otherField
  case object =>
    intro fields inner schema read
    obtain ⟨declarations, found, rfl⟩ := Option.map_eq_some_iff.mp read
    exact ordered_ofList (inner declarations found)
  case nothing =>
    rintro schema ⟨⟩
    exact ordered_empty
  case list =>
    intro paths inner schema read
    obtain ⟨declarations, found, rfl⟩ := Option.map_eq_some_iff.mp read
    exact ordered_ofList (inner declarations found)
  case noSchema =>
    intro json noObject noEmpty noList schema read
    rw [ofJson?.eq_4 json noObject noEmpty noList] at read
    cases read
  case fields =>
    intro fields inner declaration read
    rw [declaration?] at read
    simp only [Option.mem_def, Option.bind_eq_bind, Option.bind_eq_some_iff, Option.pure_def,
      Option.some.injEq] at read
    obtain ⟨_, _, type, _, held, found, rfl⟩ := read
    exact inner held found
  case tagAlone =>
    intro type declaration read
    obtain ⟨_, _, rfl⟩ := Option.map_eq_some_iff.mp read
    rintro child ⟨⟩
  case tagAndChild =>
    intro type child inner declaration read
    rw [declaration?] at read
    simp only [Option.mem_def, Option.bind_eq_bind, Option.bind_eq_some_iff, Option.pure_def,
      Option.some.injEq] at read
    obtain ⟨_, _, held, kept, rfl⟩ := read
    exact fun schema here => inner schema (mem_of_childOf? kept here)
  case noDeclaration =>
    intro json noObject noTag noPair declaration read
    rw [declaration?.eq_4 json noObject noTag noPair] at read
    cases read
  case noEntries =>
    rintro declarations ⟨⟩
    trivial
  case entries =>
    intro name json rest inner others declarations read
    rw [declarations?] at read
    simp only [Option.mem_def, Option.bind_eq_bind, Option.bind_eq_some_iff, Option.pure_def,
      Option.some.injEq] at read
    obtain ⟨declaration, found, more, behind, rfl⟩ := read
    exact pathsOrdered_cons.mpr ⟨inner declaration found, others more behind⟩
  case childless =>
    rintro held ⟨⟩ child ⟨⟩
  case child =>
    intro json rest inner held read
    rw [childField?, if_pos rfl] at read
    exact fun schema here => inner schema (mem_of_childOf? read here)
  case otherMember =>
    intro key json rest other inner held read
    rw [childField?, if_neg other] at read
    exact inner held read
  case pathless =>
    rintro declarations ⟨⟩
    trivial
  case paths =>
    intro rest paths inner declarations read
    rw [pathsField?, if_pos rfl] at read
    exact inner declarations read
  case noPaths =>
    intro json rest noObject declarations read
    unfold pathsField? at read
    rw [if_pos rfl] at read
    split at read
    · next paths => exact absurd rfl (noObject paths)
    · cases read
  case otherField =>
    intro key json rest other inner declarations read
    unfold pathsField? at read
    rw [if_neg other] at read
    exact inner declarations read

end Json

section Yaml

open Yaml (Document Node Reading)

/-- Whatever a reading of nodes gives is of this kind, however many aliases may be followed. -/
def Yields {α : Type} (reading : Reading α) (good : α → Prop) : Prop :=
  ∀ left value rest, reading left = some (value, rest) → good value

theorem yields_pure {α : Type} {good : α → Prop} {value : α} (holds : good value) :
    Yields (pure value : Reading α) good := by
  rintro left _ _ ⟨⟩
  exact holds

theorem yields_fault {α : Type} {good : α → Prop} : Yields (Reading.fault : Reading α) good := by
  rintro left _ _ ⟨⟩

theorem Yields.bind {α β : Type} {reading : Reading α} {next : α → Reading β} {found : α → Prop}
    {good : β → Prop} (first : Yields reading found)
    (second : ∀ value, found value → Yields (next value) good) : Yields (reading >>= next) good := by
  intro left value rest read
  obtain ⟨⟨middle, between⟩, former, latter⟩ := Option.bind_eq_some_iff.mp read
  exact second middle (first left middle between former) between value rest latter

/-- Of some readings nothing has to be known. -/
theorem Yields.after {α β : Type} {reading : Reading α} {next : α → Reading β} {good : β → Prop}
    (second : ∀ value, Yields (next value) good) : Yields (reading >>= next) good := by
  intro left value rest read
  obtain ⟨⟨middle, between⟩, _, latter⟩ := Option.bind_eq_some_iff.mp read
  exact second middle between value rest latter

theorem yields_mapM {α β : Type} {reading : α → Reading β} {good : β → Prop}
    (each : ∀ value, Yields (reading value) good) (values : List α) :
    Yields (values.mapM reading) fun results => ∀ result ∈ results, good result := by
  induction values with
  | nil => exact yields_pure (by simp)
  | cons first others ih =>
    rw [List.mapM_cons]
    refine (each first).bind fun result holds => ih.bind fun results hold => yields_pure ?_
    exact List.forall_mem_cons.mpr ⟨holds, hold⟩

/-- A known field gives what reading it gives, or the value for when it is missing. -/
theorem yields_fieldOr {α : Type} {fields : List (String × Node)} {name : String} {missing : α}
    {reading : Node → Reading α} {good : α → Prop} (without : good missing)
    (here : ∀ node, Yields (reading node) good) :
    Yields (Yaml.fieldOr fields name missing reading) good := by
  refine Yields.after fun held => ?_
  cases held with
  | none => exact yields_pure without
  | some node => exact here node

/-- However deep nodes are read, what they are read as is ordered. Where the depth ends, a schema is
empty and a declaration is a fault. -/
theorem yields_ordered (document : Document) (depth : Nat) :
    (∀ node, Yields (ofNode document depth node) Ordered) ∧
    (∀ node, Yields (pathsOfNode document depth node) PathsOrdered) ∧
    (∀ node, Yields (declarationOfNode document depth node)
      fun declaration => ∀ child ∈ declaration.child, child.Ordered) := by
  induction depth with
  | zero =>
    refine ⟨fun node => ?_, fun node => ?_, fun node => ?_⟩
    · exact Yields.after fun _ => yields_pure ordered_empty
    · exact Yields.after fun _ => yields_pure trivial
    · exact yields_fault
  | succ depth ih =>
    obtain ⟨schemas, paths, declarations⟩ := ih
    refine ⟨fun node => ?_, fun node => ?_, fun node => ?_⟩
    · refine Yields.after fun fields => ?_
      exact (yields_fieldOr trivial paths).bind fun found inner => yields_pure (ordered_ofList inner)
    · have each (entry : String × Node) : Yields
          (do return (entry.1, ← declarationOfNode document depth entry.2) :
            Reading (String × Declaration Schema))
          fun declared => ∀ child ∈ declared.2.child, child.Ordered :=
        (declarations entry.2).bind fun _ inner => yields_pure inner
      refine Yields.after fun fields => ?_
      exact fun left found rest read => pathsOrdered_iff.mpr (yields_mapM each fields left found rest read)
    · refine Yields.after fun fields => Yields.after fun type => ?_
      cases type with
      | none => exact yields_fault
      | some type =>
        refine Yields.after fun tag => Yields.bind (yields_fieldOr ?_ fun inside => ?_) fun child inner =>
          yields_pure inner
        · rintro child ⟨⟩
        · refine Yields.after fun held => ?_
          cases held with
          | none => exact yields_pure (by simp)
          | some held =>
            refine (schemas held).bind fun schema ordered => yields_pure ?_
            rintro child ⟨⟩
            exact ordered

/-- Whatever is read from a text in YAML is ordered. -/
theorem ordered_of_ofYaml {text : String} {schema : Schema} (read : ofYaml text = .ok schema) :
    schema.Ordered := by
  simp only [ofYaml] at read
  split at read
  · next found made =>
    obtain rfl := Except.ok.inj read
    obtain ⟨document, _, carried⟩ := Option.bind_eq_some_iff.mp made
    obtain ⟨⟨value, rest⟩, given, rfl⟩ := Option.map_eq_some_iff.mp carried
    exact (yields_ordered document Yaml.maxDepth).1 document.root _ value rest given
  · cases read

end Yaml

section Forms

/-- Every schema is read from its JSON as itself, with what is inside its declarations: where one has no
inner schema there is none afterwards, where one has the empty schema this is still there, and an
unsupported type stays so. And whatever JSON is read as a schema, what is written of this schema is read
and written again as the same JSON, which may be another than the first. -/
theorem reading_inverts_writing :
    (∀ schema : Schema, schema.Ordered → ofJson? schema.toJson = some schema) ∧
    ∀ (json : Json) (schema : Schema), ofJson? json = some schema →
      schema.Ordered ∧ (ofJson? schema.toJson).map toJson = some schema.toJson := by
  refine ⟨fun schema => ofJson?_toJson, fun json schema read => ?_⟩
  have ordered := ordered_of_read.1 json schema read
  exact ⟨ordered, by rw [ofJson?_toJson ordered, Option.map_some]⟩

/-- A container without a schema, one with the empty schema, and a path of no type that is supported with a
schema inside: all of them stay what they are. The second is also what is read where an unknown tag, an
unknown member and a null for the inner schema are given. -/
theorem containers_stay_apart :
    let inside : Schema := mk [("depth", ⟨.number, none⟩)]
    let schema := mk [("free", ⟨.mixed, none⟩), ("held", ⟨.mixed, some empty⟩),
      ("map", ⟨.unsupported, some inside⟩)]
    let given : Json := .obj [("paths", .obj
      [("free", .obj [("schema", .null), ("type", .str "mixed")]),
        ("held", .arr [.obj [("mixed", .null)], .obj []]),
        ("map", .obj [("schema", inside.toJson), ("type", .str "map"), ("unique", .bool true)])])]
    schema.Ordered ∧ ofJson? schema.toJson = some schema ∧
      ofJson? given = some schema ∧ (ofJson? schema.toJson).map toJson = some schema.toJson ∧
      given ≠ schema.toJson := by
  intro inside schema given
  have ordered : schema.Ordered := by
    refine ⟨by unfold Keyed.Ascending; decide, ordered_empty, ⟨?_, trivial⟩, trivial⟩
    exact List.pairwise_singleton _ _
  have read : ofJson? given = some schema := by rfl
  have renamed : given ≠ schema.toJson := by simp [given, schema, toJson, pathsToJson]
  exact ⟨ordered, reading_inverts_writing.1 schema ordered, read,
    (reading_inverts_writing.2 given schema read).2, renamed⟩

end Forms

end ParamFilter.Schema
