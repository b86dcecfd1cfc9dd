import ParamFilter.Notice

/-!
# Resolution of keys

Which kind a key has in a schema. A key without dots is looked up as it is. A key with dots is cut at the
last of its dots before which it is declared; the lookup descends into that declaration with the rest
of the key, and never comes back to try a shorter cut. Where the descent meets a container without a
schema, whatever is left of the key is a string. A dotted key is never looked up as a whole.
-/

namespace ParamFilter

/-- The kind found for a key, and what the search had to say. -/
structure Resolution where
  kind : Kind
  notices : List Notice
  deriving DecidableEq, Repr

namespace Schema

/-- The ways to cut a key at one of its dots, the longest part before the dot first. -/
def dotCuts : List Char → List (List Char × List Char)
  | [] => []
  | c :: rest =>
    (dotCuts rest).map (fun (before, behind) => (c :: before, behind)) ++
      if c = '.' then [([], rest)] else []

/-- The cuts of a key are exactly its two parts around a dot. -/
theorem mem_dotCuts {key before behind : List Char} :
    (before, behind) ∈ dotCuts key ↔ key = before ++ '.' :: behind := by
  induction key generalizing before with
  | nil => simp [dotCuts]
  | cons c rest ih =>
    cases before with
    | nil =>
      by_cases dot : c = '.'
      · simp [dotCuts, dot, eq_comm]
      · simp [dotCuts, dot]
    | cons first others =>
      constructor
      · intro member
        rcases List.mem_append.mp member with further | here
        · obtain ⟨⟨front, back⟩, cut, same⟩ := List.mem_map.mp further
          obtain ⟨⟨rfl, rfl⟩, rfl⟩ : (c = first ∧ front = others) ∧ back = behind := by simpa using same
          rw [ih.mp cut, List.cons_append]
        · split at here <;> simp at here
      · intro same
        obtain ⟨rfl, tail⟩ := List.cons.inj same
        exact List.mem_append_left _ (List.mem_map.mpr ⟨(others, behind), ih.mpr tail, rfl⟩)

/-- The last cut of a key before which it is declared, and that declaration. -/
def lastDeclared? (schema : Schema) (key : String) :
    Option (String × String × Declaration Schema) :=
  (dotCuts key.toList).findSome? fun (before, behind) =>
    (schema.path? (String.ofList before)).map fun declared =>
      (String.ofList before, String.ofList behind, declared)

/-- The two parts of the cut and the dot are the key, and the first part is declared. -/
theorem eq_of_lastDeclared? {schema : Schema} {key before behind : String}
    {declared : Declaration Schema}
    (found : schema.lastDeclared? key = some (before, behind, declared)) :
    key.toList = before.toList ++ '.' :: behind.toList ∧ schema.path? before = some declared := by
  obtain ⟨⟨front, back⟩, member, gives⟩ := List.exists_of_findSome?_eq_some found
  obtain ⟨held, declaredThere, same⟩ := Option.map_eq_some_iff.mp gives
  obtain ⟨rfl, rfl, rfl⟩ := same
  exact ⟨by simpa using mem_dotCuts.mp member, declaredThere⟩

theorem length_lt_of_lastDeclared? {schema : Schema} {key before behind : String}
    {declared : Declaration Schema}
    (found : schema.lastDeclared? key = some (before, behind, declared)) :
    behind.toList.length < key.toList.length := by
  rw [(eq_of_lastDeclared? found).1]
  simp only [List.length_append, List.length_cons]
  omega

/-- The operator that asks for a place, whatever type a field is declared with. -/
def nearOperator : String := "near"

/-- Resolves a key in a schema, or in an untyped region where there is none. `parent` is the path that
    leads to the schema, with a dot at its end; it shows in the notices only. -/
def resolve (schema : Option Schema) (parent key : String) (operator : Option String) :
    Resolution :=
  match schema with
  | none => ⟨.string, [.untypedRegion (parent ++ key)]⟩
  | some schema =>
    if key.toList.contains '.' then
      match found : schema.lastDeclared? key with
      | none => ⟨.unknown, [.noParent (parent ++ key)]⟩
      | some (before, behind, declared) =>
        have := length_lt_of_lastDeclared? found
        if declared.type.isContainer then
          resolve declared.child (parent ++ before ++ ".") behind operator
        else ⟨.unknown, [.notContainer (parent ++ before) declared.type]⟩
    else
      match schema.path? key with
      | none => ⟨.unknown, [.undeclared (parent ++ key)]⟩
      | some declared =>
        ⟨if operator = some nearOperator then .geoPoint else declared.type.kind, []⟩
termination_by key.toList.length

section Equations

variable {schema : Schema} {parent key : String} {operator : Option String}

/-- In an untyped region whatever is left of a key is a string. -/
theorem resolve_none :
    resolve none parent key operator = ⟨.string, [.untypedRegion (parent ++ key)]⟩ := by
  rw [resolve]

/-- A dotted key without a declared part in front of one of its dots leads nowhere. -/
theorem resolve_of_noParent (dotted : key.toList.contains '.' = true)
    (absent : schema.lastDeclared? key = none) :
    resolve (some schema) parent key operator = ⟨.unknown, [.noParent (parent ++ key)]⟩ := by
  rw [resolve, if_pos dotted]
  split
  · rfl
  · next found => cases absent.symm.trans found

/-- A dotted key descends into the container that its last cut names. -/
theorem resolve_of_container {before behind : String} {declared : Declaration Schema}
    (dotted : key.toList.contains '.' = true)
    (found : schema.lastDeclared? key = some (before, behind, declared))
    (container : declared.type.isContainer = true) :
    resolve (some schema) parent key operator =
      resolve declared.child (parent ++ before ++ ".") behind operator := by
  rw [resolve, if_pos dotted]
  split
  · next absent => cases absent.symm.trans found
  · next same =>
    cases found.symm.trans same
    rw [if_pos container]

/-- A dotted key does not descend into anything else. -/
theorem resolve_of_notContainer {before behind : String} {declared : Declaration Schema}
    (dotted : key.toList.contains '.' = true)
    (found : schema.lastDeclared? key = some (before, behind, declared))
    (plain : ¬declared.type.isContainer = true) :
    resolve (some schema) parent key operator =
      ⟨.unknown, [.notContainer (parent ++ before) declared.type]⟩ := by
  rw [resolve, if_pos dotted]
  split
  · next absent => cases absent.symm.trans found
  · next same =>
    cases found.symm.trans same
    rw [if_neg plain]

/-- A key without dots has to be declared. -/
theorem resolve_of_undeclared (dotless : ¬key.toList.contains '.' = true)
    (undeclared : schema.path? key = none) :
    resolve (some schema) parent key operator = ⟨.unknown, [.undeclared (parent ++ key)]⟩ := by
  rw [resolve, if_neg dotless, undeclared]

/-- A declared key without dots is of the kind of its type, unless its operator asks for a place. -/
theorem resolve_of_declared {declared : Declaration Schema} (dotless : ¬key.toList.contains '.' = true)
    (found : schema.path? key = some declared) :
    resolve (some schema) parent key operator =
      ⟨if operator = some nearOperator then .geoPoint else declared.type.kind, []⟩ := by
  rw [resolve, if_neg dotless, found]

end Equations

/-- An operator that does not ask for a place has no part in the kind. The operator is handed down
    unchanged and looked at where the descent ends. -/
theorem kind_resolve_of_ne_near {operator : Option String} (elsewhere : operator ≠ some nearOperator)
    (schema : Option Schema) (parent key : String) :
    (resolve schema parent key operator).kind = (resolve schema parent key none).kind := by
  fun_induction resolve schema parent key none with
  | case1 => rw [resolve_none]
  | case2 parent key schema dotted absent => rw [resolve_of_noParent dotted absent]
  | case3 parent key schema dotted before behind declared found _ container ih =>
    rw [resolve_of_container dotted found container, ih]
  | case4 parent key schema dotted before behind declared found _ plain =>
    rw [resolve_of_notContainer dotted found plain]
  | case5 parent key schema dotless undeclared => rw [resolve_of_undeclared dotless undeclared]
  | case6 parent key schema dotless declared found =>
    rw [resolve_of_declared dotless found, if_neg elsewhere, if_neg (Option.some_ne_none _).symm]

end Schema

end ParamFilter
