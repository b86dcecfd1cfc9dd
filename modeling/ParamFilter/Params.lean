/-!
# Request parameters

The parameters of one request: each key once, in the order in which the keys first appeared, with one
value or with several. Setting a key replaces its value in place; adding to a key collects the values.
Neither moves a key that is already there.
-/

namespace ParamFilter

/-- What one parameter holds. A repeated parameter holds several values; the list may be empty when it
    was built that way. -/
inductive Param where
  | single (value : String)
  | multi (values : List String)
  deriving DecidableEq, Repr

/-- One more value behind those that are there. -/
def Param.push : Param → String → Param
  | .single first, value => .multi [first, value]
  | .multi values, value => .multi (values ++ [value])

namespace Params

/-- Replaces the value under `key` in place, or adds the key at the end. -/
def insertEntry (key : String) (value : Param) :
    List (String × Param) → List (String × Param)
  | [] => [(key, value)]
  | (held, old) :: rest =>
    if held = key then (key, value) :: rest else (held, old) :: insertEntry key value rest

/-- A key of the list after an insertion is the inserted one or was there before. -/
theorem mem_keys_insertEntry {key asked : String} {value : Param} {entries : List (String × Param)} :
    asked ∈ (insertEntry key value entries).map Prod.fst ↔
      asked = key ∨ asked ∈ entries.map Prod.fst := by
  induction entries with
  | nil => simp [insertEntry]
  | cons entry rest ih =>
    unfold insertEntry
    split
    · next same => simp [← same]
    · simp only [List.map_cons, List.mem_cons, ih]
      exact or_left_comm

theorem nodup_insertEntry (key : String) (value : Param) {entries : List (String × Param)}
    (distinct : (entries.map Prod.fst).Nodup) :
    ((insertEntry key value entries).map Prod.fst).Nodup := by
  induction entries with
  | nil => simp [insertEntry]
  | cons entry rest ih =>
    simp only [List.map_cons, List.nodup_cons] at distinct
    unfold insertEntry
    split
    · next same => simpa [← same] using distinct
    · next different =>
      simp only [List.map_cons, List.nodup_cons]
      refine ⟨fun member => ?_, ih distinct.2⟩
      rcases mem_keys_insertEntry.mp member with same | older
      · exact different same
      · exact distinct.1 older

end Params

/-- Parameters in the order in which their keys first appeared. No key is held twice. -/
structure Params where
  entries : List (String × Param)
  distinct : (entries.map Prod.fst).Nodup

namespace Params

/-- No parameter at all. -/
def empty : Params := ⟨[], by simp⟩

/-- The value under a key. -/
def get? (params : Params) (key : String) : Option Param := params.entries.lookup key

/-- Sets a key, in place if it is already there. -/
def insert (params : Params) (key : String) (value : Param) : Params :=
  ⟨insertEntry key value params.entries, nodup_insertEntry key value params.distinct⟩

/-- Adds one value to a key: alone when the key is new, behind the others when it is not. -/
def append (params : Params) (key : String) (value : String) : Params :=
  params.insert key <| match params.get? key with
    | none => .single value
    | some held => held.push value

/-- How many keys there are. -/
def size (params : Params) : Nat := params.entries.length

/-- Parameters from pairs set one after the other. -/
def ofList (pairs : List (String × Param)) : Params :=
  pairs.foldl (fun params pair => params.insert pair.1 pair.2) empty

/-- Parameters from pairs added one after the other, so that repeated keys collect their values. -/
def collect (pairs : List (String × String)) : Params :=
  pairs.foldl (fun params pair => params.append pair.1 pair.2) empty

theorem get?_insert_self (params : Params) (key : String) (value : Param) :
    (params.insert key value).get? key = some value := by
  simp only [get?, insert]
  induction params.entries with
  | nil => simp [insertEntry]
  | cons entry rest ih =>
    obtain ⟨held, old⟩ := entry
    unfold insertEntry
    split
    · simp
    · next different =>
      have unequal : (key == held) = false := beq_eq_false_iff_ne.mpr (Ne.symm different)
      simp [List.lookup_cons, unequal, ih]

theorem get?_insert_of_ne (params : Params) {key other : String} (different : other ≠ key)
    (value : Param) : (params.insert key value).get? other = params.get? other := by
  have unequal : (other == key) = false := beq_eq_false_iff_ne.mpr different
  simp only [get?, insert]
  induction params.entries with
  | nil => simp [insertEntry, List.lookup_cons, unequal]
  | cons entry rest ih =>
    obtain ⟨held, old⟩ := entry
    unfold insertEntry
    split
    · next same => subst same; simp [List.lookup_cons, unequal]
    · simp [List.lookup_cons, ih]

end Params

end ParamFilter
