/-!
# Keyed entries

A finite map from text keys, kept as a list of entries whose keys strictly increase. Keys are compared
code point by code point, which is also the order of their UTF-8 bytes. The recursive types of this
library write the list out in full, because a proof cannot stand inside them; the map operations are
shared here and work on any list of entries. Looking up after an insertion needs no order; that an
insertion keeps the order, and that an ordered list is determined by its look-ups, is what makes equal
maps equal lists.
-/

namespace ParamFilter.Keyed

variable {α β : Type}

/-- The keys strictly increase, so no key is held twice. -/
def Ascending (entries : List (String × α)) : Prop :=
  entries.Pairwise fun former latter => former.1 < latter.1

/-- Puts `value` under `key`: in place of the value held there, or where the order wants it. -/
def insert (key : String) (value : α) : List (String × α) → List (String × α)
  | [] => [(key, value)]
  | (held, old) :: rest =>
    if key < held then (key, value) :: (held, old) :: rest
    else if key = held then (key, value) :: rest
    else (held, old) :: insert key value rest

/-- Inserts every entry of `incoming` into `entries`, so that an incoming value replaces one held
    under the same key. -/
def union (entries incoming : List (String × α)) : List (String × α) :=
  incoming.foldl (fun held entry => insert entry.1 entry.2 held) entries

/-- The entries in order, the last of several under one key. -/
def ofList (entries : List (String × α)) : List (String × α) := union [] entries

/-- The keys, in the order of the entries. -/
def keys (entries : List (String × α)) : List String := entries.map Prod.fst

/-- A key is held exactly when it is found. -/
theorem mem_keys_iff {key : String} {entries : List (String × α)} :
    key ∈ keys entries ↔ (entries.lookup key).isSome := by
  simp [keys]

/-- Two different keys that are not in order are in the reverse order. -/
theorem key_lt_of_not {key held : String} (notBelow : ¬key < held) (different : key ≠ held) :
    held < key :=
  Classical.byContradiction fun notAbove =>
    different (String.le_antisymm (String.not_lt.mp notAbove) (String.not_lt.mp notBelow))

@[simp] theorem lookup_insert_self (key : String) (value : α) (entries : List (String × α)) :
    (insert key value entries).lookup key = some value := by
  induction entries with
  | nil => simp [insert]
  | cons entry rest ih =>
    obtain ⟨held, old⟩ := entry
    unfold insert
    split
    · simp
    · split
      · simp
      · next different => simp [List.lookup_cons, beq_eq_false_iff_ne.mpr different, ih]

@[simp] theorem lookup_insert_of_ne {key other : String} (different : other ≠ key) (value : α)
    (entries : List (String × α)) :
    (insert key value entries).lookup other = entries.lookup other := by
  have unequal : (other == key) = false := beq_eq_false_iff_ne.mpr different
  induction entries with
  | nil => simp [insert, List.lookup_cons, unequal]
  | cons entry rest ih =>
    obtain ⟨held, old⟩ := entry
    unfold insert
    split
    · simp [List.lookup_cons, unequal]
    · split
      · next same => subst same; simp [List.lookup_cons, unequal]
      · simp [List.lookup_cons, ih]

/-- An insertion brings in one entry and loses at most the one it replaces. -/
theorem mem_insert {key : String} {value : α} {entry : String × α} {entries : List (String × α)}
    (member : entry ∈ insert key value entries) : entry = (key, value) ∨ entry ∈ entries := by
  induction entries with
  | nil => simpa [insert] using member
  | cons head rest ih =>
    obtain ⟨held, old⟩ := head
    unfold insert at member
    split at member
    · simpa using member
    · split at member
      · rcases List.mem_cons.mp member with same | later
        · exact .inl same
        · exact .inr (List.mem_cons_of_mem _ later)
      · rcases List.mem_cons.mp member with same | later
        · exact .inr (same ▸ List.mem_cons_self)
        · exact (ih later).imp_right (List.mem_cons_of_mem _)

/-- The keys after an insertion are those before and the inserted one. -/
theorem mem_keys_insert {key asked : String} {value : α} {entries : List (String × α)} :
    asked ∈ keys (insert key value entries) ↔ asked = key ∨ asked ∈ keys entries := by
  by_cases same : asked = key
  · subst same
    simp [mem_keys_iff]
  · simp [mem_keys_iff, lookup_insert_of_ne same, same]

/-- Every entry of a union comes from one of its two sides. -/
theorem mem_union {entry : String × α} {entries incoming : List (String × α)}
    (member : entry ∈ union entries incoming) : entry ∈ incoming ∨ entry ∈ entries := by
  induction incoming generalizing entries with
  | nil => exact .inr member
  | cons first rest ih =>
    have split : entry ∈ rest ∨ entry ∈ insert first.1 first.2 entries := ih member
    rcases split with later | inserted
    · exact .inl (List.mem_cons_of_mem _ later)
    · rcases mem_insert inserted with same | held
      · exact .inl (same ▸ List.mem_cons_self)
      · exact .inr held

/-- The keys of a union are those of its two sides. -/
theorem mem_keys_union {asked : String} {entries incoming : List (String × α)} :
    asked ∈ keys (union entries incoming) ↔ asked ∈ keys incoming ∨ asked ∈ keys entries := by
  induction incoming generalizing entries with
  | nil => simp [union, keys]
  | cons first rest ih =>
    have split : asked ∈ keys (union (insert first.1 first.2 entries) rest) ↔
        asked ∈ keys rest ∨ asked ∈ keys (insert first.1 first.2 entries) := ih
    have head : asked ∈ keys (first :: rest) ↔ asked = first.1 ∨ asked ∈ keys rest := by
      simp [keys]
    change asked ∈ keys (union (insert first.1 first.2 entries) rest) ↔ _
    rw [split, mem_keys_insert, head, or_left_comm, or_assoc]

theorem ascending_nil : Ascending ([] : List (String × α)) := .nil

theorem Ascending.insert {entries : List (String × α)} (ordered : Ascending entries) (key : String)
    (value : α) : Ascending (insert key value entries) := by
  induction entries with
  | nil => simp [Keyed.insert, Ascending]
  | cons entry rest ih =>
    obtain ⟨held, old⟩ := entry
    obtain ⟨above, tail⟩ := List.pairwise_cons.mp ordered
    unfold Keyed.insert
    split
    · next below =>
      refine List.pairwise_cons.mpr ⟨fun later member => ?_, ordered⟩
      rcases List.mem_cons.mp member with same | later
      · exact same ▸ below
      · exact String.lt_trans below (above _ later)
    · next notBelow =>
      split
      · next same => subst same; exact List.pairwise_cons.mpr ⟨above, tail⟩
      · next different =>
        refine List.pairwise_cons.mpr ⟨fun later member => ?_, ih tail⟩
        rcases mem_insert member with same | older
        · exact same ▸ key_lt_of_not notBelow different
        · exact above _ older

theorem Ascending.union {entries : List (String × α)} (ordered : Ascending entries)
    (incoming : List (String × α)) : Ascending (union entries incoming) := by
  induction incoming generalizing entries with
  | nil => exact ordered
  | cons entry rest ih => exact ih (ordered.insert entry.1 entry.2)

theorem ascending_ofList (entries : List (String × α)) : Ascending (ofList entries) :=
  ascending_nil.union entries

/-- Changing the values alone keeps the order. -/
theorem Ascending.map {entries : List (String × α)} (ordered : Ascending entries)
    (change : String × α → β) : Ascending (entries.map fun entry => (entry.1, change entry)) :=
  List.pairwise_map.mpr ordered

/-- Inserting above all keys adds at the end. -/
theorem insert_of_above {key : String} {value : α} {entries : List (String × α)}
    (above : ∀ entry ∈ entries, entry.1 < key) :
    insert key value entries = entries ++ [(key, value)] := by
  induction entries with
  | nil => rfl
  | cons entry rest ih =>
    have below : entry.1 < key := above entry List.mem_cons_self
    have different : key ≠ entry.1 := fun same => String.lt_irrefl _ (same ▸ below)
    simp [insert, String.lt_asymm below, different,
      ih fun later member => above later (List.mem_cons_of_mem _ member)]

/-- A list that is in order is what its entries give when put in one by one. -/
theorem Ascending.ofList_eq {entries : List (String × α)} (ordered : Ascending entries) :
    ofList entries = entries := by
  suffices general : ∀ front : List (String × α), Ascending (front ++ entries) →
      Keyed.union front entries = front ++ entries from general [] ordered
  clear ordered
  induction entries with
  | nil => simp [Keyed.union]
  | cons entry rest ih =>
    intro front ordered
    have above : ∀ former ∈ front, former.1 < entry.1 := fun former member =>
      (List.pairwise_append.mp ordered).2.2 former member entry List.mem_cons_self
    show Keyed.union (Keyed.insert entry.1 entry.2 front) rest = _
    rw [insert_of_above above, ih]
    · simp
    · simpa using ordered

/-- What is found in an ordered list is what the list holds. -/
theorem Ascending.lookup_eq_some_iff {entries : List (String × α)} (ordered : Ascending entries)
    {key : String} {value : α} : entries.lookup key = some value ↔ (key, value) ∈ entries := by
  induction entries with
  | nil => simp
  | cons entry rest ih =>
    obtain ⟨held, old⟩ := entry
    obtain ⟨above, tail⟩ := List.pairwise_cons.mp ordered
    by_cases here : key = held
    · subst here
      have absent : (key, value) ∉ rest := fun member =>
        String.lt_irrefl _ (above (key, value) member)
      simp [absent, eq_comm]
    · simp [List.lookup_cons, beq_eq_false_iff_ne.mpr here, here, ih tail]

/-- A key below all keys is not held. -/
theorem lookup_eq_none_of_below {key : String} {entries : List (String × α)}
    (below : ∀ entry ∈ entries, key < entry.1) : entries.lookup key = none := by
  induction entries with
  | nil => rfl
  | cons entry rest ih =>
    have different : (key == entry.1) = false := beq_eq_false_iff_ne.mpr fun same =>
      String.lt_irrefl _ (same ▸ below entry List.mem_cons_self)
    rw [List.lookup_cons, different]
    exact ih fun later member => below later (List.mem_cons_of_mem _ member)

/-- A key below the first one of an ordered list is not held. -/
theorem Ascending.lookup_eq_none_of_lt_head {key : String} {entry : String × α}
    {rest : List (String × α)} (ordered : Ascending (entry :: rest)) (below : key < entry.1) :
    (entry :: rest).lookup key = none := by
  apply lookup_eq_none_of_below
  intro later member
  rcases List.mem_cons.mp member with same | inRest
  · exact same ▸ below
  · exact String.lt_trans below ((List.pairwise_cons.mp ordered).1 later inRest)

/-- Keys that strictly increase are distinct. -/
theorem Ascending.nodup_keys {entries : List (String × α)} (ordered : Ascending entries) :
    (keys entries).Nodup := by
  apply List.pairwise_map.mpr
  apply ordered.imp
  intro former latter below same
  exact String.lt_irrefl _ (same ▸ below)

/-- A key that is not there is not found. -/
theorem lookup_eq_none_of_not_mem {key : String} {entries : List (String × α)}
    (absent : key ∉ keys entries) : entries.lookup key = none :=
  Option.not_isSome_iff_eq_none.mp (mt mem_keys_iff.mpr absent)

/-- In a union the incoming value counts, and what was held before counts where there is none. -/
theorem lookup_union {incoming : List (String × α)} (distinct : (keys incoming).Nodup)
    (entries : List (String × α)) (key : String) :
    (union entries incoming).lookup key = (incoming.lookup key).or (entries.lookup key) := by
  induction incoming generalizing entries with
  | nil => rfl
  | cons entry rest ih =>
    obtain ⟨held, value⟩ := entry
    obtain ⟨fresh, tail⟩ := List.nodup_cons.mp distinct
    have inserted : (union entries ((held, value) :: rest)).lookup key =
        (rest.lookup key).or ((insert held value entries).lookup key) := ih tail _
    rw [inserted]
    by_cases here : key = held
    · subst here
      rw [lookup_eq_none_of_not_mem fresh, lookup_insert_self, List.lookup_cons_self]
      rfl
    · rw [lookup_insert_of_ne here, List.lookup_cons, beq_eq_false_iff_ne.mpr here]

/-- Putting entries with distinct keys in order changes no look-up. -/
theorem lookup_ofList {entries : List (String × α)} (distinct : (keys entries).Nodup) (key : String) :
    (ofList entries).lookup key = entries.lookup key := by
  rw [ofList, lookup_union distinct, List.lookup_nil, Option.or_none]

/-- Looking up after changing all values is changing the value that is found. -/
theorem lookup_map (change : α → β) (entries : List (String × α)) (key : String) :
    (entries.map fun entry => (entry.1, change entry.2)).lookup key =
      (entries.lookup key).map change := by
  induction entries with
  | nil => rfl
  | cons entry rest ih =>
    rw [List.map_cons, List.lookup_cons, List.lookup_cons, ih]
    cases key == entry.1 <;> rfl

/-- Ordered entries are determined by their look-ups. -/
theorem Ascending.ext {left right : List (String × α)} (leftOrdered : Ascending left)
    (rightOrdered : Ascending right) (same : ∀ key, left.lookup key = right.lookup key) :
    left = right := by
  induction left generalizing right with
  | nil =>
    cases right with
    | nil => rfl
    | cons entry rest =>
      obtain ⟨key, value⟩ := entry
      have found := same key
      simp at found
  | cons entry rest ih =>
    cases right with
    | nil =>
      obtain ⟨key, value⟩ := entry
      have found := same key
      simp at found
    | cons other others =>
      obtain ⟨key, value⟩ := entry
      obtain ⟨key', value'⟩ := other
      obtain ⟨above, tail⟩ := List.pairwise_cons.mp leftOrdered
      obtain ⟨above', tail'⟩ := List.pairwise_cons.mp rightOrdered
      have keys : key = key' := by
        refine Classical.byContradiction fun different => ?_
        by_cases below : key < key'
        · have found := same key
          rw [rightOrdered.lookup_eq_none_of_lt_head below] at found
          simp at found
        · have found := same key'
          rw [leftOrdered.lookup_eq_none_of_lt_head (key_lt_of_not below different)] at found
          simp at found
      subst keys
      have values : value = value' := by simpa [List.lookup_cons] using same key
      subst values
      have rests : rest = others := ih tail tail' fun asked => by
        by_cases here : asked = key
        · subst here
          rw [lookup_eq_none_of_below above, lookup_eq_none_of_below above']
        · simpa [List.lookup_cons, beq_eq_false_iff_ne.mpr here] using same asked
      rw [rests]

end ParamFilter.Keyed
