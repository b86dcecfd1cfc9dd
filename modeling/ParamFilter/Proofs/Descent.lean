import Mathlib
import ParamFilter.Schema.Resolution

/-!
# The descent of a key

What resolution finds, said without its search. A key enters a container if the container is declared
under a part of the key in front of a dot, and nothing is declared under any longer such part; behind
the dot the key goes on in what is inside. A descent is a number of such steps, none or more. It ends
with whatever is left in an untyped region, or with a name without dots that is declared.

A key is of a known kind exactly if it has such a descent, and it has no two of them. The search for the
last cut is opened once, in `lastDeclared?_eq_some_iff`; past it the proofs speak of steps and descents
only. What resolution says on its way is not a matter of this module.
-/

namespace ParamFilter

/-- In a list of strictly decreasing size, the first hit is a hit with none above it. -/
theorem findSome?_eq_some_iff_of_pairwise {α β : Type} {size : α → Nat} {hit : α → Option β}
    {tried : List α} (ordered : tried.Pairwise fun former latter => size latter < size former)
    {found : β} :
    tried.findSome? hit = some found ↔
      ∃ here ∈ tried, hit here = some found ∧
        ∀ above ∈ tried, size here < size above → hit above = none := by
  induction tried with
  | nil => simp
  | cons first rest ih =>
    obtain ⟨below, tail⟩ := List.pairwise_cons.mp ordered
    cases tryFirst : hit first with
    | some value =>
      rw [List.findSome?_cons, tryFirst]
      constructor
      · rintro ⟨⟩
        refine ⟨first, List.mem_cons_self, tryFirst, ?_⟩
        intro above member larger
        rcases List.mem_cons.mp member with rfl | later
        · exact absurd larger (Nat.lt_irrefl _)
        · exact absurd larger (Nat.lt_asymm (below above later))
      · rintro ⟨here, member, hits, nothing⟩
        rcases List.mem_cons.mp member with rfl | later
        · exact tryFirst.symm.trans hits
        · cases tryFirst.symm.trans (nothing first List.mem_cons_self (below here later))
    | none =>
      rw [List.findSome?_cons, tryFirst, ih tail]
      constructor
      · rintro ⟨here, member, hits, nothing⟩
        refine ⟨here, List.mem_cons_of_mem _ member, hits, ?_⟩
        intro above aboveMember larger
        rcases List.mem_cons.mp aboveMember with rfl | later
        · exact tryFirst
        · exact nothing above later larger
      · rintro ⟨here, member, hits, nothing⟩
        rcases List.mem_cons.mp member with rfl | later
        · cases tryFirst.symm.trans hits
        · exact ⟨here, later, hits, fun above aboveMember =>
            nothing above (List.mem_cons_of_mem _ aboveMember)⟩

/-- Two types are containers. -/
theorem PathType.isContainer_iff {type : PathType} :
    type.isContainer = true ↔ type = .documentArray ∨ type = .mixed := by
  cases type <;> simp [isContainer]

namespace Schema

/-- The cuts of a key are tried from the longest first part to the shortest. -/
theorem pairwise_dotCuts (key : List Char) :
    (dotCuts key).Pairwise fun former latter => latter.1.length < former.1.length := by
  induction key with
  | nil => exact List.Pairwise.nil
  | cons c rest ih =>
    rw [dotCuts, List.pairwise_append, List.pairwise_map]
    refine ⟨ih.imp fun shorter => Nat.succ_lt_succ shorter, ?_, ?_⟩
    · split <;> simp
    · intro former member latter last
      obtain ⟨cut, _, rfl⟩ := List.mem_map.mp member
      split at last
      · rw [List.mem_singleton.mp last]
        exact Nat.succ_pos _
      · cases last

/-- The two parts of a key around a dot, as characters and as texts. -/
theorem eq_append_iff {key : String} {part rest : String} :
    key = part ++ "." ++ rest ↔ key.toList = part.toList ++ '.' :: rest.toList := by
  rw [← String.toList_inj]
  simp

/-- A declaration under a part of a key in front of a dot, where nothing is declared under a longer such
part. -/
structure LongestDeclared (schema : Schema) (key part rest : String) (declared : Declaration Schema) :
    Prop where
  cut : key = part ++ "." ++ rest
  held : schema.path? part = some declared
  longest : ∀ longer behind, key = longer ++ "." ++ behind → part.length < longer.length →
    schema.path? longer = none

variable {schema : Schema} {key : String}

/-- The search for the last cut finds the longest declared part. -/
theorem lastDeclared?_eq_some_iff {part rest : String} {declared : Declaration Schema} :
    schema.lastDeclared? key = some (part, rest, declared) ↔
      LongestDeclared schema key part rest declared := by
  rw [lastDeclared?, findSome?_eq_some_iff_of_pairwise (pairwise_dotCuts key.toList)]
  constructor
  · rintro ⟨⟨front, back⟩, member, here, nothing⟩
    obtain ⟨_, held, same⟩ := Option.map_eq_some_iff.mp here
    obtain ⟨rfl, rfl, rfl⟩ := same
    refine ⟨eq_append_iff.mpr (by simpa using mem_dotCuts.mp member), held, ?_⟩
    intro longer behind cut further
    have larger : front.length < longer.toList.length := by
      rwa [← String.length_toList, ← String.length_toList, String.toList_ofList] at further
    have tried := nothing _ (mem_dotCuts.mpr (eq_append_iff.mp cut)) larger
    simpa using tried
  · rintro ⟨cut, held, longest⟩
    refine ⟨(part.toList, rest.toList), mem_dotCuts.mpr (eq_append_iff.mp cut), by simp [held], ?_⟩
    rintro ⟨front, back⟩ member larger
    have otherCut : key = String.ofList front ++ "." ++ String.ofList back :=
      eq_append_iff.mpr (by simpa using mem_dotCuts.mp member)
    have further : part.length < (String.ofList front).length := by
      rwa [← String.length_toList, ← String.length_toList, String.toList_ofList]
    simp [longest _ _ otherCut further]

/-- It finds nothing if nothing is declared under any part. -/
theorem lastDeclared?_eq_none_iff : schema.lastDeclared? key = none ↔
    ∀ part rest, key = part ++ "." ++ rest → schema.path? part = none := by
  rw [lastDeclared?, List.findSome?_eq_none_iff]
  constructor
  · intro nothing part rest cut
    simpa using nothing _ (mem_dotCuts.mpr (eq_append_iff.mp cut))
  · rintro nothing ⟨front, back⟩ member
    have cut : key = String.ofList front ++ "." ++ String.ofList back :=
      eq_append_iff.mpr (by simpa using mem_dotCuts.mp member)
    simp [nothing _ _ cut]

/-- A key enters a container under a part of it in front of a dot, the longest that is declared. `rest` is
the key behind the dot, and `child` is the schema inside, or nothing for an untyped region. -/
def Enters (schema : Schema) (key part rest : String) (child : Option Schema) : Prop :=
  ∃ declared, LongestDeclared schema key part rest declared ∧
    (declared.type = .documentArray ∨ declared.type = .mixed) ∧ declared.child = child

/-- A descent enters one container after the other. `parts` are the names under which it does, `reached`
is the schema to which it leads, or nothing in an untyped region, and `leaf` is what is left of the key. -/
inductive Descends : Option Schema → String → List String → Option Schema → String → Prop
  | here {schema : Option Schema} {key : String} : Descends schema key [] schema key
  | into {schema : Schema} {key part rest leaf : String} {parts : List String}
      {child reached : Option Schema} (enters : Enters schema key part rest child)
      (further : Descends child rest parts reached leaf) :
      Descends (some schema) key (part :: parts) reached leaf

/-- What may end a descent, and the kind that it gives. In an untyped region everything is a string. In a
schema a name without dots is of the kind of its declaration, unless the operator asks for a place. -/
inductive Ends (operator : Option String) : Option Schema → String → Kind → Prop
  | untyped {leaf : String} : Ends operator none leaf .string
  | declared {schema : Schema} {leaf : String} {declared : Declaration Schema}
      (dotless : '.' ∉ leaf.toList) (held : schema.path? leaf = some declared) :
      Ends operator (some schema) leaf
        (if operator = some nearOperator then .geoPoint else declared.type.kind)

/-- A key is taken apart into the names of containers and a leaf, which is of some kind where they lead. -/
def Decomposes (schema : Schema) (operator : Option String) (key : String) (parts : List String)
    (leaf : String) (kind : Kind) : Prop :=
  ∃ reached, Descends (some schema) key parts reached leaf ∧ Ends operator reached leaf kind

/-- The longest declared part of a key is one part only. Of two, the shorter would not be the longest. -/
theorem LongestDeclared.unique {part rest part' rest' : String} {declared declared' : Declaration Schema}
    (one : LongestDeclared schema key part rest declared)
    (other : LongestDeclared schema key part' rest' declared') :
    part = part' ∧ rest = rest' ∧ declared = declared' := by
  have found := lastDeclared?_eq_some_iff.mpr one
  rw [lastDeclared?_eq_some_iff.mpr other] at found
  simpa [eq_comm] using found

theorem Enters.unique {part rest part' rest' : String} {child child' : Option Schema}
    (one : Enters schema key part rest child) (other : Enters schema key part' rest' child') :
    part = part' ∧ rest = rest' ∧ child = child' := by
  obtain ⟨declared, longest, _, rfl⟩ := one
  obtain ⟨declared', longest', _, rfl⟩ := other
  obtain ⟨rfl, rfl, rfl⟩ := longest.unique longest'
  exact ⟨rfl, rfl, rfl⟩

/-- A key with a declared part in front of a dot has a dot. -/
theorem LongestDeclared.dot_mem {part rest : String} {declared : Declaration Schema}
    (longest : LongestDeclared schema key part rest declared) : '.' ∈ key.toList := by
  rw [eq_append_iff.mp longest.cut]
  simp

theorem Enters.dot_mem {part rest : String} {child : Option Schema}
    (enters : Enters schema key part rest child) : '.' ∈ key.toList := by
  obtain ⟨_, longest, _, _⟩ := enters
  exact longest.dot_mem

/-- What ends a descent does not enter anything. -/
theorem Ends.not_enters {operator : Option String} {kind : Kind}
    (ends : Ends operator (some schema) key kind) {part rest : String} {child : Option Schema} :
    ¬Enters schema key part rest child := by
  intro enters
  cases ends with
  | declared dotless _ => exact dotless enters.dot_mem

theorem Ends.unique {operator : Option String} {reached : Option Schema} {leaf : String}
    {kind kind' : Kind} (one : Ends operator reached leaf kind)
    (other : Ends operator reached leaf kind') : kind = kind' := by
  cases one with
  | untyped =>
    cases other
    rfl
  | declared _ held =>
    cases other with
    | declared _ held' =>
      obtain rfl := Option.some.inj (held.symm.trans held')
      rfl

/-- A key has one descent at most that comes to an end, and it ends in one way.

Induct over the first descent. Where it stops, no step is possible, so the other stops as well. Where it
enters a container, the key has a dot, so the other does not stop, and it enters the same. -/
theorem Descends.unique {operator : Option String} {start reached reached' : Option Schema}
    {leaf leaf' : String} {parts parts' : List String} {kind kind' : Kind}
    (one : Descends start key parts reached leaf) (ends : Ends operator reached leaf kind)
    (other : Descends start key parts' reached' leaf') (ends' : Ends operator reached' leaf' kind') :
    parts = parts' ∧ leaf = leaf' ∧ kind = kind' := by
  induction one generalizing parts' with
  | here =>
    cases other with
    | here => exact ⟨rfl, rfl, ends.unique ends'⟩
    | into enters _ => exact absurd enters ends.not_enters
  | into enters _ ih =>
    cases other with
    | here => exact absurd enters ends'.not_enters
    | into enters' further' =>
      obtain ⟨rfl, rfl, rfl⟩ := enters.unique enters'
      obtain ⟨rfl, rfl, rfl⟩ := ih ends further'
      exact ⟨rfl, rfl, rfl⟩

/-- The parts and the leaf, with dots between them, are the key. -/
theorem Descends.intercalate_eq {start reached : Option Schema} {leaf : String} {parts : List String}
    (descends : Descends start key parts reached leaf) : ".".intercalate (parts ++ [leaf]) = key := by
  induction descends with
  | here => simp
  | into enters _ ih =>
    obtain ⟨_, longest, _, _⟩ := enters
    rw [List.cons_append, String.intercalate_cons_of_ne_nil (by simp), ih, longest.cut]

section Resolve

variable {operator : Option String} {parent : String}

/-- A step of the descent is a step of resolution. -/
theorem resolve_of_enters {part rest : String} {child : Option Schema}
    (enters : Enters schema key part rest child) :
    resolve (some schema) parent key operator =
      resolve child (parent ++ part ++ ".") rest operator := by
  have dotted : key.toList.contains '.' = true := List.contains_iff_mem.mpr enters.dot_mem
  obtain ⟨declared, longest, container, rfl⟩ := enters
  exact resolve_of_container dotted (lastDeclared?_eq_some_iff.mpr longest)
    (PathType.isContainer_iff.mpr container)

/-- The path that a descent has gone: every name with a dot behind it. -/
def walked : List String → String
  | [] => ""
  | part :: parts => part ++ "." ++ walked parts

/-- What is behind the path that a descent has gone makes it whole. -/
theorem walked_append (parts : List String) (leaf : String) :
    walked parts ++ leaf = ".".intercalate (parts ++ [leaf]) := by
  induction parts with
  | nil => simp [walked]
  | cons part parts ih =>
    rw [walked, List.cons_append, String.intercalate_cons_of_ne_nil (by simp), ← ih]
    exact String.append_assoc

/-- Resolution goes on with the leaf where a descent leads, under the path that the descent has gone. -/
theorem resolve_of_descends (operator : Option String) (parent : String)
    {start reached : Option Schema} {leaf : String} {parts : List String}
    (descends : Descends start key parts reached leaf) :
    resolve start parent key operator = resolve reached (parent ++ walked parts) leaf operator := by
  induction descends generalizing parent with
  | here => rw [walked, String.append_empty]
  | into enters _ ih =>
    rw [resolve_of_enters enters, ih, walked]
    simp only [String.append_assoc]

/-- For the kind it is enough that there is such a path. -/
theorem exists_resolve_of_descends (operator : Option String) (parent : String)
    {start reached : Option Schema} {leaf : String} {parts : List String}
    (descends : Descends start key parts reached leaf) :
    ∃ path, resolve start parent key operator = resolve reached path leaf operator :=
  ⟨_, resolve_of_descends operator parent descends⟩

/-- Where a descent ends, resolution gives the kind. -/
theorem kind_resolve_of_ends {reached : Option Schema} {leaf : String} {kind : Kind}
    (ends : Ends operator reached leaf kind) : (resolve reached parent leaf operator).kind = kind := by
  cases ends with
  | untyped => rw [resolve_none]
  | declared dotless held => rw [resolve_of_declared (by simpa using dotless) held]

/-- Resolution that comes to a known kind has gone down a descent. The cases in which it stops short give
the unknown kind. -/
theorem exists_descends_of_kind_resolve {start : Option Schema}
    (known : (resolve start parent key operator).kind ≠ .unknown) :
    ∃ parts reached leaf, Descends start key parts reached leaf ∧
      Ends operator reached leaf (resolve start parent key operator).kind := by
  fun_induction resolve start parent key operator with
  | case1 parent key => exact ⟨[], none, key, .here, .untyped⟩
  | case2 => exact absurd rfl known
  | case3 parent key schema dotted part rest declared found _ container ih =>
    obtain ⟨parts, reached, leaf, further, ends⟩ := ih known
    have enters : Enters schema key part rest declared.child :=
      ⟨declared, lastDeclared?_eq_some_iff.mp found, PathType.isContainer_iff.mp container, rfl⟩
    exact ⟨part :: parts, reached, leaf, .into enters further, ends⟩
  | case4 => exact absurd rfl known
  | case5 => exact absurd rfl known
  | case6 parent key schema dotless declared held =>
    exact ⟨[], some schema, key, .here, .declared (by simpa using dotless) held⟩

/-- A decomposition gives its kind. -/
theorem kind_resolve_of_decomposes {parts : List String} {leaf : String} {kind : Kind}
    (decomposes : Decomposes schema operator key parts leaf kind) :
    (resolve (some schema) parent key operator).kind = kind := by
  obtain ⟨reached, descends, ends⟩ := decomposes
  obtain ⟨path, onward⟩ := exists_resolve_of_descends operator parent descends
  rw [onward, kind_resolve_of_ends ends]

/-- Declaring one name leaves the others as they are. -/
theorem path?_declare_of_ne (schema : Schema) {name other : String} (different : other ≠ name)
    (declaration : Declaration Schema) :
    (schema.declare name declaration).path? other = schema.path? other :=
  Keyed.lookup_insert_of_ne different declaration schema.paths

/-- The search for the last cut looks at the parts in front of a dot only. -/
theorem lastDeclared?_congr {other : Schema}
    (same : ∀ part rest, key = part ++ "." ++ rest → other.path? part = schema.path? part) :
    other.lastDeclared? key = schema.lastDeclared? key := by
  apply Option.ext
  rintro ⟨part, rest, declared⟩
  rw [lastDeclared?_eq_some_iff, lastDeclared?_eq_some_iff]
  constructor
  · rintro ⟨cut, held, longest⟩
    refine ⟨cut, (same part rest cut).symm.trans held, fun longer behind otherCut further => ?_⟩
    exact (same longer behind otherCut).symm.trans (longest longer behind otherCut further)
  · rintro ⟨cut, held, longest⟩
    refine ⟨cut, (same part rest cut).trans held, fun longer behind otherCut further => ?_⟩
    exact (same longer behind otherCut).trans (longest longer behind otherCut further)

/-- Schemas that declare the same under the parts of a dotted key in front of a dot resolve it alike. -/
theorem resolve_congr_of_dotted {other : Schema} (dotted : '.' ∈ key.toList)
    (same : ∀ part rest, key = part ++ "." ++ rest → other.path? part = schema.path? part) :
    resolve (some other) parent key operator = resolve (some schema) parent key operator := by
  have contains : key.toList.contains '.' = true := List.contains_iff_mem.mpr dotted
  have search := lastDeclared?_congr same
  cases found : schema.lastDeclared? key with
  | none =>
    rw [found] at search
    rw [resolve_of_noParent contains found, resolve_of_noParent contains search]
  | some cut =>
    obtain ⟨part, rest, declared⟩ := cut
    rw [found] at search
    by_cases container : declared.type.isContainer = true
    · rw [resolve_of_container contains found container, resolve_of_container contains search container]
    · rw [resolve_of_notContainer contains found container,
        resolve_of_notContainer contains search container]

/-- A dotted key resolves as if it were not declared as a whole, because its parts in front of a dot are
shorter. -/
theorem resolve_declare_self (dotted : '.' ∈ key.toList) (declaration : Declaration Schema) :
    resolve (some (schema.declare key declaration)) parent key operator =
      resolve (some schema) parent key operator := by
  apply resolve_congr_of_dotted dotted
  intro part rest cut
  apply path?_declare_of_ne
  rintro rfl
  simpa using congrArg List.length (eq_append_iff.mp cut)

/-- Resolution is descent along the longest declared parts.

A key is of a known kind exactly if it can be taken apart into names of containers and a leaf of a known
kind. This kind is the one that is found, and there is one such way at most to take the key apart. A
dotted key always has a container in front of its leaf; how the key is declared as a whole has no
part in what is found, here and by the same token at every schema inside. -/
theorem kind_resolve_ne_unknown_iff (schema : Schema) (parent key : String) (operator : Option String) :
    ((resolve (some schema) parent key operator).kind ≠ .unknown ↔
      ∃ parts leaf kind, Decomposes schema operator key parts leaf kind ∧ kind ≠ .unknown) ∧
    (∀ parts leaf kind, Decomposes schema operator key parts leaf kind →
      (resolve (some schema) parent key operator).kind = kind ∧
      ".".intercalate (parts ++ [leaf]) = key ∧
      ∀ parts' leaf' kind', Decomposes schema operator key parts' leaf' kind' →
        parts' = parts ∧ leaf' = leaf) ∧
    ('.' ∈ key.toList →
      (∀ parts leaf kind, Decomposes schema operator key parts leaf kind → parts ≠ []) ∧
      ∀ declaration, resolve (some (schema.declare key declaration)) parent key operator =
        resolve (some schema) parent key operator) := by
  refine ⟨⟨?_, ?_⟩, ?_, ?_⟩
  · intro known
    obtain ⟨parts, reached, leaf, descends, ends⟩ := exists_descends_of_kind_resolve known
    exact ⟨parts, leaf, _, ⟨reached, descends, ends⟩, known⟩
  · rintro ⟨parts, leaf, kind, decomposes, known⟩
    rwa [kind_resolve_of_decomposes decomposes]
  · intro parts leaf kind decomposes
    refine ⟨kind_resolve_of_decomposes decomposes, ?_, ?_⟩
    · obtain ⟨_, descends, _⟩ := decomposes
      exact descends.intercalate_eq
    · intro parts' leaf' kind' other
      obtain ⟨_, descends, ends⟩ := decomposes
      obtain ⟨_, descends', ends'⟩ := other
      obtain ⟨sameParts, sameLeaf, _⟩ := descends'.unique ends' descends ends
      exact ⟨sameParts, sameLeaf⟩
  · intro dotted
    refine ⟨?_, resolve_declare_self dotted⟩
    rintro _ leaf kind ⟨_, descends, ends⟩ rfl
    cases descends
    cases ends with
    | declared dotless _ => exact dotless dotted

/-- Under a key with two dots the longer of two declared parts counts, and the price inside is found. A
declaration of the whole key as a date does not change that. -/
theorem price_of_shop_items :
    let inside := Schema.empty.declare "price" ⟨.number, none⟩
    let schema := (Schema.empty.declare "shop" ⟨.mixed, none⟩).declare "shop.items"
      ⟨.documentArray, some inside⟩
    let dated := schema.declare "shop.items.price" ⟨.date, none⟩
    '.' ∈ "shop.items.price".toList ∧
      Decomposes schema none "shop.items.price" ["shop.items"] "price" .number ∧
      (resolve (some schema) "" "shop.items.price" none).kind = .number ∧
      (resolve (some dated) "" "shop.items.price" none).kind = .number := by
  intro inside schema dated
  have dotted : '.' ∈ "shop.items.price".toList := by decide
  have found : schema.lastDeclared? "shop.items.price" =
      some ("shop.items", "price", ⟨.documentArray, some inside⟩) := by cbv
  have enters : Enters schema "shop.items.price" "shop.items" "price" (some inside) :=
    ⟨_, lastDeclared?_eq_some_iff.mp found, .inl rfl, rfl⟩
  have dotless : '.' ∉ "price".toList := by decide
  have held : inside.path? "price" = some ⟨.number, none⟩ := rfl
  have ends : Ends none (some inside) "price" .number := @Ends.declared none _ _ _ dotless held
  have decomposes : Decomposes schema none "shop.items.price" ["shop.items"] "price" .number :=
    ⟨some inside, .into enters .here, ends⟩
  obtain ⟨_, gives, whole⟩ := kind_resolve_ne_unknown_iff schema "" "shop.items.price" none
  have price := (gives _ _ _ decomposes).1
  refine ⟨dotted, decomposes, price, ?_⟩
  rw [(whole dotted).2, price]

end Resolve

end Schema

end ParamFilter
