import Mathlib
import ParamFilter.Proofs.Redeclarations

/-!
# What resolution says, and about which path

Resolving a key gives one notice at most, however far it descends. It is silent exactly if the descent ends
with a declared name without dots. Otherwise there is one notice, and where the descent stops decides which.
Three of the four are about the key as a whole: it leads into an untyped region, its last name is not
declared, or nothing is declared in front of a dot of what is left of it. The fourth is about the key up to
one of its dots, because what is declared in front of this dot is no container.

The path in a notice is put together on the way down. What carries the proofs is that the path gone so far
and what is left of the key always make up the whole key (`Descends.walked_append_eq`). The kind that is found
is not a matter of this module.
-/

namespace ParamFilter

namespace Notice

/-- The path that a notice of the descent is about. The other notices are about no path. -/
def path? : Notice → Option String
  | untypedRegion path | notContainer path _ | noParent path | undeclared path => some path
  | _ => none

/-- A trace notice about this path. Its text is the path and a remark behind it. -/
structure Traces (notice : Notice) (path : String) : Prop where
  trace : notice.level = .trace
  traced : notice.path? = some path
  text : ∃ remark, notice.text = path ++ " " ++ remark

/-- Every notice about a path is a trace notice, and its text begins with the path. -/
theorem traces_of_path? {notice : Notice} {path : String} (traced : notice.path? = some path) :
    notice.Traces path := by
  cases notice with
  | untypedRegion held =>
    obtain rfl := Option.some.inj traced
    exact ⟨rfl, rfl, "is in an untyped region, treating as String", by rw [String.append_assoc]; rfl⟩
  | notContainer held type =>
    obtain rfl := Option.some.inj traced
    refine ⟨rfl, rfl, "is a " ++ (type.name ++ ", cannot descend into it"), ?_⟩
    have blank : held ++ " " ++ "is a " = held ++ " is a " := String.append_assoc
    show held ++ " is a " ++ type.name ++ ", cannot descend into it" = _
    rw [← blank, String.append_assoc, String.append_assoc]
  | noParent held =>
    obtain rfl := Option.some.inj traced
    exact ⟨rfl, rfl, "has no declared parent", by rw [String.append_assoc]; rfl⟩
  | undeclared held =>
    obtain rfl := Option.some.inj traced
    exact ⟨rfl, rfl, "is not declared", by rw [String.append_assoc]; rfl⟩
  | _ => cases traced

end Notice

namespace Schema

/-- Where the descent of a key stops without a declared name, and the notice that there is to give. `parts`
are the names through which the descent has gone. What follows are the schema to which they lead, or
nothing in an untyped region, and what is left of the key there. -/
inductive Stops (key : String) (parts : List String) : Option Schema → String → Notice → Prop
  | untyped {rest : String} : Stops key parts none rest (.untypedRegion key)
  | noParent {schema : Schema} {rest : String} (dotted : '.' ∈ rest.toList)
      (absent : ∀ part behind, rest = part ++ "." ++ behind → schema.path? part = none) :
      Stops key parts (some schema) rest (.noParent key)
  | undeclared {schema : Schema} {rest : String} (dotless : '.' ∉ rest.toList)
      (absent : schema.path? rest = none) : Stops key parts (some schema) rest (.undeclared key)
  | notContainer {schema : Schema} {rest name behind : String} {declared : Declaration Schema}
      (longest : LongestDeclared schema rest name behind declared)
      (plain : declared.type.isContainer = false) :
      Stops key parts (some schema) rest
        (.notContainer (".".intercalate (parts ++ [name])) declared.type)

/-- A path that is the key cut just before one of its dots. Its last name is declared with this type, which is
no container, in the schema to which the names in front of it lead. -/
def Blocked (start : Option Schema) (key path : String) (type : PathType) : Prop :=
  ∃ parts schema rest name behind child, Descends start key parts (some schema) rest ∧
    schema.path? name = some ⟨type, child⟩ ∧ type.isContainer = false ∧
    path = ".".intercalate (parts ++ [name]) ∧ key = path ++ "." ++ behind

/-- What is left of a key enters no container any more in the schema that the descent has come to. -/
def Stuck (reached : Option Schema) (rest : String) : Prop :=
  ∀ schema part behind child, reached = some schema → ¬Enters schema rest part behind child

variable {start reached : Option Schema} {key rest : String} {parts : List String}
  {operator : Option String} {notice : Notice}

/-- The path gone and what is left of the key make up the key. -/
theorem Descends.walked_append_eq (descends : Descends start key parts reached rest) :
    walked parts ++ rest = key := by
  rw [walked_append, descends.intercalate_eq]

/-- What is behind the dot that a key enters a container by is shorter than the key. -/
theorem Enters.length_lt {schema : Schema} {part : String} {child : Option Schema}
    (enters : Enters schema key part rest child) : rest.length < key.length := by
  obtain ⟨_, longest, _, _⟩ := enters
  have lengths := congrArg String.length longest.cut
  simp only [String.length_append] at lengths
  have dot : ".".length = 1 := rfl
  omega

/-- Every key has a descent that goes as far as it can, because what is left gets shorter. -/
theorem exists_descends_stuck (start : Option Schema) (key : String) :
    ∃ parts reached rest, Descends start key parts reached rest ∧ Stuck reached rest := by
  induction same : key.length using Nat.strong_induction_on generalizing start key with
  | _ length ih =>
    by_cases stuck : Stuck start key
    · exact ⟨[], start, key, .here, stuck⟩
    · obtain ⟨schema, part, behind, child, rfl, enters⟩ : ∃ schema part behind child,
          start = some schema ∧ Enters schema key part behind child := by
        simpa [Stuck] using stuck
      -- What is behind the dot goes on from the schema inside, by a descent of its own.
      have shorter : behind.length < length := same ▸ enters.length_lt
      obtain ⟨parts, reached, rest, descends, stuck⟩ := ih _ shorter child behind rfl
      exact ⟨part :: parts, reached, rest, .into enters descends, stuck⟩

/-- Where no container is entered, the descent stops, unless a declared name without dots is left. -/
theorem stops_or_declared (key : String) (parts : List String) (stuck : Stuck reached rest) :
    (∃ notice, Stops key parts reached rest notice) ∨
      ∃ schema declared, reached = some schema ∧ '.' ∉ rest.toList ∧
        schema.path? rest = some declared := by
  cases reached with
  | none => exact .inl ⟨_, .untyped⟩
  | some schema =>
    by_cases dotted : '.' ∈ rest.toList
    · left
      cases found : schema.lastDeclared? rest with
      | none => exact ⟨_, .noParent dotted (lastDeclared?_eq_none_iff.mp found)⟩
      | some cut =>
        obtain ⟨name, behind, declared⟩ := cut
        have longest := lastDeclared?_eq_some_iff.mp found
        refine ⟨_, .notContainer longest (Bool.eq_false_iff.mpr fun container => ?_)⟩
        exact stuck schema name behind declared.child rfl
          ⟨declared, longest, PathType.isContainer_iff.mp container, rfl⟩
    · cases held : schema.path? rest with
      | none => exact .inl ⟨_, .undeclared dotted held⟩
      | some declared => exact .inr ⟨schema, declared, rfl, dotted, held⟩

/-- Every key comes to a stop or reaches a leaf. -/
theorem exists_stops_or_reachesLeaf (start : Option Schema) (key : String) :
    (∃ parts reached rest notice, Descends start key parts reached rest ∧
      Stops key parts reached rest notice) ∨ ReachesLeaf start key := by
  obtain ⟨parts, reached, rest, descends, stuck⟩ := exists_descends_stuck start key
  rcases stops_or_declared key parts stuck with ⟨notice, stops⟩ | ⟨schema, declared, rfl, dotless, held⟩
  · exact .inl ⟨parts, reached, rest, notice, descends, stops⟩
  · exact .inr ⟨parts, schema, rest, declared, descends, dotless, held⟩

/-- Where the descent stops, resolution gives this notice and has given none before. -/
theorem notices_of_stops (descends : Descends start key parts reached rest)
    (stops : Stops key parts reached rest notice) :
    (resolve start "" key operator).notices = [notice] := by
  have whole := descends.walked_append_eq
  rw [resolve_of_descends operator "" descends, String.empty_append]
  cases stops with
  | untyped => rw [resolve_none, whole]
  | noParent dotted absent =>
    rw [resolve_of_noParent (by simpa using dotted) (lastDeclared?_eq_none_iff.mpr absent), whole]
  | undeclared dotless absent => rw [resolve_of_undeclared (by simpa using dotless) absent, whole]
  | notContainer longest plain =>
    rw [resolve_of_notContainer (by simpa using longest.dot_mem)
      (lastDeclared?_eq_some_iff.mpr longest) (by simp [plain]), walked_append]

/-- Where a leaf is reached, nothing is said. -/
theorem ReachesLeaf.notices_eq_nil (reaches : ReachesLeaf start key) :
    (resolve start "" key operator).notices = [] := by
  obtain ⟨parts, reached, leaf, declared, descends, dotless, held⟩ := reaches
  rw [resolve_of_descends operator "" descends, resolve_of_declared (by simpa using dotless) held]

/-- Nothing is said exactly if a leaf is reached, for every stop has something to say. -/
theorem notices_eq_nil_iff :
    (resolve start "" key operator).notices = [] ↔ ReachesLeaf start key := by
  refine ⟨fun silent => ?_, ReachesLeaf.notices_eq_nil⟩
  rcases exists_stops_or_reachesLeaf start key with ⟨_, _, _, _, descends, stops⟩ | leaf
  · cases (notices_of_stops descends stops).symm.trans silent
  · exact leaf

/-- What is said is said at a stop. -/
theorem mem_notices_iff : notice ∈ (resolve start "" key operator).notices ↔
    ∃ parts reached rest, Descends start key parts reached rest ∧
      Stops key parts reached rest notice := by
  constructor
  · intro member
    rcases exists_stops_or_reachesLeaf start key with ⟨_, _, _, _, descends, stops⟩ | leaf
    · rw [notices_of_stops descends stops] at member
      obtain rfl := List.mem_singleton.mp member
      exact ⟨_, _, _, descends, stops⟩
    · rw [leaf.notices_eq_nil] at member
      cases member
  · rintro ⟨_, _, _, descends, stops⟩
    rw [notices_of_stops descends stops]
    exact List.mem_singleton_self notice

/-- The notice at a stop is about the whole key, or about the part of it that is blocked. -/
theorem Stops.traces (stops : Stops key parts reached rest notice)
    (descends : Descends start key parts reached rest) :
    (notice.Traces key ∧ notice ∈ [.untypedRegion key, .undeclared key, .noParent key]) ∨
      ∃ path type, notice.Traces path ∧ notice = .notContainer path type ∧
        Blocked start key path type := by
  cases stops with
  | untyped => exact .inl ⟨Notice.traces_of_path? rfl, by simp⟩
  | noParent _ _ => exact .inl ⟨Notice.traces_of_path? rfl, by simp⟩
  | undeclared _ _ => exact .inl ⟨Notice.traces_of_path? rfl, by simp⟩
  | @notContainer schema rest name behind declared longest plain =>
    refine .inr ⟨_, _, Notice.traces_of_path? rfl, rfl,
      parts, schema, rest, name, behind, declared.child, descends, longest.held, plain, rfl, ?_⟩
    rw [← descends.walked_append_eq, ← walked_append, longest.cut]
    simp only [String.append_assoc]

/-- What resolution says about a key, under any operator.

It gives no more than one notice, and none exactly if the descent of the key ends with a declared name
without dots. Which notice it gives is decided by where the descent stops. It is a trace notice that prints
the whole key, or, where a name stands in the way that is no container, the key up to the end of this name.

A descent that goes as far as it can comes to a stop or to a leaf, and on its way nothing is said. -/
theorem notices_resolve (start : Option Schema) (key : String) (operator : Option String) :
    let said := (resolve start "" key operator).notices
    said.length ≤ 1 ∧ (said = [] ↔ ReachesLeaf start key) ∧
    (∀ notice, notice ∈ said ↔ ∃ parts reached rest, Descends start key parts reached rest ∧
      Stops key parts reached rest notice) ∧
    ∀ notice ∈ said,
      (notice.Traces key ∧ notice ∈ [.untypedRegion key, .undeclared key, .noParent key]) ∨
        ∃ path type, notice.Traces path ∧ notice = .notContainer path type ∧
          Blocked start key path type := by
  intro said
  refine ⟨?_, notices_eq_nil_iff, fun notice => mem_notices_iff, fun notice member => ?_⟩
  · rcases exists_stops_or_reachesLeaf start key with ⟨_, _, _, _, descends, stops⟩ | leaf
    · exact (congrArg List.length (notices_of_stops descends stops)).le
    · exact (congrArg List.length leaf.notices_eq_nil).le.trans (Nat.zero_le 1)
  · obtain ⟨_, _, _, descends, stops⟩ := mem_notices_iff.mp member
    exact stops.traces descends

/-- The price of an item is a number, and a number has no amount. The notice is about the price. -/
theorem amount_of_a_price :
    let item := Schema.empty.declare "price" ⟨.number, none⟩
    let schema := Schema.empty.declare "shop.items" ⟨.documentArray, some item⟩
    let notice := Notice.notContainer "shop.items.price" .number
    Stops "shop.items.price.amount" ["shop.items"] (some item) "price.amount" notice ∧
      notice ∈ (resolve (some schema) "" "shop.items.price.amount" (some "gt")).notices ∧
      notice.text = "shop.items.price is a Number, cannot descend into it" ∧
      Blocked (some schema) "shop.items.price.amount" "shop.items.price" .number := by
  intro item schema notice
  have items : schema.lastDeclared? "shop.items.price.amount" =
      some ("shop.items", "price.amount", ⟨.documentArray, some item⟩) := by cbv
  have price : item.lastDeclared? "price.amount" = some ("price", "amount", ⟨.number, none⟩) := by cbv
  have descends : Descends (some schema) "shop.items.price.amount" ["shop.items"] (some item)
      "price.amount" := .into ⟨_, lastDeclared?_eq_some_iff.mp items, .inl rfl, rfl⟩ .here
  have stops : Stops "shop.items.price.amount" ["shop.items"] (some item) "price.amount" notice :=
    .notContainer (lastDeclared?_eq_some_iff.mp price) rfl
  obtain ⟨_, _, told, about⟩ := notices_resolve (some schema) "shop.items.price.amount" (some "gt")
  have member := (told notice).mpr ⟨_, _, _, descends, stops⟩
  refine ⟨stops, member, by decide, ?_⟩
  rcases about notice member with ⟨_, whole⟩ | ⟨_, _, _, same, blocked⟩
  · simp [notice] at whole
  · obtain ⟨rfl, rfl⟩ := Notice.notContainer.inj same
    exact blocked

end Schema

end ParamFilter
