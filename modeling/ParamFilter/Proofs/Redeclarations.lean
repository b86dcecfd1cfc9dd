import Mathlib
import ParamFilter.Proofs.Descent

/-!
# What a resolution does not depend on

Resolution reads few of the declarations of a schema. In every schema that it comes to it looks at the
parts of the key in front of a dot, and at the whole key if that has no dots. Whatever is declared under
another name may come, go or change, at the top or in a schema inside, and the key is found the same,
with the same notices.

Of the operator only one thing counts, whether it asks for a place, and this counts only where a
declared name without dots is reached. The path in front of the key shows in notices alone. That the
visible declarations do have a part in what is found is not a matter of this module.
-/

namespace ParamFilter.Schema

/-- The names at which resolution may look in one schema: the parts of the key in front of a dot, and the
key itself if it has none. -/
def Visible (key name : String) : Prop :=
  (name = key ∧ '.' ∉ key.toList) ∨ ∃ rest, key = name ++ "." ++ rest

/-- The schema without the declaration of one name. -/
def undeclare (schema : Schema) (name : String) : Schema :=
  mk (schema.paths.filter fun entry => entry.1 ≠ name)

/-- Two schemas that differ in the declaration of one name, in the schema to which the names in `parts`
lead. On the way there they differ in what is inside those names only. -/
inductive Redeclared (name : String) : List String → Schema → Schema → Prop
  | here {left right : Schema}
      (others : ∀ other, other ≠ name → right.path? other = left.path? other) :
      Redeclared name [] left right
  | inside {left right child child' : Schema} {type : PathType} {part : String} {parts : List String}
      (held : left.path? part = some ⟨type, some child⟩)
      (held' : right.path? part = some ⟨type, some child'⟩)
      (others : ∀ other, other ≠ part → right.path? other = left.path? other)
      (further : Redeclared name parts child child') :
      Redeclared name (part :: parts) left right

/-- The descent of a key ends with a declared name without dots. -/
def ReachesLeaf (start : Option Schema) (key : String) : Prop :=
  ∃ parts reached leaf declared, Descends start key parts (some reached) leaf ∧
    '.' ∉ leaf.toList ∧ reached.path? leaf = some declared

/-- Declaring a name, anew or in place of an earlier declaration, changes that name only. -/
theorem redeclared_declare (schema : Schema) (name : String) (declaration : Declaration Schema) :
    Redeclared name [] schema (schema.declare name declaration) :=
  .here fun _ different => path?_declare_of_ne schema different declaration

/-- Removing a declaration changes that name only. -/
theorem redeclared_undeclare (schema : Schema) (name : String) :
    Redeclared name [] schema (schema.undeclare name) := by
  obtain ⟨entries⟩ := schema
  refine .here fun other different => ?_
  show (entries.filter fun entry => entry.1 ≠ name).lookup other = entries.lookup other
  induction entries with
  | nil => rfl
  | cons entry rest ih =>
    by_cases removed : entry.1 = name
    · have unequal : (other == entry.1) = false := beq_eq_false_iff_ne.mpr (removed ▸ different)
      rw [List.filter_cons_of_neg (by simpa using removed), ih, List.lookup_cons, unequal]
    · rw [List.filter_cons_of_pos (by simpa using removed), List.lookup_cons, List.lookup_cons, ih]

variable {schema other : Schema} {parent key name : String} {operator : Option String}

/-- Schemas that agree on the visible names resolve a key alike. -/
theorem resolve_congr_of_visible
    (same : ∀ name, Visible key name → other.path? name = schema.path? name) :
    resolve (some other) parent key operator = resolve (some schema) parent key operator := by
  by_cases dotted : '.' ∈ key.toList
  · exact resolve_congr_of_dotted dotted fun part rest cut => same part (.inr ⟨rest, cut⟩)
  · have agree : other.path? key = schema.path? key := same key (.inl ⟨rfl, dotted⟩)
    have dotless : ¬key.toList.contains '.' = true := by simpa using dotted
    cases held : schema.path? key with
    | none =>
      rw [resolve_of_undeclared dotless held, resolve_of_undeclared dotless (agree.trans held)]
    | some declared =>
      rw [resolve_of_declared dotless held, resolve_of_declared dotless (agree.trans held)]

/-- A change inside one container leaves it the longest declared part of a key. -/
theorem LongestDeclared.of_others {part rest : String} {declared declared' : Declaration Schema}
    (longest : LongestDeclared schema key part rest declared)
    (held' : other.path? part = some declared')
    (others : ∀ asked, asked ≠ part → other.path? asked = schema.path? asked) :
    LongestDeclared other key part rest declared' where
  cut := longest.cut
  held := held'
  longest := by
    intro longer behind cut further
    have different : longer ≠ part := fun same => Nat.lt_irrefl _ (same ▸ further)
    rw [others longer different]
    exact longest.longest longer behind cut further

/-- A declaration that is not visible for what is left of a key has no part in resolving the key.

Induct over the way to the place of the change. There, the two schemas agree on what is visible. On the
way, both are entered under the same name, and what is inside differs further down. -/
theorem resolve_of_redeclared {parts : List String} {rest : String} {reached : Schema}
    (redeclared : Redeclared name parts schema other)
    (descends : Descends (some schema) key parts (some reached) rest)
    (unseen : ¬Visible rest name) :
    resolve (some other) parent key operator = resolve (some schema) parent key operator := by
  induction redeclared generalizing parent key with
  | here others =>
    cases descends with
    | here =>
      apply resolve_congr_of_visible
      intro asked visible
      apply others
      rintro rfl
      exact unseen visible
  | @inside left right child child' type part parts held held' others _ ih =>
    cases descends with
    | into enters further =>
      obtain ⟨declared, longest, container, rfl⟩ := enters
      obtain rfl := Option.some.inj (held.symm.trans longest.held)
      have entersLeft : Enters left key part _ (some child) := ⟨_, longest, container, rfl⟩
      have entersRight : Enters right key part _ (some child') :=
        ⟨_, longest.of_others held' others, container, rfl⟩
      rw [resolve_of_enters entersRight, resolve_of_enters entersLeft]
      exact ih further

/-- The path in front of a key has no part in its kind. -/
theorem kind_resolve_parent (start : Option Schema) (parent parent' key : String)
    (operator : Option String) :
    (resolve start parent' key operator).kind = (resolve start parent key operator).kind := by
  fun_induction resolve start parent key operator generalizing parent' with
  | case1 => rw [resolve_none]
  | case2 parent key schema dotted absent => rw [resolve_of_noParent dotted absent]
  | case3 parent key schema dotted part rest declared found _ container ih =>
    rw [resolve_of_container dotted found container]
    exact ih _
  | case4 parent key schema dotted part rest declared found _ plain =>
    rw [resolve_of_notContainer dotted found plain]
  | case5 parent key schema dotless undeclared => rw [resolve_of_undeclared dotless undeclared]
  | case6 parent key schema dotless declared held => rw [resolve_of_declared dotless held]

/-- Asking for a place changes nothing unless a leaf is reached. The operator is looked at in no other
case of the resolution. -/
theorem reachesLeaf_or_resolve_near (start : Option Schema) (parent key : String) :
    ReachesLeaf start key ∨
      resolve start parent key (some nearOperator) = resolve start parent key none := by
  fun_induction resolve start parent key none with
  | case1 => exact .inr resolve_none
  | case2 parent key schema dotted absent => exact .inr (resolve_of_noParent dotted absent)
  | case3 parent key schema dotted part rest declared found _ container ih =>
    rcases ih with ⟨parts, reached, leaf, leafDeclared, descends, ends⟩ | same
    · have enters : Enters schema key part rest declared.child :=
        ⟨declared, lastDeclared?_eq_some_iff.mp found, PathType.isContainer_iff.mp container, rfl⟩
      exact .inl ⟨part :: parts, reached, leaf, leafDeclared, .into enters descends, ends⟩
    · rw [resolve_of_container dotted found container, same]
      exact .inr rfl
  | case4 parent key schema dotted part rest declared found _ plain =>
    exact .inr (resolve_of_notContainer dotted found plain)
  | case5 parent key schema dotless undeclared =>
    exact .inr (resolve_of_undeclared dotless undeclared)
  | case6 parent key schema dotless declared held =>
    exact .inl ⟨[], schema, key, declared, .here, by simpa using dotless, held⟩

/-- Where a leaf is reached, asking for a place finds one. -/
theorem ReachesLeaf.kind_resolve_near {start : Option Schema} (reaches : ReachesLeaf start key) :
    (resolve start parent key (some nearOperator)).kind = .geoPoint := by
  obtain ⟨parts, reached, leaf, declared, descends, dotless, held⟩ := reaches
  obtain ⟨path, onward⟩ := exists_resolve_of_descends (some nearOperator) parent descends
  rw [onward, resolve_of_declared (by simpa using dotless) held, if_pos rfl]

/-- In an untyped region a key is a string under every operator. -/
theorem kind_resolve_untyped {start : Option Schema} {parts : List String} {leaf : String}
    (descends : Descends start key parts none leaf) (operator : Option String) :
    (resolve start parent key operator).kind = .string := by
  obtain ⟨path, onward⟩ := exists_resolve_of_descends operator parent descends
  rw [onward, resolve_none]

/-- A key that reaches neither a leaf nor an untyped region is of no kind, whatever its operator. -/
theorem kind_resolve_of_lost (noLeaf : ¬ReachesLeaf (some schema) key)
    (typed : ∀ parts leaf, ¬Descends (some schema) key parts none leaf) (operator : Option String) :
    (resolve (some schema) parent key operator).kind = .unknown := by
  by_contra known
  obtain ⟨parts, reached, leaf, descends, ends⟩ := exists_descends_of_kind_resolve known
  generalize (resolve (some schema) parent key operator).kind = kind at ends
  cases ends with
  | untyped => exact typed parts leaf descends
  | declared dotless held => exact noLeaf ⟨parts, _, leaf, _, descends, dotless, held⟩

/-- What has no part in the resolution of a key.

The first part is about every schema to which the descent of the key leads, the outermost among them, and
about `rest`, which is left of the key there. A declaration of another name does not matter if `rest` does
not begin with that name and a dot, and neither does the declaration of `rest` itself if `rest` has a dot.
The second and the third part are about the operator, and the last one is about the path in front.

Each part is a lemma above. In the third, asking for a place changes a kind only if it changes the
resolution, and then a leaf is reached. -/
theorem resolve_independent (schema : Schema) (key : String) (operator : Option String)
    (parent : String) :
    let near := resolve (some schema) parent key (some nearOperator)
    let plain := resolve (some schema) parent key none
    (∀ parts reached rest name other, Descends (some schema) key parts (some reached) rest →
      Redeclared name parts schema other →
      ((name ≠ rest → (∀ behind, rest ≠ name ++ "." ++ behind) →
          resolve (some other) parent key operator = resolve (some schema) parent key operator) ∧
        (name = rest → '.' ∈ rest.toList →
          resolve (some other) parent key operator = resolve (some schema) parent key operator))) ∧
    (operator ≠ some nearOperator →
      (resolve (some schema) parent key operator).kind = plain.kind) ∧
    ((near.kind ≠ plain.kind → near.kind = .geoPoint ∧ ReachesLeaf (some schema) key) ∧
      (ReachesLeaf (some schema) key → near.kind = .geoPoint) ∧
      (¬ReachesLeaf (some schema) key → near = plain) ∧
      (∀ parts leaf, Descends (some schema) key parts none leaf →
        near.kind = .string ∧ plain.kind = .string) ∧
      (¬ReachesLeaf (some schema) key →
        (∀ parts leaf, ¬Descends (some schema) key parts none leaf) →
        near.kind = .unknown ∧ plain.kind = .unknown)) ∧
    (∀ parent', (resolve (some schema) parent' key operator).kind =
      (resolve (some schema) parent key operator).kind) := by
  intro near plain
  have leafOrSame : ReachesLeaf (some schema) key ∨ near = plain :=
    reachesLeaf_or_resolve_near (some schema) parent key
  refine ⟨?_, ?_, ⟨?_, ?_, ?_, ?_, ?_⟩, ?_⟩
  · intro parts reached rest name other descends redeclared
    constructor
    · intro different noPart
      refine resolve_of_redeclared redeclared descends ?_
      rintro (⟨same, _⟩ | ⟨behind, cut⟩)
      · exact different same
      · exact noPart behind cut
    · rintro rfl dotted
      refine resolve_of_redeclared redeclared descends ?_
      rintro (⟨_, dotless⟩ | ⟨behind, cut⟩)
      · exact dotless dotted
      · simpa using congrArg List.length (eq_append_iff.mp cut)
  · intro elsewhere
    exact kind_resolve_of_ne_near elsewhere (some schema) parent key
  · intro changed
    rcases leafOrSame with reaches | same
    · exact ⟨reaches.kind_resolve_near, reaches⟩
    · exact absurd (congrArg Resolution.kind same) changed
  · exact fun reaches => reaches.kind_resolve_near
  · exact fun noLeaf => leafOrSame.resolve_left noLeaf
  · exact fun parts leaf descends =>
      ⟨kind_resolve_untyped descends _, kind_resolve_untyped descends _⟩
  · exact fun noLeaf typed =>
      ⟨kind_resolve_of_lost noLeaf typed _, kind_resolve_of_lost noLeaf typed _⟩
  · exact fun parent' => kind_resolve_parent (some schema) parent parent' key operator

/-- The grams of an ingredient are found as before when its name is no longer declared, two containers
further in, and when the whole dotted key is declared as a date. Asked for as a place, they are one. -/
theorem grams_of_ingredients :
    let ingredient := (Schema.empty.declare "grams" ⟨.number, none⟩).declare "name" ⟨.string, none⟩
    let food := Schema.empty.declare "ingredients" ⟨.documentArray, some ingredient⟩
    let schema := Schema.empty.declare "foods" ⟨.documentArray, some food⟩
    let nameless := Schema.empty.declare "foods" ⟨.documentArray,
      some (Schema.empty.declare "ingredients" ⟨.documentArray, some (ingredient.undeclare "name")⟩)⟩
    let key := "foods.ingredients.grams"
    let dated := schema.declare key ⟨.date, none⟩
    Redeclared "name" ["foods", "ingredients"] schema nameless ∧ "name" ≠ "grams" ∧
      (resolve (some nameless) "" key (some "gt")).kind = .number ∧
      (resolve (some dated) "" key (some "gt")).kind = .number ∧
      (resolve (some schema) "" key (some nearOperator)).kind = .geoPoint := by
  intro ingredient food schema nameless key dated
  have step {former latter : Declaration Schema} (part : String) :
      ∀ other, other ≠ part → (Schema.empty.declare part latter).path? other =
        (Schema.empty.declare part former).path? other := by
    intro other different
    rw [path?_declare_of_ne _ different, path?_declare_of_ne _ different]
  have redeclared : Redeclared "name" ["foods", "ingredients"] schema nameless :=
    .inside rfl rfl (step "foods")
      (.inside rfl rfl (step "ingredients") (redeclared_undeclare ingredient "name"))
  have foods : schema.lastDeclared? key =
      some ("foods", "ingredients.grams", ⟨.documentArray, some food⟩) := by cbv
  have ingredients : food.lastDeclared? "ingredients.grams" =
      some ("ingredients", "grams", ⟨.documentArray, some ingredient⟩) := by cbv
  have descends : Descends (some schema) key ["foods", "ingredients"] (some ingredient) "grams" :=
    .into ⟨_, lastDeclared?_eq_some_iff.mp foods, .inl rfl, rfl⟩
      (.into ⟨_, lastDeclared?_eq_some_iff.mp ingredients, .inl rfl, rfl⟩ .here)
  have noPart : ∀ behind, "grams" ≠ "name" ++ "." ++ behind := by
    intro behind cut
    simpa using congrArg (List.head? ·) (eq_append_iff.mp cut)
  have leaf : ReachesLeaf (some schema) key :=
    ⟨_, ingredient, "grams", ⟨.number, none⟩, descends, by decide, rfl⟩
  have number : (resolve (some schema) "" key none).kind = .number := by
    obtain ⟨path, onward⟩ := exists_resolve_of_descends none "" descends
    have held : ingredient.path? "grams" = some ⟨.number, none⟩ := rfl
    rw [onward, resolve_of_declared (by decide) held]
    rfl
  obtain ⟨unseen, ordinary, ⟨_, near, _⟩, _⟩ := resolve_independent schema key (some "gt") ""
  have gt : (resolve (some schema) "" key (some "gt")).kind = .number :=
    (ordinary (by decide)).trans number
  refine ⟨redeclared, by decide, ?_, ?_, near leaf⟩
  · rw [(unseen _ _ _ _ _ descends redeclared).1 (by decide) noPart, gt]
  · have whole : Redeclared key [] schema dated := redeclared_declare schema key ⟨.date, none⟩
    rw [(unseen _ _ _ _ _ .here whole).2 rfl (by decide), gt]

end ParamFilter.Schema
