import Mathlib
import ParamFilter.Proofs.Slots

/-!
# The shapes that a filter may have

Operators are free text in a request, and yet no request can put an operator of its own into a
filter. The conditions that operands become are listed here: a literal, or an operator object in
which every operator is a known one, has an operand of its own shape, and never stands without the
operator it belongs to. Merging two such objects key by key gives such an object again, because the
pairs are closed under union. So the list covers every path of every filter, and the two
combinators, which hold JSON, are the only exception.

The last part is about the paths themselves. A path that begins with a dollar sign could be taken
for an operator by a reader of the filter. Apart from the combinators this needs a schema that
declares such a name.
-/

namespace ParamFilter

namespace Condition

/-- The keys of the operators that hold a list. -/
def listKeys : List String := ["$in", "$nin", "$all"]

/-- The keys of the operators that compare by order. -/
def rangeKeys : List String := ["$gt", "$gte", "$lt", "$lte"]

/-- The operands that an operator may have, by its key. No other key may have any. -/
inductive OperandFits : String → Condition → Prop where
  | texts {key : String} {tokens : List String} (list : key ∈ listKeys)
      (several : 2 ≤ tokens.length) : OperandFits key (.texts tokens)
  | patterns {key : String} {sources : List String} (list : key ∈ listKeys)
      (several : 2 ≤ sources.length) : OperandFits key (.patterns sources)
  | mod (divisor remainder : String) : OperandFits "$mod" (.texts [divisor, remainder])
  | rangeText {key : String} (range : key ∈ rangeKeys) (s : String) : OperandFits key (.text s)
  | rangeDate {key : String} (range : key ∈ rangeKeys) (instant : Instant) :
      OperandFits key (.date instant)
  | ne (s : String) : OperandFits "$ne" (.text s)
  | not (source : String) : OperandFits "$not" (.pattern source)
  | regex (source : String) : OperandFits "$regex" (.text source)
  | options : OperandFits "$options" (.text "-i")
  | near (latitude longitude : Float) :
      OperandFits "$near" (.list [.float latitude, .float longitude])
  | maxDistance (distance : Float) : OperandFits "$maxDistance" (.float distance)

/-- An operator object: some operators in order, each with an operand that fits, options exactly
where there is a regular expression, and a distance only where there is a place. -/
structure OperandsFit (operands : List (String × Condition)) : Prop where
  ascending : Keyed.Ascending operands
  notEmpty : operands ≠ []
  fits : ∀ entry ∈ operands, OperandFits entry.1 entry.2
  options : "$options" ∈ Keyed.keys operands ↔ "$regex" ∈ Keyed.keys operands
  distance : "$maxDistance" ∈ Keyed.keys operands → "$near" ∈ Keyed.keys operands

/-- The conditions that operands leave on the path of a field. -/
inductive FieldShape : Condition → Prop where
  | bool (b : Bool) : FieldShape (.bool b)
  | int (n : Int) : FieldShape (.int n)
  | text (s : String) : FieldShape (.text s)
  | date (instant : Instant) : FieldShape (.date instant)
  | operators {operands : List (String × Condition)} (fit : OperandsFit operands) :
      FieldShape (.operators operands)

/-- One operator without a companion is an operator object. -/
theorem FieldShape.operator {name : String} {operand : Condition}
    (fits : OperandFits (operatorKey name) operand)
    (alone : operatorKey name ∉ ["$options", "$regex", "$maxDistance"]) :
    FieldShape (Condition.operator name operand) := by
  simp only [List.mem_cons, List.not_mem_nil, or_false, not_or] at alone
  obtain ⟨noOptions, noRegex, noDistance⟩ := alone
  refine .operators ⟨List.pairwise_singleton _ _, List.cons_ne_nil _ _, ?_, ?_, ?_⟩
  · intro entry member
    obtain rfl := List.mem_singleton.mp member
    exact fits
  · simp [Keyed.keys, Ne.symm noOptions, Ne.symm noRegex]
  · simp [Keyed.keys, Ne.symm noDistance]

/-- Uniting two operator objects gives an operator object. Both conditions on companions are about
which keys are there, and the keys of a union are those of its sides. -/
theorem OperandsFit.union {old new : List (String × Condition)} (held : OperandsFit old)
    (added : OperandsFit new) : OperandsFit (Keyed.union old new) where
  ascending := held.ascending.union new
  notEmpty := by
    obtain ⟨entry, others, rfl⟩ := List.exists_cons_of_ne_nil held.notEmpty
    have inside : entry.1 ∈ Keyed.keys (Keyed.union (entry :: others) new) :=
      Keyed.mem_keys_union.mpr (.inr List.mem_cons_self)
    intro empty
    rw [empty] at inside
    cases inside
  fits := by
    intro entry member
    rcases Keyed.mem_union member with fromNew | fromOld
    · exact added.fits entry fromNew
    · exact held.fits entry fromOld
  options := by
    rw [Keyed.mem_keys_union, Keyed.mem_keys_union, held.options, added.options]
  distance := by
    rw [Keyed.mem_keys_union, Keyed.mem_keys_union]
    exact Or.imp added.distance held.distance

/-- Putting one field condition over another gives a field condition. -/
theorem FieldShape.mergeOver {held added : Condition} (old : FieldShape held)
    (new : FieldShape added) : FieldShape (held.mergeOver added) := by
  cases old with
  | operators heldFit =>
    cases new with
    | operators addedFit => exact .operators (heldFit.union addedFit)
    | bool b => exact .bool b
    | int n => exact .int n
    | text s => exact .text s
    | date instant => exact .date instant
  | bool b => exact new
  | int n => exact new
  | text s => exact new
  | date instant => exact new

/-- A value with a comma has at least two parts. -/
theorem two_le_length_tokens {value : String} (list : isList value = true) :
    2 ≤ (tokens value).length := by
  have comma : ',' ∈ value.toList := by simpa [isList] using list
  obtain ⟨before, behind, split⟩ := List.append_of_mem comma
  have first : 0 < (before.splitOn ',').length := List.length_pos_iff.mpr (List.splitOn_ne_nil _ _)
  have second : 0 < (behind.splitOn ',').length := List.length_pos_iff.mpr (List.splitOn_ne_nil _ _)
  rw [tokens, split, List.splitOn_append_cons_self, List.length_map, List.length_append]
  omega

/-- The first two parts of a value with a comma are two texts. -/
theorem take_two_tokens {value : String} (list : isList value = true) :
    ∃ first second, (tokens value).take 2 = [first, second] := by
  have several := two_le_length_tokens list
  match parts : tokens value with
  | [] => simp [parts] at several
  | [_] => simp [parts] at several
  | first :: second :: _ => exact ⟨first, second, rfl⟩

/-- A range operator has the key of one. -/
theorem operatorKey_mem_rangeKeys {name : String} (range : name ∈ rangeOperators) :
    operatorKey name ∈ rangeKeys := by
  simp only [rangeOperators, List.mem_cons, List.not_mem_nil, or_false] at range
  rcases range with rfl | rfl | rfl | rfl <;> decide

/-- A key for lists or ranges has no companion. -/
theorem alone_of_mem {key : String} (plain : key ∈ listKeys ++ rangeKeys) :
    key ∉ ["$options", "$regex", "$maxDistance"] := by
  simp only [listKeys, rangeKeys, List.cons_append, List.nil_append, List.mem_cons, List.not_mem_nil,
    or_false] at plain
  rcases plain with rfl | rfl | rfl | rfl | rfl | rfl | rfl <;> decide

/-- A literal that fits the range operators is a field condition with and without one of them. -/
theorem FieldShape.under {value : Condition} (literal : FieldShape value)
    (fits : ∀ key ∈ rangeKeys, OperandFits key value) (operator : Option String) :
    FieldShape (under rangeOperators operator value) := by
  cases operator with
  | none => exact literal
  | some name =>
    by_cases range : name ∈ rangeOperators
    · have key : operatorKey name ∈ rangeKeys := operatorKey_mem_rangeKeys range
      have compared : FieldShape (Condition.operator name value) :=
        .operator (fits _ key) (alone_of_mem (List.mem_append_right _ key))
      simpa [Condition.under, range] using compared
    · simpa [Condition.under, range] using literal

/-- A number gives a field condition, if it gives any. -/
theorem fieldShape_of_ofNumber? {value : String} {operator : Option String} {condition : Condition}
    (given : ofNumber? value operator = some condition) : FieldShape condition := by
  unfold ofNumber? at given
  split at given
  · cases given
  · split at given
    · next list =>
      have several := two_le_length_tokens list
      split at given <;> obtain rfl := Option.some.inj given
      · exact .operator (.texts (by decide) several) (by decide)
      · exact .operator (.texts (by decide) several) (by decide)
      · obtain ⟨first, second, parts⟩ := take_two_tokens list
        rw [parts]
        exact .operator (.mod first second) (by decide)
      · exact .operator (.texts (by decide) several) (by decide)
    · split at given
      · next name =>
        split at given
        · next comparison =>
          obtain rfl := Option.some.inj given
          have known : name ∈ rangeOperators ∨ name = "ne" := by
            simpa [comparisons] using comparison
          rcases known with range | rfl
          · have key := operatorKey_mem_rangeKeys range
            exact .operator (.rangeText key value) (alone_of_mem (List.mem_append_right _ key))
          · exact .operator (.ne value) (by decide)
        · obtain ⟨n, _, rfl⟩ := Option.map_eq_some_iff.mp given
          exact .int n
      · obtain ⟨n, _, rfl⟩ := Option.map_eq_some_iff.mp given
        exact .int n

/-- A text gives a field condition. -/
theorem fieldShape_ofString (value : String) (operator : Option String) :
    FieldShape (ofString value operator) := by
  unfold ofString
  split
  · next list =>
    have several := two_le_length_tokens list
    split
    · exact .operator (.patterns (by decide) several) (by decide)
    · exact .operator (.patterns (by decide) several) (by decide)
    · exact .operator (.patterns (by decide) several) (by decide)
  · split
    · exact .under (.text value) (fun key range => .rangeText range value) operator
    · split
      · exact .operator (.not value) (by decide)
      · exact .operator (.not value) (by decide)
      · exact .text value
      · have below : "$options" < "$regex" := by decide
        refine .operators ⟨List.pairwise_pair.mpr below, List.cons_ne_nil _ _, ?_,
          by simp [Keyed.keys], by simp [Keyed.keys]⟩
        intro entry member
        simp only [List.mem_cons, List.not_mem_nil, or_false] at member
        rcases member with rfl | rfl
        · exact .options
        · exact .regex value

/-- A place gives a field condition, if it gives any. -/
theorem fieldShape_of_ofPlace? {value : String} {condition : Condition}
    (given : ofPlace? value = some condition) : FieldShape condition := by
  unfold ofPlace? at given
  split at given
  · next latitude longitude rest _ =>
    obtain ⟨lat, _, given⟩ := Option.bind_eq_some_iff.mp given
    obtain ⟨lng, _, given⟩ := Option.bind_eq_some_iff.mp given
    obtain rfl := Option.some.inj given
    split
    · next miles _ =>
      have below : "$maxDistance" < "$near" := by decide
      refine .operators ⟨List.pairwise_pair.mpr below, List.cons_ne_nil _ _, ?_,
        by simp [Keyed.keys], by simp [Keyed.keys]⟩
      intro entry member
      simp only [List.mem_cons, List.not_mem_nil, or_false] at member
      rcases member with rfl | rfl
      · exact .maxDistance _
      · exact .near lat lng
    · exact .operator (.near lat lng) (by decide)
  · cases given

/-- Whatever kind a field has, an operand gives a field condition or none. -/
theorem fieldShape_of_ofOperand? {kind : Kind} {value : String} {operator : Option String}
    {condition : Condition} (given : ofOperand? kind value operator = some condition) :
    FieldShape condition := by
  cases kind with
  | boolean =>
    obtain rfl := Option.some.inj given
    exact .bool _
  | number => exact fieldShape_of_ofNumber? given
  | string =>
    obtain rfl := Option.some.inj given
    exact fieldShape_ofString value operator
  | date =>
    obtain ⟨instant, _, rfl⟩ := Option.map_eq_some_iff.mp given
    exact .under (.date instant) (fun key range => .rangeDate range instant) operator
  | identifier =>
    obtain rfl := Option.some.inj given
    exact .text value
  | geoPoint => exact fieldShape_of_ofPlace? given
  | unknown => cases given

end Condition

namespace Schema

/-- A key of a known kind is declared at the root, or a part of it in front of one of its dots is.
The descent looks deeper only behind such a part, and never comes back. -/
theorem declared_of_known {schema : Schema} {parent key : String} {operator : Option String}
    (known : (resolve (some schema) parent key operator).kind ≠ .unknown) :
    ∃ name declared, schema.path? name = some declared ∧
      (key = name ∨ ∃ behind, key.toList = name.toList ++ '.' :: behind) := by
  rw [resolve] at known
  split at known
  · split at known
    · exact absurd rfl known
    · next before behind declared found =>
      obtain ⟨parts, declaredThere⟩ := eq_of_lastDeclared? found
      exact ⟨before, declared, declaredThere, .inr ⟨_, parts⟩⟩
  · split at known
    · exact absurd rfl known
    · next declared found => exact ⟨key, declared, found, .inl rfl⟩

/-- A key of a known kind begins as a name at the root does, unless it begins with a dot. -/
theorem declared_head_of_known {schema : Schema} {parent key : String} {operator : Option String}
    (known : (resolve (some schema) parent key operator).kind ≠ .unknown) {c : Char} (noDot : c ≠ '.')
    (head : key.toList.head? = some c) :
    ∃ name declared, schema.path? name = some declared ∧ name.toList.head? = some c := by
  obtain ⟨name, declared, found, same | ⟨behind, parts⟩⟩ := declared_of_known known
  · exact ⟨name, declared, found, same ▸ head⟩
  · refine ⟨name, declared, found, ?_⟩
    rw [parts] at head
    cases chars : name.toList with
    | nil =>
      rw [chars] at head
      exact absurd (Option.some.inj head).symm noDot
    | cons first others =>
      rw [chars] at head
      exact head

/-- What gives a condition is of a known kind. -/
theorem known_of_condition? {schema : Schema} {key : String} {operand : Operand}
    {condition : Condition} (coerced : schema.condition? key operand = some condition) :
    (resolve (some schema) "" key operand.operator).kind ≠ .unknown := by
  intro unknown
  rw [condition?, unknown] at coerced
  cases coerced

end Schema

namespace Request

open Condition

/-- What a path of a filter may hold: JSON that is not an empty value under a combinator, and a
field condition under any other key, which some operator then finds in the schema. -/
inductive EntryFits (schema : Schema) (path : String) : Condition → Prop where
  | combination (combinator : path = "$or" ∨ path = "$and") {value : Json}
      (truthy : value.isTruthy = true) : EntryFits schema path (.json value)
  | field (unreserved : path ∉ reservedKeys) {operator : Option String}
      (known : (Schema.resolve (some schema) "" path operator).kind ≠ .unknown)
      {condition : Condition} (shape : FieldShape condition) : EntryFits schema path condition

variable {schema : Schema}

/-- Under a key that is not reserved there is nothing but field conditions. -/
theorem EntryFits.fieldShape {path : String} {condition : Condition}
    (fits : EntryFits schema path condition) (noCombinator : ¬(path = "$or" ∨ path = "$and")) :
    FieldShape condition := by
  cases fits with
  | combination combinator => exact absurd combinator noCombinator
  | field _ _ shape => exact shape

/-- Under a combinator there is nothing but JSON that is not an empty value. -/
theorem EntryFits.truthy {path : String} {condition : Condition}
    (fits : EntryFits schema path condition) (combinator : path = "$or" ∨ path = "$and") :
    ∃ value, condition = .json value ∧ value.isTruthy = true := by
  cases fits with
  | combination _ truthy => exact ⟨_, rfl, truthy⟩
  | field unreserved =>
    rcases combinator with rfl | rfl <;> exact absurd (by decide) unreserved

/-- A field condition that comes from the schema may be placed on whatever its path may hold. What
is there is a field condition too, because a path that is not reserved holds nothing else. -/
theorem EntryFits.placedOn {path : String} {held : Option Condition} {added : Condition}
    {operator : Option String} (unreserved : path ∉ reservedKeys)
    (known : (Schema.resolve (some schema) "" path operator).kind ≠ .unknown)
    (shape : FieldShape added) (before : ∀ old, held = some old → EntryFits schema path old) :
    EntryFits schema path (added.placedOn held) := by
  refine .field unreserved known ?_
  cases held with
  | none => exact shape
  | some old =>
    have noCombinator : ¬(path = "$or" ∨ path = "$and") := by
      rintro (rfl | rfl) <;> exact unreserved (by decide)
    exact ((before old rfl).fieldShape noCombinator).mergeOver shape

/-- A write leaves on a path what the path may hold. Only two writes concern a path. A combination
replaces what is there by JSON that has been checked, and a condition is placed on what is there. -/
theorem EntryFits.revise {path chunk key : String} {write : Write}
    (made : Effect.Makes schema key chunk write) {held : Option Condition}
    (before : ∀ old, held = some old → EntryFits schema path old) {condition : Condition}
    (after : write.revise (.path path) held = some condition) : EntryFits schema path condition := by
  by_cases own : write.slot = .path path
  · cases made with
    | combination route filled parsed truthy =>
      obtain rfl : key = path := Slot.path.inj own
      rw [Write.revise, if_pos rfl] at after
      obtain rfl := Option.some.inj after
      exact .combination (Route.ofKey_eq_combinator_iff.mp route) truthy
    | count => cases own
    | commaList => cases own
    | condition route given =>
      obtain rfl : key = path := Slot.path.inj own
      obtain ⟨_, coerced⟩ := Schema.chunkCondition?_eq_some_iff.mp given
      rw [Write.revise, if_pos rfl] at after
      obtain rfl := Option.some.inj after
      exact .placedOn (Route.ofKey_eq_field_iff.mp route) (Schema.known_of_condition? coerced)
        (fieldShape_of_ofOperand? coerced) before
  · rw [Write.revise_of_ne own] at after
    exact before condition after

/-- Every path of a request holds what it may. -/
def Fits (schema : Schema) (request : Request) : Prop :=
  ∀ path condition, request.at? (.path path) = some condition → EntryFits schema path condition

/-- Handling an operand keeps every path to what it may hold. -/
theorem Fits.step {request : Request} (fits : Fits schema request) (operand : String × String) :
    Fits schema (step schema request operand) := by
  obtain ⟨key, chunk⟩ := operand
  by_cases active : ∃ write, Effect.Makes schema key chunk write
  · obtain ⟨write, made⟩ := active
    intro path condition held
    rw [step_of_makes schema made, at?_apply] at held
    exact .revise made (fits path) held
  · rw [step_of_not_makes schema fun write made => active ⟨write, made⟩]
    exact fits

/-- Handling many operands does so too, by induction over the operands. -/
theorem Fits.foldl_step {request : Request} (fits : Fits schema request)
    (operands : List (String × String)) : Fits schema (operands.foldl (Request.step schema) request) := by
  induction operands generalizing request with
  | nil => exact fits
  | cons operand rest ih => exact ih (fits.step operand)

/-- Every path of what parameters ask for holds what it may, because no path holds anything at the
start. -/
theorem fits_ofParams (schema : Schema) (params : Params) : Fits schema (ofParams schema params) := by
  have start : Fits schema {} := by
    intro path condition held
    rw [at?_empty] at held
    cases held
  exact start.foldl_step params.operands

/-- No request puts anything into a filter but the listed shapes: under a combinator JSON that is
not an empty value, under any other path a literal or an object of known operators. And unless the
schema declares a name that begins with a dollar sign at its root, no path but the combinators
begins with one.

The first part is the invariant, read off the entries. For the second part, a path that is no
combinator is of a known kind, so it or a part of it in front of a dot is declared at the root;
either begins as the path does. -/
theorem filter_ofParams_wellShaped (schema : Schema) (params : Params) :
    (∀ path condition, (path, condition) ∈ (ofParams schema params).filter.entries →
      ((path = "$or" ∨ path = "$and") →
        ∃ value, condition = .json value ∧ value.isTruthy = true) ∧
      (¬(path = "$or" ∨ path = "$and") → FieldShape condition)) ∧
    ((∀ name declared, schema.path? name = some declared → name.toList.head? ≠ some '$') →
      ∀ path ∈ (ofParams schema params).filter.paths, path.toList.head? = some '$' →
        path = "$or" ∨ path = "$and") := by
  have entryFits : ∀ path condition, (path, condition) ∈ (ofParams schema params).filter.entries →
      EntryFits schema path condition := by
    intro path condition member
    exact fits_ofParams schema params path condition
      ((ofParams schema params).filter.ascending.lookup_eq_some_iff.mpr member)
  constructor
  · intro path condition member
    have fits := entryFits path condition member
    exact ⟨fits.truthy, fits.fieldShape⟩
  · intro noDollar path member dollar
    obtain ⟨⟨_, condition⟩, held, rfl⟩ := List.mem_map.mp member
    cases entryFits _ condition held with
    | combination combinator => exact combinator
    | field _ known =>
      obtain ⟨name, declared, found, begins⟩ :=
        Schema.declared_head_of_known known (by decide) dollar
      exact absurd begins (noDollar name declared found)

/-- An operator that nobody knows, a combinator and a path that looks like an operator. The first
counts as none, the second stays under its key, the third is no path. -/
theorem unknown_operators_are_kept_out :
    let schema := Schema.empty.declare "name" ⟨.string, none⟩
    let params : Params := ⟨[("name", .single "\x7b$where\x7djo"), ("$or", .single "[1]"),
      ("$where", .single "jo")], by decide⟩
    let partialMatch : Condition := .operators [("$options", .text "-i"), ("$regex", .text "jo")]
    ("name", partialMatch) ∈ (ofParams schema params).filter.entries ∧ FieldShape partialMatch ∧
      ("$or", .json (.arr [.int 1])) ∈ (ofParams schema params).filter.entries ∧
      (∃ value, Condition.json (.arr [.int 1]) = .json value ∧ value.isTruthy = true) ∧
      (∀ name declared, schema.path? name = some declared → name.toList.head? ≠ some '$') ∧
      "$where" ∉ (ofParams schema params).filter.paths := by
  intro schema params partialMatch
  have ordered := (ofParams schema params).filter.ascending
  have name : ("name", partialMatch) ∈ (ofParams schema params).filter.entries := by
    have held : (ofParams schema params).at? (.path "name") = some partialMatch := by
      rw [at?_ofParams]
      cbv
    exact ordered.lookup_eq_some_iff.mp held
  have combinator : ("$or", .json (.arr [.int 1])) ∈ (ofParams schema params).filter.entries := by
    have held : (ofParams schema params).at? (.path "$or") = some (.json (.arr [.int 1])) := by
      rw [at?_ofParams]
      cbv
    exact ordered.lookup_eq_some_iff.mp held
  have noDollar : ∀ name declared, schema.path? name = some declared →
      name.toList.head? ≠ some '$' := by
    intro name declared found
    have member : (name, declared) ∈ [("name", (⟨.string, none⟩ : Declaration Schema))] :=
      (Keyed.Ascending.lookup_eq_some_iff (List.pairwise_singleton _ _)).mp found
    obtain ⟨rfl, rfl⟩ := Prod.mk.inj (List.mem_singleton.mp member)
    decide
  have shaped := filter_ofParams_wellShaped schema params
  refine ⟨name, (shaped.1 _ _ name).2 (by decide), combinator,
    (shaped.1 _ _ combinator).1 (by decide), noDollar, ?_⟩
  intro member
  have isCombinator := shaped.2 noDollar "$where" member (by decide)
  exact absurd isCombinator (by decide)

end Request

end ParamFilter
