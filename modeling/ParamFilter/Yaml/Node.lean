import ParamFilter.Yaml.Token.Layout

/-!
# YAML documents

A document as a tree of scalars, lists and mappings, read from the tokens of a text. A text holds one
document. Aliases stay in the tree as numbers of anchors, so a node may hold an alias of itself.

An anchor gets the number of names in use before it, and gives that number to its name. So an anchor
whose name was in use already may share its number with others; of the nodes with one number, every alias
stands for the one that begins last.
-/

namespace ParamFilter.Yaml

/-- What the tags of the common types begin with. -/
def coreTag : Tag := Text.Utf8.encode "tag:yaml.org,2002:".toList

/-- A node of a document. -/
inductive Node where
  | scalar (text : String) (style : Style) (tag : Option Tag)
  | seq (items : List Node)
  | map (entries : List (Node × Node))
  /-- Stands for the anchored node of this number. -/
  | alias (number : Nat)

namespace Node

/-- The node where nothing is written. -/
def empty (tag : Option Tag) : Node := scalar "" .plain tag

mutual

/-- How many parts a node is written in: one for a scalar or an alias, and for a list or a mapping those of
    what is inside and two more. -/
def size : Node → Nat
  | .scalar _ _ _ | .alias _ => 1
  | .seq items => sizeItems items + 2
  | .map entries => sizeEntries entries + 2

/-- How many parts the items of a list are written in. -/
def sizeItems : List Node → Nat
  | [] => 0
  | item :: rest => size item + sizeItems rest

/-- How many parts the entries of a mapping are written in. -/
def sizeEntries : List (Node × Node) → Nat
  | [] => 0
  | (key, value) :: rest => size key + size value + sizeEntries rest

end

end Node

/-- The content of a text. -/
structure Document where
  root : Node
  /-- The anchored nodes by number, the last to begin first. -/
  anchored : List (Nat × Node)

namespace Document

/-- What is left to be read, and what has been learnt on the way. -/
structure Reader where
  tokens : List Token
  /-- The meanings of tag handles. -/
  handles : List (String × Tag)
  /-- The numbers of the names in use. -/
  names : List (String × Nat) := []
  /-- The numbers of the anchors that have begun, the last first. -/
  numbers : List Nat := []
  /-- The anchored nodes that have been read, by how many anchors began before them. -/
  anchored : List (Nat × Node) := []

/-- The handles that every document has. -/
def commonHandles : List (String × Tag) := [("!", Token.bareTag), ("!!", coreTag)]

namespace Reader

/-- Goes on with the given tokens. -/
def moveTo (reader : Reader) (tokens : List Token) : Reader := { reader with tokens }

/-- Takes an anchor, if there is one, and gives it its number. The result is how many anchors began before
    it. -/
def anchor (reader : Reader) : Option Nat × Reader :=
  match reader.tokens with
  | .anchor name :: rest =>
    let number := reader.names.length
    let others := reader.names.filter (·.1 ≠ name)
    (some reader.numbers.length,
      { reader with tokens := rest, names := (name, number) :: others, numbers := number :: reader.numbers })
  | _ => (none, reader)

/-- Takes a tag, if there is one. A handle without a meaning is a fault. -/
def tag? (reader : Reader) : Option (Option Tag × Reader) :=
  match reader.tokens with
  | .tag "" suffix :: rest => some (some suffix, reader.moveTo rest)
  | .tag handle suffix :: rest => do
    let meaning ← reader.handles.lookup handle
    return (some (meaning ++ suffix), reader.moveTo rest)
  | _ => some (none, reader)

/-- Takes an anchor and a tag in either order. -/
def properties? (reader : Reader) : Option (Option Nat × Option Tag × Reader) := do
  let (early, reader) := reader.anchor
  let (tag, reader) ← reader.tag?
  let (late, reader) := if early.isNone && tag.isSome then reader.anchor else (none, reader)
  return (early.or late, tag, reader)

mutual

/-- Reads a node. `inBlock` allows blocks, and `besideKey` allows a list that is not indented any further
    than the key in front of it. All of the readers count their depth and the tokens they take. -/
def node? : Nat → Bool → Bool → Reader → Option (Node × Reader)
  | 0, _, _, _ => none
  | limit + 1, inBlock, besideKey, reader =>
    match reader.tokens with
    | .alias name :: rest => do
      let number ← reader.names.lookup name
      return (.alias number, reader.moveTo rest)
    | _ => do
      let (anchor, tag, reader) ← reader.properties?
      let (node, reader) ← content? limit inBlock besideKey (anchor.isSome || tag.isSome) tag reader
      match anchor with
      | some before => some (node, { reader with anchored := (before, node) :: reader.anchored })
      | none => some (node, reader)

/-- Reads a node behind its anchor and tag. Only with one of them may the node be left out. -/
def content? : Nat → Bool → Bool → Bool → Option Tag → Reader → Option (Node × Reader)
  | 0, _, _, _, _, _ => none
  | limit + 1, inBlock, besideKey, mayBeEmpty, tag, reader =>
    let missing := if mayBeEmpty then some (.empty tag, reader) else none
    match reader.tokens with
    | .scalar text style :: rest => some (.scalar text style tag, reader.moveTo rest)
    | .flowSeq :: rest => do
      let (items, reader) ← flowItems? limit true (reader.moveTo rest)
      return (.seq items, reader)
    | .flowMap :: rest => do
      let (entries, reader) ← flowEntries? limit true (reader.moveTo rest)
      return (.map entries, reader)
    | .blockSeq :: rest =>
      if inBlock then do
        let (items, reader) ← blockItems? limit (reader.moveTo rest)
        return (.seq items, reader)
      else missing
    | .blockMap :: rest =>
      if inBlock then do
        let (entries, reader) ← blockEntries? limit (reader.moveTo rest)
        return (.map entries, reader)
      else missing
    | .entry :: _ =>
      if besideKey then do
        let (items, reader) ← keyItems? limit reader
        return (.seq items, reader)
      else missing
    | _ => missing

/-- Reads a node, or the empty one in front of certain tokens. -/
def nodeOrEmpty? : Nat → Bool → Bool → List Token → Reader → Option (Node × Reader)
  | 0, _, _, _, _ => none
  | limit + 1, inBlock, besideKey, ends, reader =>
    if reader.tokens.head?.any ends.contains then some (.empty none, reader)
    else node? limit inBlock besideKey reader

/-- Reads what follows a key: a colon and a node, or nothing. -/
def valueOrEmpty? : Nat → Bool → List Token → Reader → Option (Node × Reader)
  | 0, _, _, _ => none
  | limit + 1, inBlock, ends, reader =>
    match reader.tokens with
    | .value :: rest => nodeOrEmpty? limit inBlock inBlock ends (reader.moveTo rest)
    | _ => some (.empty none, reader)

/-- Reads the items of an indented list. -/
def blockItems? : Nat → Reader → Option (List Node × Reader)
  | 0, _ => none
  | limit + 1, reader =>
    match reader.tokens with
    | .entry :: rest => do
      let (item, reader) ← nodeOrEmpty? limit true false [.entry, .blockEnd] (reader.moveTo rest)
      let (items, reader) ← blockItems? limit reader
      return (item :: items, reader)
    | .blockEnd :: rest => some ([], reader.moveTo rest)
    | _ => none

/-- Reads the items of a list beside its key. The list has no end of its own. -/
def keyItems? : Nat → Reader → Option (List Node × Reader)
  | 0, _ => none
  | limit + 1, reader =>
    match reader.tokens with
    | .entry :: rest => do
      let ends := [.entry, .key, .value, .blockEnd]
      let (item, reader) ← nodeOrEmpty? limit true false ends (reader.moveTo rest)
      let (items, reader) ← keyItems? limit reader
      return (item :: items, reader)
    | _ => some ([], reader)

/-- Reads the entries of an indented mapping. -/
def blockEntries? : Nat → Reader → Option (List (Node × Node) × Reader)
  | 0, _ => none
  | limit + 1, reader =>
    match reader.tokens with
    | .key :: rest => do
      let ends := [.key, .value, .blockEnd]
      let (key, reader) ← nodeOrEmpty? limit true true ends (reader.moveTo rest)
      let (value, reader) ← valueOrEmpty? limit true ends reader
      let (entries, reader) ← blockEntries? limit reader
      return ((key, value) :: entries, reader)
    | .blockEnd :: rest => some ([], reader.moveTo rest)
    | _ => none

/-- Reads the items of a list in brackets, from an item or from the comma in front of it. A comma may
    stand behind the last item. An item may be a mapping of one entry. -/
def flowItems? : Nat → Bool → Reader → Option (List Node × Reader)
  | 0, _, _ => none
  | limit + 1, isFirst, reader =>
    let tokens := match reader.tokens with
      | .comma :: rest => if isFirst then none else some rest
      | .flowSeqEnd :: _ => some reader.tokens
      | _ => if isFirst then some reader.tokens else none
    match tokens with
    | none => none
    | some (.flowSeqEnd :: rest) => some ([], reader.moveTo rest)
    | some (.key :: rest) => do
      let (entry, reader) ← flowItemEntry? limit (reader.moveTo rest)
      let (items, reader) ← flowItems? limit false reader
      return (.map [entry] :: items, reader)
    | some tokens => do
      let (item, reader) ← node? limit false false (reader.moveTo tokens)
      let (items, reader) ← flowItems? limit false reader
      return (item :: items, reader)

/-- Reads the entry of a mapping that is an item in brackets. If the key is left out, the token in its
    place is passed over. -/
def flowItemEntry? : Nat → Reader → Option ((Node × Node) × Reader)
  | 0, _ => none
  | limit + 1, reader => do
    let ends := [.comma, .flowSeqEnd]
    let (key, reader) ←
      if reader.tokens.head?.any (Token.value :: ends).contains then
        some (.empty none, reader.moveTo (reader.tokens.drop 1))
      else node? limit false false reader
    let (value, reader) ← valueOrEmpty? limit false ends reader
    return ((key, value), reader)

/-- Reads the entries of a mapping in brackets, from an entry or from the comma in front of it. An entry
    may have no value. -/
def flowEntries? : Nat → Bool → Reader → Option (List (Node × Node) × Reader)
  | 0, _, _ => none
  | limit + 1, isFirst, reader =>
    let tokens := match reader.tokens with
      | .comma :: rest => if isFirst then none else some rest
      | .flowMapEnd :: _ => some reader.tokens
      | _ => if isFirst then some reader.tokens else none
    match tokens with
    | none => none
    | some (.flowMapEnd :: rest) => some ([], reader.moveTo rest)
    | some (.key :: rest) => do
      let ends := [.comma, .flowMapEnd]
      let (key, reader) ← nodeOrEmpty? limit false false (.value :: ends) (reader.moveTo rest)
      let (value, reader) ← valueOrEmpty? limit false ends reader
      let (entries, reader) ← flowEntries? limit false reader
      return ((key, value) :: entries, reader)
    | some tokens => do
      let (key, reader) ← node? limit false false (reader.moveTo tokens)
      let (entries, reader) ← flowEntries? limit false reader
      return ((key, .empty none) :: entries, reader)

end

/-- Takes the directives in front of a document: one version at most, and each handle once. -/
def directives? : Bool → List (String × Tag) → List Token →
    Option (List (String × Tag) × List Token)
  | hasVersion, handles, .version :: rest =>
    if hasVersion then none else directives? true handles rest
  | hasVersion, handles, .handle name meaning :: rest =>
    if (handles.lookup name).isSome then none
    else directives? hasVersion ((name, meaning) :: handles) rest
  | _, handles, rest => some (handles, rest)

/-- Reads the document up to its end. Behind the mark of its start it may be empty. -/
def root? (tokens : List Token) : Option (Node × Reader) :=
  let limit := 4 * tokens.length + 4
  match tokens with
  | [] => some (.empty none, { tokens := [], handles := [] })
  | .version :: _ | .handle _ _ :: _ | .documentStart :: _ => do
    let (handles, rest) ← directives? false [] tokens
    match rest with
    | .documentStart :: rest =>
      let reader : Reader := { tokens := rest, handles := handles ++ commonHandles }
      match rest with
      | [] | .version :: _ | .handle _ _ :: _ | .documentStart :: _ | .documentEnd :: _ =>
        some (.empty none, reader)
      | _ => node? limit true false reader
    | _ => none
  | _ => node? limit true false { tokens, handles := commonHandles }

/-- The anchored nodes by number, the last to begin first. -/
def nodes (reader : Reader) : List (Nat × Node) :=
  (reader.numbers.reverse.zipIdx.reverse).filterMap fun (number, before) =>
    (reader.anchored.lookup before).map (number, ·)

end Reader

/-- Builds the document from its tokens. Nothing but marks of its end may follow. -/
def ofTokens? (tokens : List Token) : Option Document := do
  let (root, reader) ← Reader.root? tokens
  if reader.tokens.all (· == .documentEnd) then some ⟨root, reader.nodes⟩ else none

/-- Reads a text as one document. -/
def ofText? (text : String) : Option Document := do ofTokens? (← Token.scan? text)

end Document

end ParamFilter.Yaml
