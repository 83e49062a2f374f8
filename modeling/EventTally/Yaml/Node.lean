import EventTally.Yaml.Token

/-! YAML documents as trees. An alias is kept as it stands and leads to a node of the same document;
a number stands for each name of an anchor, and the node that took a number last has it. -/

namespace EventTally.Yaml

inductive Node where
  | scalar (text : String) (style : Style) (tag : Option String)
  | seq (items : List Node)
  | map (entries : List (Node × Node))
  | alias (id : Nat)
  deriving Inhabited

/-- What stands where nothing is written. -/
def Node.missing : Node := .scalar "" .plain none

structure Tree where
  root : Node
  /-- The nodes that aliases lead to. -/
  anchored : List (Nat × Node)

structure Builder where
  tokens : List Token
  /-- The number of nodes begun so far. -/
  count : Nat := 0
  /-- The numbers of anchors, by their names. -/
  ids : List (String × Nat) := []
  /-- Which node has a number, the latest first. -/
  owners : List (Nat × Nat) := []
  /-- The anchored nodes, by the order in which they begin. -/
  nodes : List (Nat × Node) := []
  handles : List (String × String) := []

abbrev Build := StateT Builder Option

namespace Build

def peek? : Build (Option Token) := return (← get).tokens.head?

def drop : Build Unit := modify fun b => { b with tokens := b.tokens.tail }

/-- Takes the next token if it is the one asked for. -/
def takeIf (t : Token) : Build Bool := do
  if (← peek?) = some t then
    drop
    return true
  else return false

def nextIs (ts : List Token) : Build Bool := return (← peek?).any ts.contains

/-- Counts a node, and gives it the number of its anchor. -/
def enter (anchor : Option String) : Build Nat := do
  let b ← get
  match anchor with
  | none => set { b with count := b.count + 1 }
  | some name =>
    let id := b.ids.length
    set { b with
      count := b.count + 1
      ids := (name, id) :: b.ids.filter (·.1 != name)
      owners := (id, b.count) :: b.owners }
  return b.count

/-- Keeps a node for aliases, if it has an anchor. -/
def keep (anchor : Option String) (count : Nat) (n : Node) : Build Node := do
  if anchor.isSome then modify fun b => { b with nodes := (count, n) :: b.nodes }
  return n

def tag (handle suffix : String) : Build String := do
  if handle.isEmpty then return suffix
  match (← get).handles.lookup handle with
  | some start => return start ++ suffix
  | none => failure

structure Props where
  anchor : Option String := none
  tag : Option String := none

/-- An anchor and a tag, in either order. -/
def props : Build Props := do
  match ← peek? with
  | some (.anchor name) =>
    drop
    match ← peek? with
    | some (.tag handle suffix) =>
      drop
      return ⟨some name, some (← tag handle suffix)⟩
    | _ => return ⟨some name, none⟩
  | some (.tag handle suffix) =>
    drop
    match ← peek? with
    | some (.anchor name) =>
      drop
      return ⟨some name, some (← tag handle suffix)⟩
    | _ => return ⟨none, some (← tag handle suffix)⟩
  | _ => return {}

def missing : Build Node := do
  let _ ← enter none
  return .missing

mutual

/-- A node. In a mapping of a block, a sequence may stand at the indentation of the keys. -/
def node : Nat → Bool → Bool → Build Node
  | 0, _, _ => failure
  | fuel + 1, inBlock, level => do
    match ← peek? with
    | some (.alias name) =>
      drop
      let _ ← enter none
      match (← get).ids.lookup name with
      | some id => return .alias id
      | none => failure
    | _ =>
      let p ← props
      let next ← peek?
      let count ← enter p.anchor
      let found ← match next with
        | some .entry =>
          if level then pure (.seq (← levelItems fuel))
          else if p.anchor.isSome || p.tag.isSome then pure (.scalar "" .plain p.tag)
          else failure
        | some (.scalar text style) =>
          drop
          pure (.scalar text style (p.tag.filter (· != "!")))
        | some .flowSequenceOpen =>
          drop
          pure (.seq (← flowItems fuel true))
        | some .flowMappingOpen =>
          drop
          pure (.map (← flowEntries fuel true))
        | other =>
          if inBlock && other = some .sequenceOpen then
            drop
            pure (.seq (← items fuel))
          else if inBlock && other = some .mappingOpen then
            drop
            pure (.map (← entries fuel))
          else if p.anchor.isSome || p.tag.isSome then pure (.scalar "" .plain p.tag)
          else failure
      keep p.anchor count found

/-- The items of a sequence in a block. -/
def items : Nat → Build (List Node)
  | 0 => failure
  | fuel + 1 => do
    if ← takeIf .blockClose then return []
    if !(← takeIf .entry) then failure
    let item ← if ← nextIs [.entry, .blockClose] then missing else node fuel true false
    return item :: (← items fuel)

/-- The items of a sequence at the indentation of the keys around it. -/
def levelItems : Nat → Build (List Node)
  | 0 => failure
  | fuel + 1 => do
    if !(← takeIf .entry) then return []
    let item ← if ← nextIs [.entry, .key, .value, .blockClose] then missing else node fuel true false
    return item :: (← levelItems fuel)

/-- The entries of a mapping in a block. -/
def entries : Nat → Build (List (Node × Node))
  | 0 => failure
  | fuel + 1 => do
    let ends := [Token.key, .value, .blockClose]
    if ← takeIf .blockClose then return []
    if !(← takeIf .key) then failure
    let key ← if ← nextIs ends then missing else node fuel true true
    let value ←
      if ← takeIf .value then
        if ← nextIs ends then missing else node fuel true true
      else missing
    return (key, value) :: (← entries fuel)

/-- The items of a sequence in brackets. An item may be a mapping of one entry without its
braces. -/
def flowItems : Nat → Bool → Build (List Node)
  | 0, _ => failure
  | fuel + 1, first => do
    if ← takeIf .flowSequenceClose then return []
    if !first then
      if !(← takeIf .flowEntry) then failure
    if ← takeIf .flowSequenceClose then return []
    let item ←
      if ← takeIf .key then
        let _ ← enter none
        pure (.map [← flowPair fuel])
      else node fuel false false
    return item :: (← flowItems fuel false)

/-- A single entry in a sequence in brackets. The token behind a key that is missing is passed
over. -/
def flowPair : Nat → Build (Node × Node)
  | 0 => failure
  | fuel + 1 => do
    let key ←
      if ← nextIs [.value, .flowEntry, .flowSequenceClose] then
        drop
        missing
      else node fuel false false
    let value ←
      if ← takeIf .value then
        if ← nextIs [.flowEntry, .flowSequenceClose] then missing else node fuel false false
      else missing
    return (key, value)

/-- The entries of a mapping in braces. -/
def flowEntries : Nat → Bool → Build (List (Node × Node))
  | 0, _ => failure
  | fuel + 1, first => do
    let ends := [Token.flowEntry, .flowMappingClose]
    if ← takeIf .flowMappingClose then return []
    if !first then
      if !(← takeIf .flowEntry) then failure
    if ← takeIf .flowMappingClose then return []
    let entry ←
      if ← takeIf .key then
        let key ← if ← nextIs (.value :: ends) then missing else node fuel false false
        let value ←
          if ← takeIf .value then
            if ← nextIs ends then missing else node fuel false false
          else missing
        pure (key, value)
      else
        let key ← node fuel false false
        pure (key, ← missing)
    return entry :: (← flowEntries fuel false)

end

/-- Directives before a document. A version may be given once, and each handle once. -/
def directives : Nat → Bool → Build Unit
  | 0, _ => failure
  | fuel + 1, versioned => do
    match ← peek? with
    | some (.version major minor) =>
      if versioned || major != 1 || (minor != 1 && minor != 2) then failure
      drop
      directives fuel true
    | some (.tagDirective handle start) =>
      let b ← get
      if (b.handles.lookup handle).isSome then failure
      set { b with handles := (handle, start) :: b.handles }
      drop
      directives fuel versioned
    | _ => pure ()

def usualHandles : List (String × String) := [("!", "!"), ("!!", "tag:yaml.org,2002:")]

def isDirective : Token → Bool
  | .version .. | .tagDirective .. => true
  | _ => false

/-- The root of the first document; a text without one has a root that is missing. Nothing may
follow the document but its end marks. -/
def document (fuel : Nat) : Build Node := do
  match ← peek? with
  | none => return .missing
  | some t =>
    let root ←
      if isDirective t || t = .documentStart then
        directives fuel false
        if !(← takeIf .documentStart) then failure
        modify fun b => { b with handles := b.handles ++ usualHandles }
        let ended ← match ← peek? with
          | none => pure true
          | some t => pure (isDirective t || t = .documentStart || t = .documentStop)
        if ended then missing else node fuel true false
      else
        modify fun b => { b with handles := usualHandles }
        node fuel true false
    modify fun b => { b with tokens := b.tokens.dropWhile (· = .documentStop) }
    if (← peek?).isSome then failure
    return root

end Build

/-- The only document of a text. -/
def Tree.read? (text : String) : Option Tree := do
  let tokens ← tokens? text.toList
  let (root, b) ← (Build.document (3 * tokens.length + 3)).run { tokens }
  return ⟨root, b.owners.filterMap fun (id, count) => (b.nodes.lookup count).map (id, ·)⟩

end EventTally.Yaml
