import ConfigReader.Format.Yaml.Tag
import ConfigReader.Format.Yaml.Token

/-!
# YAML nodes

The nodes of a YAML document.  A node has a tag, and is a scalar, a sequence or a
mapping.  The parts of a node are given by their places among all nodes.
`Graph.ofTokens?` reads the nodes from tokens, which are either the whole of one
document or nothing.

A node may have a name, and an alias with that name stands for the same node.  A
name is given once.  It can be used within its own node, which is then part of
itself.  Where a node may be left out a null stands in its place.
-/

namespace ConfigReader.Yaml

/-- What a node is. -/
inductive Content where
  /-- A scalar. -/
  | scalar (text : Text)
  /-- A sequence of nodes. -/
  | sequence (items : List Nat)
  /-- A mapping from nodes to nodes. -/
  | mapping (pairs : List (Nat × Nat))

/-- A node. -/
structure Node where
  /-- The tag. -/
  tag : Text
  /-- What the node is. -/
  content : Content

/-- The node in a place that is left empty. -/
def Node.absent : Node := ⟨coreTag "null", .scalar []⟩

instance : Inhabited Node := ⟨.absent⟩

/-- The nodes of a document. -/
abbrev Graph := Array Node

namespace Graph

/-- The node at a place. -/
def node (g : Graph) (place : Nat) : Node := g[place]?.getD .absent

/-- The pairs of the node at a place.  There are none if it is not a mapping. -/
def pairs (g : Graph) (place : Nat) : List (Nat × Nat) :=
  match (g.node place).content with
  | .mapping pairs => pairs
  | _ => []

end Graph

/-! ## The reader -/

/-- What is left to read, and what the document has named so far. -/
structure Reading where
  /-- The tokens. -/
  tokens : List Token
  /-- The fault behind the tokens. -/
  fault : Option FormatFault
  /-- The handles of tags. -/
  handles : Handles
  /-- The places of the named nodes. -/
  named : List (Text × Nat)
  /-- The nodes. -/
  nodes : Graph
  /-- How many more nodes may stand within each other. -/
  room : Nat

/-- A step of reading. -/
abbrev Reader := StateT Reading Parsed

namespace Reader

/-- The tokens are no document. -/
def refuse {α : Type} : Reader α := fun _ => malformed

/-- The next token.  A fault stands in the way of what comes behind the tokens. -/
def peek : Reader (Option Token) := fun r =>
  match r.tokens, r.fault with
  | [], some fault => .error fault
  | tokens, _ => .ok (tokens.head?, r)

/-- Drops the next token. -/
def skip : Reader Unit := modify fun r => { r with tokens := r.tokens.drop 1 }

/-- Drops the next token if it is a given one, and says whether it was. -/
def accept (token : Token) : Reader Bool := do
  if (← peek) = some token then
    skip
    return true
  else return false

/-- Drops the next token, which must be a given one. -/
def expect (token : Token) : Reader Unit := do
  if !(← accept token) then refuse

/-- A place for a node. -/
def place (n : Node) : Reader Nat :=
  modifyGet fun r => (r.nodes.size, { r with nodes := r.nodes.push n })

/-- Puts a node in a place. -/
def put (at_ : Nat) (n : Node) : Reader Unit :=
  modify fun r => { r with nodes := r.nodes.setIfInBounds at_ n }

/-- A node, or the absent one if one of some tokens is next. -/
def nodeBefore (ends : List Token) (node : Reader Nat) : Reader Nat := do
  match ← peek with
  | some token => if ends.contains token then place .absent else node
  | none => node

/-- A part of a node.  It needs room. -/
def within {α : Type} (part : Reader α) : Reader α := do
  if (← get).room = 0 then fun _ => tooDeep []
  else
    modify fun r => { r with room := r.room - 1 }
    let a ← part
    modify fun r => { r with room := r.room + 1 }
    return a

/-! ## Names and tags -/

/-- The node with a name. -/
def mentioned (name : Text) : Reader Nat := do
  match (← get).named.lookup name with
  | some place => return place
  | none => refuse

/-- Gives the node at a place its name. -/
def give (name : Option Text) (place : Nat) : Reader Unit := do
  match name with
  | none => return ()
  | some name =>
      if ((← get).named.lookup name).isSome then refuse
      else modify fun r => { r with named := (name, place) :: r.named }

/-- The name in front of a node. -/
def anchor? : Reader (Option Text) := do
  match ← peek with
  | some (.anchor name) =>
      skip
      return some name
  | _ => return none

/-- The tag in front of a node. -/
def tag? : Reader (Option Text) := do
  match ← peek with
  | some (.tag handle suffix) =>
      skip
      match (← get).handles.tag? handle suffix with
      | some tag => return some tag
      | none => refuse
  | _ => return none

/-- The name and the tag in front of a node, in either order. -/
def properties : Reader (Option Text × Option Text) := do
  match ← anchor? with
  | some name => return (some name, ← tag?)
  | none =>
      let tag ← tag?
      return (← anchor?, tag)

/-! ## Nodes -/

/-- Where a node stands. -/
inductive Position where
  /-- In a flow collection. -/
  | flow
  /-- In a block collection. -/
  | block
  /-- In a block mapping, where the items of a sequence need no indentation. -/
  | member
deriving DecidableEq

mutual

/-- A node.  The fuel bounds the number of steps and is never used up by a reader
that starts with enough for its tokens. -/
def node (position : Position) : (fuel : Nat) → Reader Nat
  | 0 => refuse
  | fuel + 1 => do
      match ← peek with
      | some (.mention name) =>
          skip
          mentioned name
      | _ =>
          let (name, tag) ← properties
          let here ← place .absent
          give name here
          put here (← within (content position (name.isSome || tag.isSome) tag fuel))
          return here

/-- A node behind its name and its tag, which may be all there is. -/
def content (position : Position) (marked : Bool) (given : Option Text) : (fuel : Nat) → Reader Node
  | 0 => refuse
  | fuel + 1 => do
      match ← peek with
      | some (.scalar plain t) =>
          skip
          return ⟨scalarTag given plain t, .scalar t⟩
      | some .flowSequence =>
          skip
          return ⟨collectionTag given "seq", .sequence (← flowItems true fuel)⟩
      | some .flowMapping =>
          skip
          return ⟨collectionTag given "map", .mapping (← flowPairs true fuel)⟩
      | next =>
          if next = some .blockSequence && position ≠ .flow then
            skip
            return ⟨collectionTag given "seq", .sequence (← blockItems fuel)⟩
          else if next = some .blockMapping && position ≠ .flow then
            skip
            return ⟨collectionTag given "map", .mapping (← blockPairs fuel)⟩
          else if next = some .entry && position = .member then
            return ⟨collectionTag given "seq", .sequence (← looseItems fuel)⟩
          else if marked then return ⟨scalarTag given true [], .scalar []⟩
          else refuse

/-- The items of a block sequence. -/
def blockItems : (fuel : Nat) → Reader (List Nat)
  | 0 => refuse
  | fuel + 1 => do
      if ← accept .entry then
        let item ← nodeBefore [.entry, .blockEnd] (node .block fuel)
        return item :: (← blockItems fuel)
      else
        expect .blockEnd
        return []

/-- The items of a sequence without indentation of its own. -/
def looseItems : (fuel : Nat) → Reader (List Nat)
  | 0 => refuse
  | fuel + 1 => do
      if ← accept .entry then
        let item ← nodeBefore [.entry, .key, .value, .blockEnd] (node .block fuel)
        return item :: (← looseItems fuel)
      else return []

/-- The pairs of a block mapping. -/
def blockPairs : (fuel : Nat) → Reader (List (Nat × Nat))
  | 0 => refuse
  | fuel + 1 => do
      if ← accept .key then
        let ends : List Token := [.key, .value, .blockEnd]
        let key ← nodeBefore ends (node .member fuel)
        let value ←
          if ← accept .value then nodeBefore ends (node .member fuel) else place .absent
        return (key, value) :: (← blockPairs fuel)
      else if ← accept .value then refuse
      else
        expect .blockEnd
        return []

/-- The value of a pair in a flow collection, which ends with a given token. -/
def flowValue (ending : Token) : (fuel : Nat) → Reader Nat
  | 0 => refuse
  | fuel + 1 => do
      if ← accept .value then nodeBefore [.flowEntry, ending] (node .flow fuel)
      else place .absent

/-- The items of a flow sequence.  A pair among them is a mapping of its own. -/
def flowItems (first : Bool) : (fuel : Nat) → Reader (List Nat)
  | 0 => refuse
  | fuel + 1 => do
      if ← accept .flowSequenceEnd then return []
      else
        if !first then expect .flowEntry
        if ← accept .flowSequenceEnd then return []
        else if ← accept .key then
          let key ← nodeBefore [.value, .flowEntry, .flowSequenceEnd] (node .flow fuel)
          let value ← flowValue .flowSequenceEnd fuel
          let pair ← place ⟨coreTag "map", .mapping [(key, value)]⟩
          return pair :: (← flowItems false fuel)
        else
          let item ← node .flow fuel
          return item :: (← flowItems false fuel)

/-- The pairs of a flow mapping. -/
def flowPairs (first : Bool) : (fuel : Nat) → Reader (List (Nat × Nat))
  | 0 => refuse
  | fuel + 1 => do
      if ← accept .flowMappingEnd then return []
      else
        if !first then expect .flowEntry
        if ← accept .flowMappingEnd then return []
        else if ← accept .key then
          let key ← nodeBefore [.value, .flowEntry, .flowMappingEnd] (node .flow fuel)
          let value ← flowValue .flowMappingEnd fuel
          return (key, value) :: (← flowPairs false fuel)
        else
          let key ← node .flow fuel
          let value ← place .absent
          return (key, value) :: (← flowPairs false fuel)

end

end Reader

/-! ## Documents -/

/-- The handles that the directives at the start declare, with those that need no
declaration, and the tokens behind them. -/
def declarations : (versioned : Bool) → Handles → List Token → Parsed (Handles × List Token)
  | versioned, handles, .directive d :: rest => match d with
      | .version major =>
          if versioned || major ≠ 1 then malformed else declarations true handles rest
      | .handle name lead =>
          if (handles.lookup name).isSome then malformed
          else declarations versioned ((name, lead) :: handles) rest
      | .other => declarations versioned handles rest
  | _, handles, rest => .ok (handles ++ Handles.initial, rest)

/-- What comes of tokens without a fault behind them. -/
def Tokens.whole {α : Type} (tokens : Tokens) (a : α) : Parsed α :=
  match tokens.fault with
  | some fault => .error fault
  | none => .ok a

/-- The tokens that a document cannot begin with. -/
def Token.separates : Token → Bool
  | .directive _ => true
  | .documentStart => true
  | .documentEnd => true
  | _ => false

/-- How many nodes may stand within each other. -/
def maxDepth : Nat := 489

/-- The nodes that tokens start with, nothing behind them but the end of the document,
and the place of the outermost one. -/
def graphOf (handles : Handles) (tokens : Tokens) : Parsed (Graph × Nat) := do
  let fuel := 4 * tokens.list.length + 4
  let (root, left) ← Reader.node .block fuel ⟨tokens.list, tokens.fault, handles, [], #[], maxDepth⟩
  if left.tokens.all (· = .documentEnd) then tokens.whole (left.nodes, root) else malformed

/-- The nodes of the only document and the place of the outermost one, or nothing if
there is none. -/
def Graph.ofTokens? (tokens : Tokens) : Parsed (Option (Graph × Nat)) := do
  let opens : Token → Bool
    | .directive _ => true
    | .documentStart => true
    | _ => false
  if tokens.list.isEmpty then tokens.whole none
  else if !(tokens.list.head?.any opens) then return some (← graphOf Handles.initial tokens)
  else
    match ← declarations false [] tokens.list with
    | (handles, .documentStart :: rest) =>
        if rest.head?.any (!·.separates) then
          return some (← graphOf handles { tokens with list := rest })
        else if rest.all (· = .documentEnd) then tokens.whole (some (#[.absent], 0))
        else malformed
    | (_, []) => tokens.whole () >>= fun _ => malformed
    | _ => malformed

end ConfigReader.Yaml
