import QueryAudit.Yaml.Node
import QueryAudit.Yaml.Token.Lexer

/-!
# The grammar of YAML

Reading the tokens of a text as one document. Every node has a place in the table of nodes from its
start on, and the name that an anchor gives to it is known at once, so a part may refer to the
whole. All loops take fuel, and every round of a loop takes a token.
-/

namespace QueryAudit.Yaml

/-- The state between two tokens of the grammar. -/
structure ParseState where
  /-- The tokens to come. -/
  tokens : List Token
  /-- The fault that ends the tokens. -/
  ending : Fault
  /-- The places of the nodes with anchors, the last one first. -/
  anchors : List (String × Nat)
  /-- The starts of tags by their handles. -/
  handles : List (String × String)
  /-- The nodes so far. -/
  graph : Graph

/-- A step of the grammar. -/
abbrev Parse := StateT ParseState (Except Fault)

namespace Parse

/-- The handles that are known without a directive. -/
def defaultHandles : List (String × String) :=
  [("!", "!"), ("!!", coreTag "")]

/-- The next token. -/
def peek : Parse Token := do
  let state ← get
  match state.tokens with
  | token :: _ => return token
  | [] => throw state.ending

/-- Take the next token. -/
def advance : Parse Unit :=
  modify fun state => { state with tokens := state.tokens.drop 1 }

/-- Give a new node its place, and the name of its anchor, which must be new. -/
def start (name : Option String) : Parse Nat := do
  let state ← get
  let place := state.graph.size
  let anchors ←
    match name with
    | none => pure state.anchors
    | some name =>
      if (state.anchors.lookup name).isSome then throw .reference
      pure ((name, place) :: state.anchors)
  set { state with anchors, graph := state.graph.push .empty }
  return place

/-- Write a node at its place. -/
def write (place : Nat) (tag : String) (content : Content) : Parse Nat := do
  modify fun state => { state with graph := state.graph.put place ⟨tag, content⟩ }
  return place

/-- A node where nothing is written. -/
def nothing : Parse Nat :=
  start none

/-- The place of the node with the given name. -/
def named (name : String) : Parse Nat := do
  match (← get).anchors.lookup name with
  | some place => return place
  | none => throw .reference

/-- The tag that a handle and a suffix stand for. -/
def fullTag (handle : Option String) (suffix : String) : Parse String := do
  match handle with
  | none => return suffix
  | some handle =>
    match (← get).handles.lookup handle with
    | some start => return start ++ suffix
    | none => throw .grammar

/-- The anchor and the tag before a node, in either order. -/
def properties : Parse (Option String × Option String) := do
  match ← peek with
  | .anchor name =>
    advance
    match ← peek with
    | .tag handle suffix =>
      advance
      return (some name, some (← fullTag handle suffix))
    | _ => return (some name, none)
  | .tag handle suffix =>
    advance
    match ← peek with
    | .anchor name =>
      advance
      return (some name, some (← fullTag handle suffix))
    | _ => return (none, some (← fullTag handle suffix))
  | _ => return (none, none)

/-- The tag of a scalar: what is written, or what the form of the text tells. The tag `!` stands for
the latter. -/
def scalarTag (tag : Option String) (text : String) (plain : Bool) : String :=
  match tag with
  | none => if plain then plainTag text else textTag
  | some "!" => plainTag text
  | some tag => tag

/-- The tag of a list or mapping. -/
def collectionTag (tag : Option String) (default : String) : String :=
  match tag with
  | none => default
  | some "!" => default
  | some tag => tag

/-- Whether a token starts no node in a block. -/
def endsBlockNode : Token → Bool
  | .key => true
  | .value => true
  | .blockEnd => true
  | _ => false

/-- Take a token that has to come now. -/
def expect (token : Token) : Parse Unit := do
  if (← peek) = token then advance else throw .grammar

mutual

/-- A node. Indented lists and mappings may only stand in a block, and a list without indentation
only inside a mapping. -/
def node (inBlock unindented : Bool) : Nat → Parse Nat
  | 0 => throw .grammar
  | fuel + 1 => do
    match ← peek with
    | .alias name =>
      advance
      named name
    | _ =>
      let (name, tag) ← properties
      match ← peek with
      | .scalar text plain =>
        let place ← start name
        advance
        write place (scalarTag tag text plain) (.scalar text)
      | .openSequence =>
        let place ← start name
        advance
        write place (collectionTag tag sequenceTag) (.sequence (← flowItems true fuel))
      | .openMapping =>
        let place ← start name
        advance
        write place (collectionTag tag mappingTag) (.mapping (← flowEntries true fuel))
      | token =>
        if unindented && token = .item then
          let place ← start name
          write place (collectionTag tag sequenceTag) (.sequence (← unindentedItems fuel))
        else if inBlock && token = .blockSequence then
          let place ← start name
          advance
          write place (collectionTag tag sequenceTag) (.sequence (← blockItems fuel))
        else if inBlock && token = .blockMapping then
          let place ← start name
          advance
          write place (collectionTag tag mappingTag) (.mapping (← blockEntries fuel))
        else if name.isSome || tag.isSome then
          let place ← start name
          write place (scalarTag tag "" true) (.scalar "")
        else throw .grammar

/-- The items of an indented list. -/
def blockItems : Nat → Parse (List Nat)
  | 0 => throw .grammar
  | fuel + 1 => do
    match ← peek with
    | .item =>
      advance
      let next ← peek
      let item ← if next = .item ∨ next = .blockEnd then nothing else node true false fuel
      return item :: (← blockItems fuel)
    | .blockEnd =>
      advance
      return []
    | _ => throw .grammar

/-- The items of a list without indentation. -/
def unindentedItems : Nat → Parse (List Nat)
  | 0 => throw .grammar
  | fuel + 1 => do
    match ← peek with
    | .item =>
      advance
      let next ← peek
      let item ←
        if next = .item ∨ endsBlockNode next then nothing else node true false fuel
      return item :: (← unindentedItems fuel)
    | _ => return []

/-- The entries of an indented mapping. -/
def blockEntries : Nat → Parse (List (Nat × Nat))
  | 0 => throw .grammar
  | fuel + 1 => do
    match ← peek with
    | .key =>
      advance
      let key ← if endsBlockNode (← peek) then nothing else node true true fuel
      let value ←
        match ← peek with
        | .value =>
          advance
          if endsBlockNode (← peek) then nothing else node true true fuel
        | _ => nothing
      return (key, value) :: (← blockEntries fuel)
    | .blockEnd =>
      advance
      return []
    | _ => throw .grammar

/-- The items of a list between brackets. An item with a key mark is a mapping with one entry. -/
def flowItems (first : Bool) : Nat → Parse (List Nat)
  | 0 => throw .grammar
  | fuel + 1 => do
    if (← peek) = .closeSequence then
      advance
      return []
    unless first do
      expect .comma
    match ← peek with
    | .closeSequence =>
      advance
      return []
    | .key =>
      advance
      let ends := fun (token : Token) => decide (token = .comma ∨ token = .closeSequence)
      let next ← peek
      let key ← if next = .value ∨ ends next then nothing else node false false fuel
      let value ←
        match ← peek with
        | .value =>
          advance
          if ends (← peek) then nothing else node false false fuel
        | _ => nothing
      let entry ← start none
      let item ← write entry mappingTag (.mapping [(key, value)])
      return item :: (← flowItems false fuel)
    | _ =>
      let item ← node false false fuel
      return item :: (← flowItems false fuel)

/-- The entries of a mapping between braces. A node without a key mark is a key without a value. -/
def flowEntries (first : Bool) : Nat → Parse (List (Nat × Nat))
  | 0 => throw .grammar
  | fuel + 1 => do
    if (← peek) = .closeMapping then
      advance
      return []
    unless first do
      expect .comma
    match ← peek with
    | .closeMapping =>
      advance
      return []
    | .key =>
      advance
      let ends := fun (token : Token) => decide (token = .comma ∨ token = .closeMapping)
      let next ← peek
      let key ← if next = .value ∨ ends next then nothing else node false false fuel
      let value ←
        match ← peek with
        | .value =>
          advance
          if ends (← peek) then nothing else node false false fuel
        | _ => nothing
      return (key, value) :: (← flowEntries false fuel)
    | _ =>
      let key ← node false false fuel
      return (key, ← nothing) :: (← flowEntries false fuel)

end

/-- Skip the markers of document ends. -/
def skipDocumentEnds : Nat → Parse Unit
  | 0 => return
  | fuel + 1 => do
    if (← peek) = .documentEnd then
      advance
      skipDocumentEnds fuel

/-- Read directives. A second version, a version other than 1, and a handle that is declared twice
are refused. -/
def directives (versioned : Bool) (handles : List (String × String)) : Nat → Parse Unit
  | 0 => return
  | fuel + 1 => do
    match ← peek with
    | .directive (.version major) =>
      advance
      if versioned || major != 1 then throw .grammar
      directives true handles fuel
    | .directive (.handle handle start) =>
      advance
      if (handles.lookup handle).isSome then throw .grammar
      directives versioned (handles ++ [(handle, start)]) fuel
    | .directive .other =>
      advance
      directives versioned handles fuel
    | _ => modify fun state => { state with handles := handles ++ defaultHandles }

/-- Whether another document follows; its start is read. -/
def documentFollows (fuel : Nat) : Parse Bool := do
  skipDocumentEnds fuel
  if (← peek) = .streamEnd then return false
  directives false [] fuel
  expect .documentStart
  return true

/-- Whether a token leaves a document without content. -/
def endsDocument : Token → Bool
  | .directive _ => true
  | .documentStart => true
  | .documentEnd => true
  | .streamEnd => true
  | _ => false

/-- The only document of a text; none when the text is empty. -/
def document (fuel : Nat) : Parse (Option Nat) := do
  let first ← peek
  let bare := !(endsDocument first && first != .documentEnd)
  let started ← if bare then pure true else documentFollows fuel
  if !started then return none
  let root ←
    if !bare && endsDocument (← peek) then nothing else node true false fuel
  if (← peek) = .documentEnd then advance
  if ← documentFollows fuel then throw .reference
  return some root

end Parse

/-- The nodes of a text and the place of its root; none when the text is empty. -/
def parse (text : List Char) : Except Fault (Option (Graph × Nat)) := do
  let (tokens, fault) := tokens text
  let state : ParseState := ⟨tokens, fault.getD .token, [], Parse.defaultHandles, #[]⟩
  let (root, state) ← (Parse.document (3 * tokens.length + 8)).run state
  return root.map fun place => (state.graph, place)

end QueryAudit.Yaml
