import QueryAudit.Entries
import QueryAudit.Yaml.Node.Merge
import QueryAudit.Yaml.Scalar

/-!
# The values of nodes

Scalars are read by their tags. Lists, sets and objects are first met and later filled, level by
level from the root, each one once: so a node with many references is read once, a fault in an outer
level is reported before any fault further in, and a part may hold the whole.
-/

namespace QueryAudit.Yaml

/-- The tag of sets. -/
def setTag : String := coreTag "set"

/-- The tags of lists of pairs. -/
def pairTags : List String :=
  [coreTag "omap", coreTag "pairs"]

/-- The tags of what is no scalar. -/
def collectionTags : List String :=
  [sequenceTag, mappingTag, setTag] ++ pairTags

/-- The value of a node. -/
inductive Piece where
  /-- A value without parts. -/
  | scalar (value : Scalar)
  /-- The list, set or object at a place. -/
  | part (place : Nat)

/-- What a list, set or object holds. -/
inductive Holding where
  /-- The items of a list. -/
  | list (items : List Piece)
  /-- The pairs of a list of pairs. -/
  | pairs (pairs : List (Piece × Piece))
  /-- The items of a set. -/
  | set (items : List Scalar)
  /-- The entries of an object. -/
  | object (entries : Entries Scalar Piece)

/-- The state of reading values. -/
structure Reading where
  /-- The nodes; mappings that have been read have the entries that they merge. -/
  graph : Graph
  /-- What the lists, sets and objects that have been met hold, by place. -/
  holdings : Array (Option Holding)
  /-- Those that wait for their parts, the last one first. -/
  waiting : List Nat

/-- A step of reading values. -/
abbrev Read := StateT Reading (Except Fault)

namespace Read

/-- The text of a node that stands for a scalar: its own, or that of the value under the key `=`. -/
def scalarText (graph : Graph) : Nat → Nat → Except Fault String
  | 0, _ => .error .construction
  | fuel + 1, place =>
    match (graph.node place).content with
    | .scalar text => .ok text
    | .sequence _ => .error .construction
    | .mapping entries =>
      match entries.find? fun entry => graph.tag entry.1 = valueTag with
      | some entry => scalarText graph fuel entry.2
      | none => .error .construction

/-- Read a node with the tag of a scalar type. A timestamp has to be written as a scalar. What is
not a number is marked by its place. -/
def scalar (place : Nat) : Read Scalar := do
  let graph := (← get).graph
  let node := graph.node place
  let text ← scalarText graph (graph.size + 1) place
  match node.content with
  | .scalar _ => readScalar node.tag text (place + 1)
  | _ =>
    if node.tag = timestampTag then throw .timestampMapping
    readScalar node.tag text (place + 1)

/-- The value of the node at a place. A list, set or object that is met for the first time waits for
its parts. -/
def piece (place : Nat) : Read Piece := do
  let reading ← get
  if collectionTags.contains (reading.graph.tag place) then
    if (reading.holdings.getD place none).isNone then
      set { reading with
        holdings := reading.holdings.setIfInBounds place (some (.list []))
        waiting := place :: reading.waiting }
    return .part place
  else return .scalar (← scalar place)

/-- Read a key. Lists, sets and objects cannot be keys. -/
def key (place : Nat) : Read Scalar := do
  match ← piece place with
  | .scalar value => return value
  | .part _ => throw .construction

/-- The two values of a mapping with one entry. -/
def pair (place : Nat) : Read (Piece × Piece) := do
  match ((← get).graph.node place).content with
  | .mapping [(first, second)] =>
    let first ← piece first
    return (first, ← piece second)
  | _ => throw .construction

/-- The entries of a mapping, with those that it merges; of equal keys the last value counts. -/
def entries (mergeFuel place : Nat) : Read (Entries Scalar Piece) := do
  match ((← get).graph.node place).content with
  | .mapping _ =>
    let reading ← get
    let (_, graph) ← (Merge.complete mergeFuel place).run reading.graph
    set { reading with graph }
    let read ← (graph.entries place).mapM fun (k, value) => do
      let k ← key k
      return (k, ← piece value)
    return Entries.ofList read
  | _ => throw .construction

/-- What the list, set or object at a place holds. -/
def holding (mergeFuel place : Nat) : Read Holding := do
  let node := (← get).graph.node place
  if node.tag = mappingTag then return .object (← entries mergeFuel place)
  else if node.tag = setTag then return .set (← entries mergeFuel place).keys
  else
    match node.content with
    | .sequence items =>
      if node.tag = sequenceTag then return .list (← items.mapM piece)
      else return .pairs (← items.mapM pair)
    | _ => throw .construction

/-- Fill what waits, and go on with the next level. -/
def levels (mergeFuel : Nat) : Nat → Read Unit
  | 0 => return
  | fuel + 1 => do
    let level := (← get).waiting.reverse
    if level.isEmpty then return
    modify fun reading => { reading with waiting := [] }
    for place in level do
      let held ← holding mergeFuel place
      modify fun reading =>
        { reading with holdings := reading.holdings.setIfInBounds place (some held) }
    levels mergeFuel fuel

/-- The value of the node at a place, and what all lists, sets and objects in it hold. -/
def all (graph : Graph) (root : Nat) : Except Fault (Piece × Array (Option Holding)) := do
  let start : Reading := ⟨graph, Array.replicate graph.size none, []⟩
  let (value, reading) ← StateT.run (s := start) do
    let value ← piece root
    levels (Merge.fuel graph) (graph.size + 1)
    return value
  return (value, reading.holdings)

end Read

end QueryAudit.Yaml
