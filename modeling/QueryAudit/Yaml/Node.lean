import QueryAudit.Yaml.Implicit

/-!
# Nodes

The nodes of a YAML text form a graph: a reference is another way to the node that it names, and it
may lead from a part of a list or mapping back to the whole. So the nodes stand in a table, and a
node names its parts by their places in it.
-/

namespace QueryAudit.Yaml

/-- What is written at a node. Parts are named by their places. -/
inductive Content where
  /-- A text that stands for a value. -/
  | scalar (text : String)
  /-- A list. -/
  | sequence (items : List Nat)
  /-- A mapping, as keys and values. -/
  | mapping (entries : List (Nat × Nat))
  deriving DecidableEq

/-- A node. -/
structure Node where
  /-- The tag, which tells the type. -/
  tag : String
  /-- What is written. -/
  content : Content
  deriving DecidableEq

/-- The node that stands where nothing is written. -/
def Node.empty : Node :=
  ⟨nullTag, .scalar ""⟩

/-- A table of nodes. -/
abbrev Graph := Array Node

namespace Graph

/-- The node at a place. -/
def node (graph : Graph) (place : Nat) : Node :=
  graph.getD place .empty

/-- The tag of the node at a place. -/
def tag (graph : Graph) (place : Nat) : String :=
  (graph.node place).tag

/-- The entries of the mapping at a place; other nodes have none. -/
def entries (graph : Graph) (place : Nat) : List (Nat × Nat) :=
  match (graph.node place).content with
  | .mapping entries => entries
  | _ => []

/-- The table with another node at a place. -/
def put (graph : Graph) (place : Nat) (node : Node) : Graph :=
  graph.setIfInBounds place node

/-- The table with other entries for the mapping at a place. -/
def putEntries (graph : Graph) (place : Nat) (entries : List (Nat × Nat)) : Graph :=
  graph.put place ⟨graph.tag place, .mapping entries⟩

end Graph

end QueryAudit.Yaml
