import QueryAudit.Yaml.Cursor
import QueryAudit.Yaml.Node

/-!
# Merging mappings

A mapping may have keys that merge other mappings into it: their entries come before its own ones,
so that its own ones win. Merged mappings are given their entries first and stay so. A mapping may
be merged into a part of itself, and even into itself; every merging key is taken away before what
it names is looked at, so there is an end.
-/

namespace QueryAudit.Yaml

/-- A step that changes the table of nodes. -/
abbrev Merge := StateT Graph (Except Fault)

namespace Merge

/-- The value of the first merging key, and the entries without it. -/
def firstMerge? (graph : Graph) : List (Nat × Nat) → Option (Nat × List (Nat × Nat))
  | [] => none
  | entry :: rest =>
    if graph.tag entry.1 = mergeTag then some (entry.2, rest)
    else (firstMerge? graph rest).map fun (value, others) => (value, entry :: others)

/-- Take the keys for the value of a mapping as texts. -/
def nameValues (graph : Graph) (entries : List (Nat × Nat)) : Graph :=
  entries.foldl (fun graph entry =>
    let key := graph.node entry.1
    if key.tag = valueTag then graph.put entry.1 ⟨textTag, key.content⟩ else graph) graph

mutual

/-- Give the mapping at a place the entries that it merges. -/
def complete : Nat → Nat → Merge Unit
  | 0, _ => throw .construction
  | fuel + 1, place => do
    let given ← merged fuel place
    modify fun graph =>
      let entries := given ++ graph.entries place
      nameValues (graph.putEntries place entries) entries

/-- The entries that the merging keys of a mapping give; the keys are taken away one by one. Of a
list of mappings the first one comes last and so wins. -/
def merged : Nat → Nat → Merge (List (Nat × Nat))
  | 0, _ => throw .construction
  | fuel + 1, place => do
    let graph ← get
    match firstMerge? graph (graph.entries place) with
    | none => return []
    | some (value, others) =>
      set (graph.putEntries place others)
      let given ←
        match (graph.node value).content with
        | .mapping _ => entriesOf fuel value
        | .sequence items => (fun given => given.reverse.flatten) <$> items.mapM (entriesOf fuel)
        | .scalar _ => throw .construction
      return given ++ (← merged fuel place)

/-- The entries of the mapping at a place, with those that it merges. -/
def entriesOf : Nat → Nat → Merge (List (Nat × Nat))
  | 0, _ => throw .construction
  | fuel + 1, place => do
    match ((← get).node place).content with
    | .mapping _ =>
      complete fuel place
      return (← get).entries place
    | _ => throw .construction

end

/-- Enough fuel for a table: every round takes away a merging key. -/
def fuel (graph : Graph) : Nat :=
  graph.foldl (fun sum node =>
    match node.content with
    | .mapping entries => sum + 3 * entries.length
    | _ => sum) 4

end Merge

end QueryAudit.Yaml
