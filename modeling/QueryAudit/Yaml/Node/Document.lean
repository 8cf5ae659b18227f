import QueryAudit.Document
import QueryAudit.Yaml.Node.Value

/-!
# From nodes to documents

The document of a node has the documents of its parts in place. Where a part is the whole again, the
document holds itself. A list, set or object with many references is unfolded once, unless it leads
back to something around it.
-/

namespace QueryAudit.Yaml

/-- What the lists, sets and objects of a text hold, by place. -/
abbrev Holdings := Array (Option Holding)

/-- A step of unfolding, with the documents that are known by place. -/
abbrev Unfold := StateM (Array (Option Document))

namespace Unfold

/-- A document, and the places around it to which it leads back. -/
abbrev Open (α : Type) := α × List Nat

/-- The document of a value inside the lists, sets and objects at the given places. -/
def document (holdings : Holdings) : Nat → List Nat → Piece → Unfold (Open Document)
  | _, _, .scalar value => return (.scalar value, [])
  | 0, _, .part _ => return (.null, [])
  | fuel + 1, around, .part place => do
    if around.contains place then return (.again place, [place])
    if let some known := (← get).getD place none then return (known, [])
    let inner := document holdings fuel (place :: around)
    let (body, ways) ←
      match (holdings.getD place none).getD (.list []) with
      | .list items => do
        let items ← items.mapM inner
        pure (Document.list (items.map Prod.fst), items.flatMap Prod.snd)
      | .pairs pairs => do
        let pairs ← pairs.mapM fun (first, second) => do
          let (first, ways) ← inner first
          let (second, others) ← inner second
          return (Document.list [first, second], ways ++ others)
        pure (Document.list (pairs.map Prod.fst), pairs.flatMap Prod.snd)
      | .set items => pure (Document.set items, [])
      | .object entries => do
        let entries ← entries.mapM fun (key, value) => do
          let (value, ways) ← inner value
          return ((key, value), ways)
        pure (Document.object (entries.map Prod.fst), entries.flatMap Prod.snd)
    let whole := if ways.contains place then .cyclic place body else body
    let ways := (ways.filter (· != place)).eraseDups
    if ways.isEmpty then
      modify fun known => known.setIfInBounds place (some whole)
    return (whole, ways)

end Unfold

/-- The document of the node at a place. -/
def documentAt (graph : Graph) (root : Nat) : Except Fault Document := do
  let (value, holdings) ← Read.all graph root
  let unfold := Unfold.document holdings (holdings.size + 1) [] value
  return (unfold.run (Array.replicate holdings.size none)).1.1

end QueryAudit.Yaml
