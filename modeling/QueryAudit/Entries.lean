/-!
# Entries in order

A dictionary whose order can be seen: a list of keys with their values, each key once. Writing a key
anew keeps its place, and a new key goes to the end.
-/

namespace QueryAudit

/-- Keys and values, in the order in which the keys were first written. -/
abbrev Entries (κ α : Type) := List (κ × α)

namespace Entries

variable {κ α : Type} [BEq κ]

/-- The value of a key. -/
def get? (entries : Entries κ α) (key : κ) : Option α :=
  entries.lookup key

/-- Write a key: its old value is replaced in place, a new key goes to the end. -/
def put (entries : Entries κ α) (key : κ) (value : α) : Entries κ α :=
  match entries with
  | [] => [(key, value)]
  | entry :: rest =>
    if entry.1 == key then (entry.1, value) :: rest else entry :: put rest key value

/-- Write a key only when it is new. -/
def putNew (entries : Entries κ α) (key : κ) (value : α) : Entries κ α :=
  if (get? entries key).isSome then entries else entries ++ [(key, value)]

/-- Change the value of a key, which starts from `start` when it is new. -/
def update (entries : Entries κ α) (key : κ) (start : α) (change : α → α) : Entries κ α :=
  put entries key (change ((get? entries key).getD start))

/-- Write a list of pairs one after the other. -/
def ofList (pairs : List (κ × α)) : Entries κ α :=
  pairs.foldl (fun entries pair => put entries pair.1 pair.2) []

/-- Group values under their keys, in order of first appearance. -/
def group (pairs : List (κ × α)) : Entries κ (List α) :=
  pairs.foldl (fun entries pair => update entries pair.1 [] (· ++ [pair.2])) []

/-- The first value of every key, in order of first appearance. -/
def firsts (pairs : List (κ × α)) : Entries κ α :=
  pairs.foldl (fun entries pair => putNew entries pair.1 pair.2) []

/-- The keys, in order. -/
def keys (entries : Entries κ α) : List κ :=
  entries.map Prod.fst

/-- Whether two dictionaries hold the same keys with alike values, in whatever order. -/
def alike (same : α → α → Bool) (left right : Entries κ α) : Bool :=
  left.length == right.length &&
    left.all fun entry => (get? right entry.1).any (same entry.2)

end Entries

end QueryAudit
