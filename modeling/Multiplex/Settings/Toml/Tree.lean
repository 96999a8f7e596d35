import Multiplex.Settings.Value

/-!
# The tables of a TOML document

While a document is read, its values stand in a tree of tables. How a table came to be decides what
may be added to it later: a table with a header of its own, or one that only lies on the way of a
header or of a dotted key. `update?` changes the table at the end of a path and makes the tables on
the way; `addValue?`, `openTable?` and `openElement?` are the three things a document can do.
-/

namespace Multiplex.Settings.Toml

/-- How a table came to be. -/
inductive Origin where
  /-- By a header of its own, or as a whole. -/
  | header
  /-- On the way of a header to a deeper table. -/
  | implied
  /-- On the way of a dotted key to its value. -/
  | dotted
  deriving DecidableEq, Repr

/-- What a key stands for. -/
inductive Node where
  | leaf (value : Value)
  | table (origin : Origin) (children : List (List Char × Node))
  /-- Tables in a row, of which only the last may still change. -/
  | tables (last : List (List Char × Node))

/-- The entries of a table. -/
abbrev Children := List (List Char × Node)

/-- The value that a whole entry shows to its reader. -/
def Node.value : Node → Value
  | leaf value => value
  | table _ [] => .emptyTable
  | table _ _ => .nested
  | tables _ => .nested

/-- The entries with one of them replaced. -/
def replace (children : Children) (key : List Char) (node : Node) : Children :=
  children.map fun (k, old) => if k = key then (k, node) else (k, old)

/-- Changes the table at the end of a path. Missing tables on the way are made with the origin
`made`. A way leads through the last of tables in a row, and never through a value; the way of a
dotted key does not enter a table that has a header of its own. -/
def update? (made : Origin) (change : Origin → Children → Option Children) :
    List (List Char) → Origin → Children → Option Children
  | [], origin, children => change origin children
  | key :: path, _, children =>
    match children.lookup key with
    | none =>
      (update? made change path made []).map fun inner => children ++ [(key, .table made inner)]
    | some (.leaf _) => none
    | some (.tables last) =>
      (update? made change path .header last).map fun inner => replace children key (.tables inner)
    | some (.table origin inner) =>
      if made = .dotted ∧ origin = .header then none
      else
        (update? made change path origin inner).map fun inner =>
          replace children key (.table origin inner)

/-- Adds a value under a dotted key, of which `way` is all but the last part. The table that
receives it is one made by dotted keys exactly when the key has a way, and has no such entry. -/
def addValue? (way : List (List Char)) (key : List Char) (value : Value) :
    Origin → Children → Option Children :=
  update? .dotted (fun origin children =>
    if (origin == .dotted) == way.isEmpty then none
    else if (children.lookup key).isSome then none
    else some (children ++ [(key, .leaf value)])) way

/-- Opens the table of a header, which is new or so far only implied. -/
def openTable? (way : List (List Char)) (key : List Char) : Children → Option Children :=
  update? .implied (fun _ children =>
    match children.lookup key with
    | none => some (children ++ [(key, .table .header [])])
    | some (.table .implied inner) => some (replace children key (.table .header inner))
    | some _ => none) way .header

/-- Opens one more of tables in a row. -/
def openElement? (way : List (List Char)) (key : List Char) : Children → Option Children :=
  update? .implied (fun _ children =>
    match children.lookup key with
    | none => some (children ++ [(key, .tables [])])
    | some (.tables _) => some (replace children key (.tables []))
    | some _ => none) way .header

end Multiplex.Settings.Toml
