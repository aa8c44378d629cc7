/-
# TestDiscovery.Toml.Draft -- tables while a document is read

A table may be given in pieces: by a header, as a parent of the table of a header,
or by dotted keys.  Which of these has happened decides what may still be added
(`TableKind`).  A header may name a table once; it may name one that was only
implied before.  Dotted keys may add to tables that dotted keys made.
-/
import TestDiscovery.Toml.Value

namespace TestDiscovery.Toml

set_option autoImplicit false

/-- How a table came to be. -/
inductive TableKind where
  /-- By a header of its own, or in braces. -/
  | defined
  /-- As a parent of the table of a header. -/
  | implied
  /-- By dotted keys. -/
  | dotted
  deriving DecidableEq, Repr

/-- What stands under a key while the document is read. -/
inductive Item where
  | value (v : Value)
  | table (kind : TableKind) (entries : List (String × Item))
  /-- Tables under one header in double brackets, each with its entries. -/
  | tables (all : List (List (String × Item)))

/-- The entries of a table while the document is read. -/
abbrev Entries := List (String × Item)

/-! ## Finishing -/

mutual

/-- The value that an item has become. -/
def Item.finish : Item → Value
  | .value v => v
  | .table _ entries => .table (finishEntries entries)
  | .tables all => .array (finishTables all)

/-- The table that entries have become. -/
def finishEntries : List (String × Item) → List (String × Value)
  | [] => []
  | (key, item) :: rest => (key, item.finish) :: finishEntries rest

/-- The tables that lists of entries have become. -/
def finishTables : List (List (String × Item)) → List Value
  | [] => []
  | entries :: rest => .table (finishEntries entries) :: finishTables rest

end

/-! ## Changing a table inside others -/

/-- The entries with another item under a key that they have. -/
def Entries.replace (es : Entries) (key : String) (item : Item) : Entries :=
  es.map fun (k, old) => if k = key then (k, item) else (k, old)

/-- The entries with an item under a new key. -/
def Entries.add (es : Entries) (key : String) (item : Item) : Entries := es ++ [(key, item)]

/-- Apply a change to the table at a path.  Missing tables on the way are made, of the kind
`link`; a value on the way is an obstacle, and dotted keys do not enter a table that has a header
or braces of its own.  Of several tables under one header the last is meant. -/
def changeAt {α : Type} (link : TableKind)
    (change : TableKind → Entries → Option (Entries × α)) :
    List String → TableKind → Entries → Option (Entries × α)
  | [], kind, es => change kind es
  | key :: path, _, es =>
    match es.lookup key with
    | none => do
      let (child, a) ← changeAt link change path link []
      return (es.add key (.table link child), a)
    | some (.value _) => none
    | some (.table kind child) =>
      if link = .dotted ∧ kind = .defined then none
      else do
        let (child, a) ← changeAt link change path kind child
        return (es.replace key (.table kind child), a)
    | some (.tables all) =>
      match all.getLast? with
      | none => none
      | some last => do
        let (child, a) ← changeAt link change path .defined last
        return (es.replace key (.tables (all.dropLast ++ [child])), a)

/-- Put a value under a new key.  After dotted keys the table must be one that dotted keys
made. -/
def putNew (afterDots : Bool) (key : String) (v : Value) (kind : TableKind) (es : Entries) :
    Option (Entries × Unit) :=
  if afterDots ∧ kind ≠ .dotted then none
  else match es.lookup key with
    | none => some (es.add key (.value v), ())
    | some _ => none

/-- The last part of a key, with the parts before it. -/
def splitLast : List String → Option (List String × String)
  | [] => none
  | [key] => some ([], key)
  | key :: rest => (splitLast rest).map fun (path, last) => (key :: path, last)

/-- Put a value under a key that may be dotted. -/
def Entries.put (es : Entries) (key : List String) (v : Value) : Option Entries := do
  let (path, last) ← splitLast key
  let (es, _) ← changeAt .dotted (putNew (!path.isEmpty) last v) path .defined es
  return es

/-- The table in braces that has the given values. -/
def inlineTable (pairs : List (List String × Value)) : Option Value := do
  let es ← pairs.foldlM (fun (es : Entries) (pair : List String × Value) =>
    Entries.put es pair.1 pair.2) []
  return .table (finishEntries es)

/-! ## A document -/

/-- A document while it is read: the tables that are finished, and the one being read, which will
stand at `path`, as one of several if `isMany` is set. -/
structure Draft where
  finished : Entries
  current : Entries
  path : List String
  isMany : Bool

/-- The document before its first line. -/
def Draft.start : Draft := ⟨[], [], [], false⟩

/-- Put the table that was read in its place. -/
def Draft.close (d : Draft) : Option Entries :=
  match splitLast d.path with
  | none => some d.current
  | some (path, last) => do
    let (es, _) ← changeAt .implied (place last) path .defined d.finished
    return es
where
  /-- The table under its key: alone, or after others. -/
  place (last : String) (_ : TableKind) (es : Entries) : Option (Entries × Unit) :=
    if d.isMany then
      match es.lookup last with
      | none => some (es.add last (.tables [d.current]), ())
      | some (.tables all) => some (es.replace last (.tables (all ++ [d.current])), ())
      | some _ => none
    else
      match es.lookup last with
      | none => some (es.add last (.table .defined d.current), ())
      | some _ => none

/-- The table that a header starts with: the one that was only implied so far, or an empty one. -/
def claim (last : String) (_ : TableKind) (es : Entries) : Option (Entries × Entries) :=
  match es.lookup last with
  | none => some (es, [])
  | some (.table .implied child) => some (es.filter fun (k, _) => k != last, child)
  | some _ => none

/-- Make room for several tables under one header. -/
def claimMany (last : String) (_ : TableKind) (es : Entries) : Option (Entries × Entries) :=
  match es.lookup last with
  | none => some (es.add last (.tables []), [])
  | some (.tables _) => some (es, [])
  | some _ => none

/-- Go on after a header. -/
def Draft.header (d : Draft) (isMany : Bool) (key : List String) : Option Draft := do
  let finished ← d.close
  let (path, last) ← splitLast key
  let (finished, current) ←
    changeAt .implied (if isMany then claimMany last else claim last) path .defined finished
  return ⟨finished, current, key, isMany⟩

/-- Put a value under a key of the current table. -/
def Draft.put (d : Draft) (key : List String) (v : Value) : Option Draft := do
  return { d with current := ← d.current.put key v }

/-- The table of the whole document. -/
def Draft.finish (d : Draft) : Option Table := d.close.map finishEntries

end TestDiscovery.Toml
