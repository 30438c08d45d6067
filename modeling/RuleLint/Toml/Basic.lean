import RuleLint.Json.Schema

/-!
# TOML documents

A document is a tree of tables. Tables and values keep the stretch of the text that they take up.
A table that is only mentioned on the way to another is implicit and may be opened later; one made
by a dotted key may only be extended by dotted keys.
-/

namespace RuleLint.Toml

/-- A stretch of a text, in bytes. -/
structure Span where
  start : Nat
  stop : Nat
  deriving DecidableEq, Repr

/-- A key, as it is and as it was written. -/
structure Key where
  name : String
  written : String
  span : Span
  deriving Repr

inductive Scalar where
  | str (s : String)
  | int (i : Int)
  | real (bits : UInt64)
  | bool (b : Bool)
  | date
  deriving Repr

structure Origin where
  inBraces : Bool := false
  implicit : Bool := false
  dotted : Bool := false
  deriving Repr

inductive Tree where
  | scalar (span : Span) (s : Scalar)
  | list (span : Span) (items : List Tree)
  | table (span : Option Span) (origin : Origin) (entries : List (Key × Tree))
  | tables (items : List Tree)
  deriving Repr, Inhabited

namespace Tree

def span? : Tree → Option Span
  | scalar s _ => some s
  | list s _ => some s
  | table s _ _ => s
  | tables items =>
    match items.head?, items.getLast? with
    | some (table (some a) _ _), some (table (some b) _ _) => some ⟨a.start, b.stop⟩
    | _, _ => none

def kind : Tree → String
  | scalar _ (.str _) => "string"
  | scalar _ (.int _) => "integer"
  | scalar _ (.real _) => "float"
  | scalar _ (.bool _) => "boolean"
  | scalar _ .date => "datetime"
  | list _ _ => "array"
  | table _ o _ => if o.inBraces then "inline table" else "table"
  | tables _ => "array of tables"

end Tree

inductive KeyFault where
  | duplicate (key : String)
  | duplicateIn (key : String) (table : List Key)
  | notTable (path : List Key) (kind : String)
  deriving Repr

def dottedText (path : List Key) : String := ".".intercalate (path.map (·.written))

def KeyFault.message : KeyFault → String
  | duplicate key => "duplicate key `" ++ key ++ "`"
  | duplicateIn key [] => "duplicate key `" ++ key ++ "` in document root"
  | duplicateIn key table => "duplicate key `" ++ key ++ "` in table `" ++ dottedText table ++ "`"
  | notTable path kind =>
    "dotted key `" ++ dottedText path ++ "` attempted to extend non-table type (" ++ kind ++ ")"

/-! ## Tables -/

structure Table where
  span : Option Span
  origin : Origin
  entries : List (Key × Tree)

namespace Table

def empty : Table := ⟨none, {}, []⟩

def tree (t : Table) : Tree := .table t.span t.origin t.entries

def find? (t : Table) (key : Key) : Option Tree :=
  (t.entries.find? fun e => e.1.name = key.name).map (·.2)

def set (t : Table) (key : Key) (value : Tree) : Table :=
  let rec go : List (Key × Tree) → List (Key × Tree)
    | [] => [(key, value)]
    | (k, v) :: r => if k.name = key.name then (k, value) :: r else (k, v) :: go r
  { t with entries := go t.entries }

def erase (t : Table) (key : Key) : Table :=
  { t with entries := t.entries.filter fun e => e.1.name ≠ key.name }

/-- Changes the table at the end of a path, making the tables on the way; `done` is the path to here,
latest first. A dotted path does not enter tables made by a header or in braces. -/
def change {α : Type} (dotted : Bool) (f : Table → Except KeyFault (Table × α)) :
    List Key → List Key → Table → Except KeyFault (Table × α)
  | _, [], t => f t
  | done, key :: path, t => do
    let inner : Tree := (t.find? key).getD
      (.table none ⟨t.origin.inBraces, true, dotted⟩ [])
    match inner with
    | .table span origin entries =>
      if dotted && !origin.implicit then throw (.duplicate key.name)
      let (inner, a) ← change dotted f (key :: done) path ⟨span, origin, entries⟩
      return (t.set key inner.tree, a)
    | .tables items =>
      match items.getLast? with
      | some (.table span origin entries) =>
        let (inner, a) ← change dotted f (key :: done) path ⟨span, origin, entries⟩
        return (t.set key (.tables (items.dropLast ++ [inner.tree])), a)
      | _ => throw (.duplicate key.name)
    | other => throw (.notTable (key :: done).reverse other.kind)

/-- Adds a value under a key, whose path may be dotted. `place` is the path of the table itself, told
when the key is there already. -/
def addValue (place : Option (List Key)) (path : List Key) (key : Key) (value : Tree) (t : Table) :
    Except KeyFault Table := do
  let (t, _) ← t |> change (!path.isEmpty) (fun inner => do
    if inner.origin.dotted == path.isEmpty then throw (.duplicate key.name)
    match inner.find? key, place with
    | none, _ => return (inner.set key value, ())
    | some _, some table => throw (.duplicateIn key.name table)
    | some _, none => throw (.duplicate key.name)) [] path
  return t

end Table

/-! ## Documents -/

/-- A document while it is read: the tables finished, and the one that is open. -/
structure Draft where
  root : Table
  open_ : Table
  path : List Key
  inTables : Bool

namespace Draft

def start : Draft := ⟨.empty, .empty, [], false⟩

def split (path : List Key) : Option (List Key × Key) := path.getLast?.map fun k => (path.dropLast, k)

def duplicateAt (path : List Key) (key : Key) : KeyFault := .duplicateIn key.written path

def close (d : Draft) : Except KeyFault Table :=
  match split d.path with
  | none => .ok d.open_
  | some (path, key) => do
    let (root, _) ← d.root |> Table.change false (fun t =>
      if d.inTables then
        match t.find? key with
        | some (.tables items) => .ok (t.set key (.tables (items ++ [d.open_.tree])), ())
        | none => .ok (t.set key (.tables [d.open_.tree]), ())
        | some _ => .error (duplicateAt path key)
      else .ok (t.set key d.open_.tree, ())) [] path
    return root

def openTable (d : Draft) (path : List Key) (span : Span) : Except KeyFault Draft := do
  let root ← d.close
  match split path with
  | none => return ⟨root, .empty, path, false⟩
  | some (parent, key) =>
    let (root, entries) ← root |> Table.change false (fun t =>
      match t.find? key with
      | none => .ok (t, [])
      | some (.table _ ⟨false, true, false⟩ entries) => .ok (t.erase key, entries)
      | some _ => .error (duplicateAt parent key)) [] parent
    return ⟨root, ⟨some span, {}, entries⟩, path, false⟩

def openTables (d : Draft) (path : List Key) (span : Span) : Except KeyFault Draft := do
  let root ← d.close
  match split path with
  | none => return ⟨root, .empty, path, true⟩
  | some (parent, key) =>
    let (root, _) ← root |> Table.change false (fun t =>
      match t.find? key with
      | none => .ok (t.set key (.tables []), ())
      | some (.tables _) => .ok (t, ())
      | some _ => .error (duplicateAt parent key)) [] parent
    return ⟨root, ⟨some span, {}, []⟩, path, true⟩

def add (d : Draft) (path : List Key) (key : Key) (value : Tree) : Except KeyFault Draft := do
  let span := match d.open_.span, value.span? with
    | some s, some v => some (⟨s.start, v.stop⟩ : Span)
    | s, _ => s
  let t ← Table.addValue (some d.path) path key value { d.open_ with span := span }
  return { d with open_ := t }

def finish (d : Draft) : Except KeyFault Tree := return (← d.close).tree

end Draft

end RuleLint.Toml
