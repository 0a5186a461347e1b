import Knitting.Settings.Setting

/-! # Tables under construction

A table comes into being by a header of its own, by the header of a table inside it, or by a key
with dots. How it came into being decides what may still be added to it: nothing is defined
twice, and a key with dots reaches into no table that has a header.
-/
namespace Knitting.Toml

inductive Origin where
  | header
  | innerHeader
  | dottedKey
  deriving DecidableEq, Repr

/-- What a key stands for. Of several tables under one key the last comes first. -/
inductive Item where
  | value (s : Setting)
  | table (origin : Origin) (entries : List (String × Item))
  | tables (all : List (List (String × Item)))
  deriving Repr

structure Table where
  origin : Origin
  entries : List (String × Item)
  deriving Repr

namespace Table

def empty : Table := ⟨.header, []⟩

def get? (t : Table) (key : String) : Option Item := t.entries.lookup key

def putEntry (key : String) (item : Item) : List (String × Item) → List (String × Item)
  | [] => [(key, item)]
  | (k, i) :: rest => if k = key then (key, item) :: rest else (k, i) :: putEntry key item rest

def put (t : Table) (key : String) (item : Item) : Table :=
  { t with entries := putEntry key item t.entries }

/-- Changes the table that keys lead to; tables on the way are made if there are none. `dotted`
tells that the keys are those of a key with dots. -/
def modifyAt (dotted : Bool) (change : Table → Option Table) :
    List String → Table → Option Table
  | [], t => change t
  | key :: keys, t =>
    let within (inner : Table) : Option Table := modifyAt dotted change keys inner
    match t.get? key with
    | none =>
      (within ⟨if dotted then .dottedKey else .innerHeader, []⟩).map fun inner =>
        t.put key (.table inner.origin inner.entries)
    | some (.value _) | some (.tables []) => none
    | some (.table origin entries) =>
      if dotted ∧ origin = .header then none
      else
        (within ⟨origin, entries⟩).map fun inner =>
          t.put key (.table inner.origin inner.entries)
    | some (.tables (last :: before)) =>
      (within ⟨.header, last⟩).map fun inner => t.put key (.tables (inner.entries :: before))

def splitLast? (keys : List String) : Option (List String × String) :=
  keys.getLast?.map fun last => (keys.dropLast, last)

/-- Gives a value to a key with dots, seen from this table. -/
def insert? (keys : List String) (value : Setting) (t : Table) : Option Table := do
  let (path, key) ← splitLast? keys
  let add (inner : Table) : Option Table :=
    if path ≠ [] ∧ inner.origin ≠ .dottedKey then none
    else if (inner.get? key).isSome then none
    else some (inner.put key (.value value))
  t.modifyAt true add path

/-- The header of a table. -/
def declare? (keys : List String) (t : Table) : Option Table := do
  let (path, key) ← splitLast? keys
  let add (inner : Table) : Option Table :=
    match inner.get? key with
    | none => some (inner.put key (.table .header []))
    | some (.table .innerHeader entries) => some (inner.put key (.table .header entries))
    | some _ => none
  t.modifyAt false add path

/-- The header of one more of several tables. -/
def declareMore? (keys : List String) (t : Table) : Option Table := do
  let (path, key) ← splitLast? keys
  let add (inner : Table) : Option Table :=
    match inner.get? key with
    | none => some (inner.put key (.tables [[]]))
    | some (.tables all) => some (inner.put key (.tables ([] :: all)))
    | some _ => none
  t.modifyAt false add path

end Table

mutual

def Item.setting : Item → Setting
  | .value s => s
  | .table _ entries => .table (settings entries)
  | .tables all => .list (tableSettings all).reverse

def settings : List (String × Item) → List (String × Setting)
  | [] => []
  | (key, item) :: entries => (key, item.setting) :: settings entries

def tableSettings : List (List (String × Item)) → List Setting
  | [] => []
  | entries :: all => .table (settings entries) :: tableSettings all

end

end Knitting.Toml
