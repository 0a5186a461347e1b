import Knitting.Fabric.Basic

/-! # The row on the loom

A fabric only knows of finished rows, and hands its needle to a row as a value of its own. The loom
is the same work on one piece of state: the row being worked lies in a place that can be empty,
every stitch and every marker action looks for it there, and a row that fails is taken out by hand.
-/
namespace Knitting

/-- The row on the loom, and the markers as they will be once it is done. -/
structure Draft where
  row : StitchRow
  markers : MarkerTable
  deriving DecidableEq, Repr

/-- Why the loom cannot go on: no row is on it, or the row has a fault. -/
inductive Refusal where
  | noActiveRow
  | fault (fault : Fault)
  deriving DecidableEq, Repr

structure Loom where
  rows : Array StitchRow := #[]
  markers : MarkerTable := .empty
  refusals : Array Refusal := #[]
  cursor : Place := ⟨0, 1⟩
  current : Option Draft := none
  deriving Repr

namespace Loom

structure Stop where
  refusal : Refusal
  loom : Loom
  deriving Repr

def previous (l : Loom) : Option StitchRow := l.rows.back?

def openRow (l : Loom) : Loom :=
  { l with
    cursor := ⟨l.cursor.row + 1, 1⟩
    current := some ⟨⟨l.cursor.row + 1, []⟩, l.markers⟩ }

def sealRow (l : Loom) : Loom :=
  match l.current with
  | none => l
  | some draft =>
    { l with rows := l.rows.push draft.row, markers := draft.markers, current := none }

def stitchCount (l : Loom) : Nat :=
  match l.current with
  | none => 0
  | some draft => draft.row.stitches.length

def append (l : Loom) (draft : Draft) (s : Stitch) : Loom :=
  { l with
    cursor := ⟨l.cursor.row, l.cursor.column + s.advance⟩
    current := some ⟨⟨draft.row.number, draft.row.stitches ++ [s]⟩, draft.markers⟩ }

def work (s : Stitch) (l : Loom) : Except Stop Loom :=
  match l.current with
  | none => .error ⟨.noActiveRow, l⟩
  | some draft =>
    if rowLimit ≤ draft.row.stitches.length then .error ⟨.fault (.rowTooLong l.cursor), l⟩
    else
      match l.previous with
      | none => .ok (l.append draft s)
      | some below =>
        let required := l.cursor.column - 1 + s.advance
        if below.weight < required then
          .error ⟨.fault (.budgetExceeded l.cursor below.weight required), l⟩
        else .ok (l.append draft s)

def mark (action : MarkerAction) (l : Loom) : Except Stop Loom :=
  match l.current with
  | none => .error ⟨.noActiveRow, l⟩
  | some draft =>
    match action with
    | .place name =>
      .ok { l with current := some ⟨draft.row, draft.markers.put name l.cursor⟩ }
    | .remove name =>
      match draft.markers.get? name with
      | some _ => .ok { l with current := some ⟨draft.row, draft.markers.erase name⟩ }
      | none => .error ⟨.fault (.markerNotFound l.cursor name), l⟩

/-- What the row on the loom works of the row below. -/
def received (l : Loom) : Except Stop Nat :=
  match l.current with
  | none => .error ⟨.noActiveRow, l⟩
  | some draft => .ok draft.row.advance

def craft : Craft Loom Stop Nat where
  work := work
  mark := mark
  stop fault l := ⟨.fault fault, l⟩
  place := cursor
  count := stitchCount
  available l := l.previous.map StitchRow.weight
  worked l := l.cursor.column - 1
  received := received
  advance := Expr.advance

/-- Works the next row; if it fails, what is on the loom is thrown away. -/
def addRow (l : Loom) (r : Row) : Loom × Option Refusal :=
  match craft.workRow r.content l.openRow with
  | .ok done => (done.sealRow, none)
  | .error stop =>
    ({ stop.loom with current := none, refusals := stop.loom.refusals.push stop.refusal },
      some stop.refusal)

def tryRow (policy : Policy) (l : Loom) (r : Row) : Except Stop Loom :=
  match l.addRow r, policy with
  | (next, some refusal), .strict => .error ⟨refusal, next⟩
  | (next, _), _ => .ok next

def addSection (policy : Policy) (l : Loom) (s : Section) : Except Stop Loom :=
  s.visitRows (tryRow policy) l

end Loom

end Knitting
