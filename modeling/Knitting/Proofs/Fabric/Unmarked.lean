import Knitting.Proofs.Fabric.Calls
import Knitting.Proofs.Row.Renumbered

/-! # Rows without their markers

Markers remember places and decide nothing. A row that never looks for a marker in vain has the
same stitches, or the same fault, when its marker actions are taken out of it.
-/
namespace Knitting

def Row.unmarked (r : Row) : Row :=
  { r with content := Expr.replaceAllMarkers (fun _ => .group []) r.content }

theorem Place.renumber_id (p : Place) : p.renumber id = p := rfl

@[simp] theorem Fault.renumber_id (fault : Fault) : fault.renumber id = fault := by
  cases fault <;> simp [renumber, Place.renumber_id]

/-- The fault of a row that removes a marker which is not there. -/
def Fault.MarkerMissing (fault : Fault) : Prop := ∃ p name, fault = .markerNotFound p name

namespace Needle

/-- A marker action is worked like an empty group, unless it removes a marker in vain. -/
theorem mark_alike_unmarked (t : MarkerTable) (a : MarkerAction) (n : Needle) :
    Alike id (fun _ => t) Fault.MarkerMissing (n.mark a)
      ((Expr.group []).expand (n.relabel id fun _ => t)) := by
  rw [Expr.expand_group, Expr.expandAll_nil]
  cases a with
  | place name => exact .ok rfl
  | remove name =>
    rw [mark]
    cases n.markers.get? name with
    | none => exact .excused ⟨n.place, name, rfl⟩ _
    | some p => exact .ok rfl

end Needle

namespace Fabric

/-- No marker decides what becomes of a row. Unless the row removes a marker that is not there, the
row without its markers comes to the same stitches under the same number, or has the same fault at
the same place; it only leaves the markers where they were. -/
theorem markers_never_decide (f : Fabric) (r : Row)
    (found : ∀ p name, (f.addRow r).2 ≠ some (.markerNotFound p name)) :
    f.addRow r.unmarked = ({ (f.addRow r).1 with markers := f.markers }, (f.addRow r).2) := by
  have alike := Needle.workRow_alike (f := fun _ => .group []) (fun _ => rfl)
    (Needle.mark_alike_unmarked f.markers) r.content f.needle
  have same : f.needle.relabel id (fun _ => f.markers) = f.needle := rfl
  rw [same] at alike
  unfold addRow at found ⊢
  rw [Row.unmarked]
  generalize f.needle.workRow r.content = result,
    f.needle.workRow (Expr.replaceAllMarkers _ r.content) = result' at alike found ⊢
  cases alike with
  | ok same =>
    rw [same]
    rfl
  | stop same => simp [same]
  | excused missing =>
    obtain ⟨p, name, hfault⟩ := missing
    exact absurd (congrArg some hfault) (found p name)

/-- A row of four loops, with a marker behind the first. -/
def eyelet : Fabric :=
  run .strict [.row ⟨[.stitch .knit, .marker (.place 'A'), .stitch (.castOn 3)], .start⟩]

/-- Moves the marker in every pass, and is then worked as often as fits. -/
def eyeletRow : Row where
  content := [.times (.group [.marker (.remove 'A'), .stitch .knit, .marker (.place 'A'),
    .stitch .knit]) 0]
  position := .start

theorem markers_never_decide_eyelet :
    (∀ p name, (eyelet.addRow eyeletRow).2 ≠ some (.markerNotFound p name)) ∧
      (eyelet.addRow eyeletRow).1.rows = eyelet.rows.push ⟨2, List.replicate 4 .knit⟩ ∧
      eyelet.addRow eyeletRow.unmarked =
        ({ (eyelet.addRow eyeletRow).1 with markers := eyelet.markers }, none) := by
  have worked : (eyelet.addRow eyeletRow).2 = none := by decide
  have found : ∀ p name, (eyelet.addRow eyeletRow).2 ≠ some (.markerNotFound p name) := by
    simp [worked]
  refine ⟨found, by decide, ?_⟩
  rw [markers_never_decide eyelet eyeletRow found, worked]

end Fabric
end Knitting
