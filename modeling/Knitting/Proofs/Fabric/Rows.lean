import Knitting.Proofs.Fabric.Calls
import Mathlib.Algebra.Group.Nat.Defs

/-! # A pattern row by row

Sections and blocks only say which rows come when: a pattern is its rows, written out. Without a
halt, every row of it is added in turn, and adding a row never takes anything back.
-/
namespace Knitting

def Section.unrolledAll (sections : List Section) : List Row := sections.flatMap Section.unrolled

theorem Section.unrolledAll_append (sections more : List Section) :
    unrolledAll (sections ++ more) = unrolledAll sections ++ unrolledAll more :=
  List.flatMap_append

theorem visit_flatMap {σ ε α β : Type} (f : σ → β → Except ε σ) (g : α → List β) (as : List α)
    (s : σ) : visit (fun s a => visit f (g a) s) as s = visit f (as.flatMap g) s := by
  induction as generalizing s with
  | nil => rfl
  | cons a as ih =>
    rw [visit, List.flatMap_cons, visit_append]
    cases visit f (g a) s with
    | error e => rfl
    | ok s => exact ih s

namespace Fabric

theorem addSections_eq_visit (policy : Policy) (f : Fabric) (sections : List Section) :
    f.addSections policy sections = visit (tryRow policy) (Section.unrolledAll sections) f := by
  have each : addSection policy = fun f s => visit (tryRow policy) s.unrolled f := by
    funext f s
    exact s.visitRows_eq_unrolled _ f
  rw [addSections, each, visit_flatMap, Section.unrolledAll]

def addRows (f : Fabric) (rows : List Row) : Fabric := rows.foldl (fun f r => (f.addRow r).1) f

@[simp] theorem addRows_nil (f : Fabric) : f.addRows [] = f := rfl

@[simp] theorem addRows_cons (f : Fabric) (r : Row) (rows : List Row) :
    f.addRows (r :: rows) = (f.addRow r).1.addRows rows := rfl

theorem addRows_append (f : Fabric) (rows more : List Row) :
    f.addRows (rows ++ more) = (f.addRows rows).addRows more := List.foldl_append

theorem tryRow_bestEffort (f : Fabric) (r : Row) :
    f.tryRow .bestEffort r = .ok (f.addRow r).1 := by
  unfold tryRow
  split
  · rename_i contra
    cases contra
  · rename_i h _
    rw [h]

theorem tryRow_strict (f : Fabric) (r : Row) :
    f.tryRow .strict r =
      match (f.addRow r).2 with
      | none => .ok (f.addRow r).1
      | some fault => .error ⟨fault, (f.addRow r).1⟩ := by
  unfold tryRow
  rcases f.addRow r with ⟨next, _ | fault⟩ <;> rfl

/-- Only the content of a row is worked. -/
theorem visit_tryRow_congr (policy : Policy) {rows rows' : List Row}
    (same : rows.map Row.content = rows'.map Row.content) (f : Fabric) :
    visit (tryRow policy) rows f = visit (tryRow policy) rows' f := by
  have each : ∀ r f, tryRow policy f r = tryRow policy f ⟨r.content, .start⟩ := fun _ _ => rfl
  have through : ∀ (rows : List Row) f, visit (tryRow policy) rows f =
      visit (fun f content => tryRow policy f ⟨content, .start⟩) (rows.map Row.content) f := by
    intro rows
    induction rows with
    | nil => exact fun _ => rfl
    | cons r rows ih =>
      intro f
      simp only [visit, List.map_cons, each r, ih]
  rw [through, through, same]

theorem visit_bestEffort (rows : List Row) (f : Fabric) :
    visit (tryRow .bestEffort) rows f = .ok (f.addRows rows) := by
  induction rows generalizing f with
  | nil => rfl
  | cons r rows ih => rw [visit, tryRow_bestEffort, addRows_cons, ← ih]

theorem addSections_bestEffort (f : Fabric) (sections : List Section) :
    f.addSections .bestEffort sections = .ok (f.addRows (Section.unrolledAll sections)) := by
  rw [addSections_eq_visit, visit_bestEffort]

theorem attempted_addRow (f : Fabric) (r : Row) : (f.addRow r).1.attempted = f.attempted + 1 := by
  obtain ⟨done, -, hadd⟩ | ⟨snag, -, hadd⟩ := f.addRow_cases r <;> rw [hadd]

theorem number_of_workRow {f : Fabric} {r : Row} {done : Needle}
    (h : f.needle.workRow r.content = .ok done) : done.row.number = f.attempted + 1 :=
  (Needle.extends_of_workRow h).number

theorem toNat_attempted {f : Fabric} (few : f.attempted.toNat + 1 < 2 ^ 32) :
    (f.attempted + 1).toNat = f.attempted.toNat + 1 := by
  rw [UInt32.toNat_add]
  exact Nat.mod_eq_of_lt few

theorem faults_addRow_of_worked {f : Fabric} {r : Row} (h : (f.addRow r).2 = none) :
    (f.addRow r).1.faults = f.faults := by
  obtain ⟨done, -, hadd⟩ | ⟨snag, -, hadd⟩ := f.addRow_cases r
  · rw [hadd]
  · rw [hadd] at h
    cases h

theorem addRow_of_fault {f : Fabric} {r : Row} {fault : Fault} (h : (f.addRow r).2 = some fault) :
    (f.addRow r).1 = { f with faults := f.faults.push fault, attempted := f.attempted + 1 } := by
  obtain ⟨done, -, hadd⟩ | ⟨snag, -, hadd⟩ := f.addRow_cases r
  · rw [hadd] at h
    cases h
  · rw [hadd] at h ⊢
    cases h
    rfl

/-- `g` goes on where `f` stood: its rows and its faults have those of `f` in front. -/
structure Grows (f g : Fabric) : Prop where
  rows : f.rows.toList <+: g.rows.toList
  faults : f.faults.toList <+: g.faults.toList

theorem Grows.refl (f : Fabric) : f.Grows f := ⟨List.prefix_refl _, List.prefix_refl _⟩

theorem Grows.trans {f g k : Fabric} (h : f.Grows g) (h' : g.Grows k) : f.Grows k :=
  ⟨h.rows.trans h'.rows, h.faults.trans h'.faults⟩

theorem grows_addRow (f : Fabric) (r : Row) : f.Grows (f.addRow r).1 := by
  obtain ⟨done, -, hadd⟩ | ⟨snag, -, hadd⟩ := f.addRow_cases r
  · rw [hadd]
    exact ⟨by simp, List.prefix_refl _⟩
  · rw [hadd]
    exact ⟨List.prefix_refl _, by simp⟩

theorem grows_addRows (f : Fabric) (rows : List Row) : f.Grows (f.addRows rows) := by
  induction rows generalizing f with
  | nil => exact .refl f
  | cons r rows ih => exact (f.grows_addRow r).trans (ih _)

/-- Every row that is added is either worked or has a fault. -/
theorem size_addRows (f : Fabric) (rows : List Row) :
    (f.addRows rows).rows.size + (f.addRows rows).faults.size =
      f.rows.size + f.faults.size + rows.length := by
  induction rows generalizing f with
  | nil => rfl
  | cons r rows ih =>
    have first : (f.addRow r).1.rows.size + (f.addRow r).1.faults.size =
        f.rows.size + f.faults.size + 1 := by
      obtain ⟨done, -, hadd⟩ | ⟨snag, -, hadd⟩ := f.addRow_cases r
      · simp only [hadd, Array.size_push]
        omega
      · simp only [hadd, Array.size_push]
        omega
    rw [addRows_cons, ih, first, List.length_cons]
    omega

/-- The rows that are begun when rows are handed over in turn: all of them, or under the strict
policy those up to the first with a fault. -/
def begun (policy : Policy) (f : Fabric) : List Row → List Row
  | [] => []
  | r :: rows =>
    match policy, (f.addRow r).2 with
    | .strict, some _ => [r]
    | _, _ => r :: (f.addRow r).1.begun policy rows

theorem settled_visit_tryRow (policy : Policy) (rows : List Row) (f : Fabric) :
    settled (visit (tryRow policy) rows f) = f.addRows (f.begun policy rows) := by
  induction rows generalizing f with
  | nil => rfl
  | cons r rows ih =>
    cases policy with
    | strict =>
      rw [visit, tryRow_strict]
      cases h : (f.addRow r).2 with
      | none =>
        simp only [begun, h, addRows_cons]
        exact ih (f.addRow r).1
      | some fault =>
        simp only [begun, h, addRows_cons]
        rfl
    | bestEffort =>
      rw [visit, tryRow_bestEffort]
      exact ih (f.addRow r).1

end Fabric

def Call.rows : Call → List Row
  | .row r => [r]
  | .block b => b.unrolled
  | .part s => s.unrolled
  | .pattern sections => Section.unrolledAll sections

namespace Fabric

theorem call_eq_addRows (policy : Policy) (f : Fabric) (c : Call) :
    f.call policy c = f.addRows (f.begun policy c.rows) := by
  cases c with
  | row r =>
    rw [Call.rows, ← settled_visit_tryRow, call, ← settled_tryRow policy, visit]
    cases f.tryRow policy r <;> rfl
  | block b => rw [call, addBlock, b.visitRows_eq_unrolled, settled_visit_tryRow, Call.rows]
  | part s => rw [call, addSection, s.visitRows_eq_unrolled, settled_visit_tryRow, Call.rows]
  | pattern sections => rw [call, addSections_eq_visit, settled_visit_tryRow, Call.rows]

def begunIn (policy : Policy) (f : Fabric) : List Call → List Row
  | [] => []
  | c :: calls => f.begun policy c.rows ++ (f.call policy c).begunIn policy calls

theorem run_eq_addRows (policy : Policy) (calls : List Call) :
    run policy calls = Fabric.empty.addRows (Fabric.empty.begunIn policy calls) := by
  unfold run
  generalize Fabric.empty = f
  induction calls generalizing f with
  | nil => rfl
  | cons c calls ih =>
    rw [List.foldl_cons, ih, begunIn, addRows_append, ← call_eq_addRows]

end Fabric

theorem compileSections_bestEffort (sections : List Section) :
    compileSections .bestEffort sections =
      .ok (Fabric.empty.addRows (Section.unrolledAll sections)).compilation := by
  rw [compileSections, Fabric.addSections_bestEffort]

theorem compile_eq_ok_iff {policy : Policy} {source : String} {c : Compilation} :
    compile policy source = .ok c ↔
      ∃ sections, parse source = .ok sections ∧ compileSections policy sections = .ok c := by
  rw [compile]
  cases parse source with
  | error e => simp
  | ok sections =>
    cases worked : compileSections policy sections <;> simp [worked]

end Knitting
