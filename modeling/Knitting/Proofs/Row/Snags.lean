import Knitting.Proofs.Row.Progress

/-! # Where working stops

A snag arises at a single stitch or marker action, or where a repeat asks how often it is worked, or
at the end of the row. The needle that it keeps is the one at which it arose, and the cursor of that
needle stands where the stitches so far have brought it. So what the fault says can be held against
the needle.
-/
namespace Knitting
namespace Needle

variable {n : Needle} {snag : Snag}

theorem work_eq_error {s : Stitch} (h : n.work s = .error snag) :
    (rowLimit ≤ n.count ∧ snag.fault = .rowTooLong n.place) ∨
      ∃ available, n.available = some available ∧ available < n.worked + s.advance ∧
        snag.fault = .budgetExceeded n.place available (n.worked + s.advance) := by
  unfold work at h
  by_cases full : rowLimit ≤ n.count
  · rw [if_pos full] at h
    cases h
    exact .inl ⟨full, rfl⟩
  · rw [if_neg full] at h
    right
    cases below : n.available with
    | none =>
      rw [below] at h
      cases h
    | some available =>
      rw [below] at h
      dsimp only at h
      by_cases beyond : available < n.worked + s.advance
      · rw [if_pos beyond] at h
        cases h
        exact ⟨available, rfl, beyond, rfl⟩
      · rw [if_neg beyond] at h
        cases h

theorem mark_eq_error {a : MarkerAction} (h : n.mark a = .error snag) :
    ∃ name, n.markers.get? name = none ∧ snag.fault = .markerNotFound n.place name := by
  cases a with
  | place name => cases h
  | remove name =>
    rw [mark] at h
    cases found : n.markers.get? name with
    | some p =>
      rw [found] at h
      cases h
    | none =>
      rw [found] at h
      cases h
      exact ⟨name, found, rfl⟩

theorem budget_eq_error {content : Expr} (h : n.budget content = .error snag) :
    (n.available = none ∧ snag.fault = .noPreviousRow n.place) ∨
      ∃ available, n.available = some available ∧ snag.fault = .zeroAdvanceRepeat n.place := by
  rw [budget_eq] at h
  cases below : n.available with
  | none =>
    rw [below] at h
    cases h
    exact .inl ⟨rfl, rfl⟩
  | some available =>
    rw [below] at h
    dsimp only at h
    by_cases still : content.advance = 0
    · rw [if_pos still] at h
      cases h
      exact .inr ⟨available, rfl, rfl⟩
    · rw [if_neg still] at h
      cases h

end Needle

/-- The snag is that of an action, or of a repeat that asks how often it is worked, right at the
needle that it keeps. -/
def Snag.Arises (snag : Snag) : Prop :=
  (∃ a, snag.needle.act a = .error snag) ∨ ∃ content, snag.needle.budget content = .error snag

namespace Needle

variable {n : Needle} {snag : Snag}

theorem arises_of_act {a : Action} (h : n.act a = .error snag) : snag.Arises := by
  have same := act_error_needle h
  left
  exact ⟨a, by rwa [same]⟩

theorem arises_of_budget {content : Expr} (h : n.budget content = .error snag) : snag.Arises := by
  have same := budget_error_needle h
  right
  exact ⟨content, by rwa [same]⟩

theorem arises_follows :
    Craft.Follows craft craft .marker (· = ·) (fun snag _ => snag.Arises) (fun _ => False) where
  count := by
    rintro n _ rfl
    rfl
  work := by
    rintro s n _ rfl
    exact Craft.matched_self (fun _ => rfl) fun snag h => arises_of_act (a := .work s) h
  mark := by
    rintro action n _ rfl
    exact Craft.matched_self (fun _ => rfl) fun snag h => arises_of_act (a := .mark action) h
  budget := by
    rintro content n _ rfl
    rw [content.replaceMarkers_marker]
    exact Craft.matched_self (fun _ => ⟨rfl, rfl⟩) fun snag h => arises_of_budget h

theorem arises_of_expand (e : Expr) (n : Needle) (snag : Snag) (h : e.expand n = .error snag) :
    snag.Arises := by
  have matched := arises_follows.expand e (rfl : n = n)
  rw [e.replaceMarkers_marker, show craft.expand e n = .error snag from h] at matched
  cases matched with
  | stop arises => exact arises
  | excused never => exact never.elim

/-- A row stops at a snag of its expressions, or where it ends short of the row below or beyond. -/
theorem workRow_eq_error {content : List Expr} (h : n.workRow content = .error snag) :
    snag.Arises ∨ ∃ expected, snag.needle.available = some expected ∧
      expected ≠ snag.needle.row.advance ∧
      snag.fault = .countMismatch snag.needle.place expected snag.needle.row.advance := by
  rw [workRow_eq] at h
  cases worked : Expr.expandAll content n with
  | error other =>
    rw [worked] at h
    cases h
    exact .inl (arises_of_expand (.group content) n snag worked)
  | ok done =>
    rw [worked] at h
    dsimp only at h
    cases below : done.available with
    | none =>
      rw [below] at h
      cases h
    | some expected =>
      rw [below] at h
      by_cases whole : expected = done.row.advance
      · simp only [whole, if_true] at h
        cases h
      · simp only [whole, if_false] at h
        cases h
        exact .inr ⟨expected, below, whole, rfl⟩

theorem actAll_of_snag {content : List Expr} (h : n.workRow content = .error snag) :
    n.actAll (Expr.doneAll content n) = .ok snag.needle := by
  have acted := Expr.actAll_done (.group content) n
  rw [Expr.done, Expr.expand_group, ← reached_workRow, h] at acted
  exact acted

/-- The cursor stands behind the stitches so far, which the previous row has and for which the row
has room. -/
structure OnCourse (n : Needle) : Prop where
  column : n.column = 1 + Stitch.totalAdvance n.row.stitches
  within : ∀ available ∈ n.available, n.worked ≤ available
  short : n.count ≤ rowLimit

theorem OnCourse.append {s : Stitch} (h : n.OnCourse) (admits : n.Admits s) :
    (n.append s).OnCourse where
  column := by
    rw [stitches_append, Stitch.totalAdvance_append, Needle.append, h.column]
    simp [Nat.add_assoc]
  within available some := by
    have worked : (n.append s).worked = n.worked + s.advance := by
      simp only [Needle.worked, Needle.append, h.column]
      omega
    rw [worked]
    exact admits.fits available some
  short := admits.room

theorem onCourse_of_act {a : Action} {m : Needle} (h : n.act a = .ok m) (hn : n.OnCourse) :
    m.OnCourse := by
  cases a with
  | work s =>
    obtain ⟨admits, rfl⟩ := work_eq_ok_iff.1 h
    exact hn.append admits
  | mark a =>
    rw [eq_withMarkers_of_mark h]
    exact ⟨hn.column, hn.within, hn.short⟩

theorem onCourse_of_snag {content : List Expr} (hn : n.OnCourse)
    (h : n.workRow content = .error snag) : snag.needle.OnCourse :=
  actAll_keeps (fun _ _ _ => onCourse_of_act) (actAll_of_snag h) hn

end Needle

/-- What a fault says of the needle at which it arose, over a row of the weight `below`. -/
def Fault.Truthful (below : Option Nat) (n : Needle) : Fault → Prop
  | .budgetExceeded p available required =>
    below = some available ∧ p.column - 1 ≤ available ∧ available < required
  | .countMismatch p expected received =>
    below = some expected ∧ received = p.column - 1 ∧ received < expected
  | .rowTooLong _ => n.row.stitches.length = 100000
  | .zeroAdvanceRepeat _ => ∃ weight, below = some weight
  | .noPreviousRow _ => below = none
  | .markerNotFound _ name => n.markers.get? name = none

namespace Needle

variable {n : Needle} {snag : Snag}

/-- A snag names the place of its needle, and what its fault says is true there. -/
theorem truthful_of_arises (course : snag.needle.OnCourse) (h : snag.Arises) :
    snag.fault.place = snag.needle.place ∧
      snag.fault.Truthful snag.needle.available snag.needle := by
  obtain ⟨a, failed⟩ | ⟨content, failed⟩ := h
  · cases a with
    | work s =>
      obtain ⟨full, tooLong⟩ | ⟨available, below, beyond, exceeded⟩ := work_eq_error failed
      · rw [tooLong]
        refine ⟨rfl, ?_⟩
        rw [Fault.Truthful, length_row]
        exact Nat.le_antisymm course.short full
      · rw [exceeded]
        exact ⟨rfl, below, course.within available below, beyond⟩
    | mark a =>
      obtain ⟨name, absent, missing⟩ := mark_eq_error failed
      rw [missing]
      exact ⟨rfl, absent⟩
  · obtain ⟨below, noRow⟩ | ⟨available, below, still⟩ := budget_eq_error failed
    · rw [noRow]
      exact ⟨rfl, below⟩
    · rw [still]
      exact ⟨rfl, available, below⟩

/-- The fault of a row names the place at which working the row stopped, and what it says is true
there. -/
theorem truthful_of_workRow {content : List Expr} (hn : n.OnCourse)
    (h : n.workRow content = .error snag) :
    snag.fault.place = snag.needle.place ∧ snag.fault.Truthful n.available snag.needle := by
  have course := onCourse_of_snag hn h
  have extended := extends_workRow content n
  rw [h, reached_error] at extended
  rw [← extended.available]
  obtain arises | ⟨expected, below, unequal, mismatch⟩ := workRow_eq_error h
  · exact truthful_of_arises course arises
  · rw [mismatch]
    have received : snag.needle.row.advance = snag.needle.place.column - 1 := by
      have column : snag.needle.place.column = 1 + snag.needle.row.advance := course.column
      omega
    refine ⟨rfl, below, received, ?_⟩
    -- an overrun would have stopped the row at the stitch that made it
    have within : snag.needle.row.advance ≤ expected := by
      rw [received]
      exact course.within expected below
    omega

end Needle
end Knitting
