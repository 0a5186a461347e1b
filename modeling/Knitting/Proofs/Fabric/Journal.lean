import Knitting.Proofs.Fabric.Joined
import Knitting.Proofs.Fabric.Rows
import Knitting.Proofs.Fabric.Verdict
import Knitting.Proofs.Row.Markers

/-! # The journal of a fabric

Next to the rows of a fabric one can keep a journal: of every worked row, the single actions that
were done for it. The markers of the fabric are no more than the journal tells. A marker is where
the last action on it placed it, in a row that is still there.
-/
namespace Knitting

/-- The last member of a list with a property, and the members before it. -/
def LastWith {α : Type} (P : α → Prop) (as before : List α) (a : α) : Prop :=
  ∃ after, as = before ++ a :: after ∧ P a ∧ ∀ b ∈ after, ¬P b

theorem lastWith_concat {α : Type} {P : α → Prop} {as before : List α} {a last : α} :
    LastWith P (as ++ [last]) before a ↔
      (P last ∧ before = as ∧ a = last) ∨ (¬P last ∧ LastWith P as before a) := by
  constructor
  · rintro ⟨after, split, ha, later⟩
    rcases List.eq_nil_or_concat after with rfl | ⟨front, c, rfl⟩
    · obtain ⟨rfl, same⟩ := List.append_inj' split rfl
      cases same
      exact .inl ⟨ha, rfl, rfl⟩
    · have split : as ++ [last] = (before ++ a :: front) ++ [c] := by simpa using split
      obtain ⟨rfl, same⟩ := List.append_inj' split rfl
      cases same
      exact .inr ⟨later last (by simp), front, rfl, ha, fun b hb => later b (by simp [hb])⟩
  · rintro (⟨hlast, rfl, rfl⟩ | ⟨hlast, after, rfl, ha, later⟩)
    · exact ⟨[], rfl, hlast, by simp⟩
    · refine ⟨after ++ [last], by simp, ha, fun b hb => ?_⟩
      rcases List.mem_append.1 hb with hb | hb
      · exact later b hb
      · rwa [List.mem_singleton.1 hb]

def Action.Touches (name : Char) : Action → Prop
  | .work _ => False
  | .mark a => a.name = name

def StitchRow.placeBehind (r : StitchRow) (count : Nat) : Place :=
  ⟨r.number, 1 + Stitch.totalAdvance (r.stitches.take count)⟩

/-- A row that was worked, and the actions that were done for it. -/
structure Entry where
  row : StitchRow
  actions : List Action

namespace Entry

def Touches (name : Char) (e : Entry) : Prop := ∃ a ∈ e.actions, a.Touches name

theorem touches_of_lastWith {name : Char} {e : Entry} {before : List Action} {a : Action}
    (h : LastWith (Action.Touches name) e.actions before a) : e.Touches name := by
  obtain ⟨after, split, touched, -⟩ := h
  exact ⟨a, by simp [split], touched⟩

/-- The stitches worked before an action are the first of the row. -/
theorem placeBehind_of_lastWith {P : Action → Prop} {e : Entry} {before : List Action} {a : Action}
    (stitches : e.row.stitches = Action.stitches e.actions) (h : LastWith P e.actions before a) :
    e.row.placeBehind (Action.stitches before).length =
      ⟨e.row.number, 1 + Stitch.totalAdvance (Action.stitches before)⟩ := by
  obtain ⟨after, split, -⟩ := h
  rw [StitchRow.placeBehind, stitches, split, Action.stitches_append, List.take_left]

end Entry

namespace Needle

theorem actAll_concat_eq_ok_iff {as : List Action} {a : Action} {n m : Needle} :
    n.actAll (as ++ [a]) = .ok m ↔ ∃ k, n.actAll as = .ok k ∧ k.act a = .ok m := by
  cases h : n.actAll as with
  | ok k => simp [actAll_append_of_ok h, actAll_singleton]
  | error snag =>
    rw [actAll] at h
    simp [actAll, visit_append, h]

/-- Actions add their stitches to the row, and move the cursor by what these work. -/
theorem row_of_actAll {as : List Action} {n m : Needle} (h : n.actAll as = .ok m) :
    m.number = n.number ∧ m.column = n.column + Stitch.totalAdvance (Action.stitches as) ∧
      m.row.stitches = n.row.stitches ++ Action.stitches as := by
  induction as using List.reverseRecOn generalizing m with
  | nil =>
    cases h
    simp
  | append_singleton as a ih =>
    obtain ⟨k, done, hact⟩ := actAll_concat_eq_ok_iff.1 h
    obtain ⟨number, column, stitches⟩ := ih done
    cases a with
    | work s =>
      obtain ⟨-, rfl⟩ := work_eq_ok_iff.1 hact
      refine ⟨number, ?_, ?_⟩
      · simp [append, column, Nat.add_assoc]
      · simp [stitches]
    | mark a =>
      rw [eq_withMarkers_of_mark hact]
      simpa using ⟨number, column, stitches⟩

/-- A marker is where the last action on it placed it, or where it was before the actions. -/
theorem get?_of_actAll {as : List Action} {n m : Needle} (h : n.actAll as = .ok m) (name : Char)
    (p : Place) :
    m.markers.get? name = some p ↔
      (∃ before, LastWith (Action.Touches name) as before (.mark (.place name)) ∧
        p = ⟨n.number, n.column + Stitch.totalAdvance (Action.stitches before)⟩) ∨
      ((∀ a ∈ as, ¬a.Touches name) ∧ n.markers.get? name = some p) := by
  induction as using List.reverseRecOn generalizing m with
  | nil =>
    cases h
    simp [LastWith]
  | append_singleton as a ih =>
    obtain ⟨k, done, hact⟩ := actAll_concat_eq_ok_iff.1 h
    obtain ⟨number, column, -⟩ := row_of_actAll done
    have earlier := ih done
    simp only [lastWith_concat, List.forall_mem_append, List.forall_mem_singleton]
    by_cases touched : a.Touches name
    · cases a with
      | work s => exact touched.elim
      | mark a =>
        have here := get?_of_mark hact name
        rw [if_pos touched.symm] at here
        cases a with
        | place other =>
          cases touched
          rw [here, MarkerAction.leaves, Needle.place, number, column]
          simp [Action.Touches, MarkerAction.name, eq_comm]
        | remove other =>
          simp [here, MarkerAction.leaves, touched]
    · have same : m.markers.get? name = k.markers.get? name := by
        cases a with
        | work s =>
          obtain ⟨-, rfl⟩ := work_eq_ok_iff.1 hact
          rfl
        | mark a =>
          rw [get?_of_mark hact name, if_neg (Ne.symm touched)]
      rw [same, earlier]
      simp [touched]

theorem actAll_of_workRow {content : List Expr} {n done : Needle}
    (h : n.workRow content = .ok done) : n.actAll (Expr.doneAll content n) = .ok done := by
  have acted := Expr.actAll_done (.group content) n
  rw [Expr.done, Expr.expand_group, (workRow_eq_ok_iff.1 h).1] at acted
  exact acted

end Needle

namespace Fabric

/-- The entries for the rows that are worked when rows are added in turn. -/
def journal (f : Fabric) : List Row → List Entry
  | [] => []
  | r :: rows =>
    match f.needle.workRow r.content with
    | .ok done => ⟨done.row, Expr.doneAll r.content f.needle⟩ :: (f.addRow r).1.journal rows
    | .error _ => (f.addRow r).1.journal rows

theorem journal_append (f : Fabric) (rows more : List Row) :
    f.journal (rows ++ more) = f.journal rows ++ (f.addRows rows).journal more := by
  induction rows generalizing f with
  | nil => rfl
  | cons r rows ih =>
    rw [List.cons_append, journal, journal, addRows_cons, ih]
    cases f.needle.workRow r.content <;> rfl

/-- What one more row does to fabric and journal. -/
theorem journal_singleton_cases (f : Fabric) (r : Row) :
    (∃ e done, f.journal [r] = [e] ∧ f.needle.actAll e.actions = .ok done ∧ e.row = done.row ∧
      (f.addRow r).1.rows = f.rows.push done.row ∧ (f.addRow r).1.markers = done.markers) ∨
    (f.journal [r] = [] ∧ (f.addRow r).1.rows = f.rows ∧
      (f.addRow r).1.markers = f.markers) := by
  obtain ⟨done, worked, hadd⟩ | ⟨snag, worked, hadd⟩ := f.addRow_cases r
  · left
    refine ⟨⟨done.row, Expr.doneAll r.content f.needle⟩, done, ?_,
      Needle.actAll_of_workRow worked, rfl, ?_, ?_⟩
    · rw [journal, worked]
      rfl
    · rw [hadd]
    · rw [hadd]
  · right
    refine ⟨?_, ?_, ?_⟩
    · rw [journal, worked]
      rfl
    · rw [hadd]
    · rw [hadd]

/-- The journal goes through the rows of the fabric. -/
theorem row_journal (f : Fabric) (rows : List Row) :
    (f.addRows rows).rows.toList = f.rows.toList ++ (f.journal rows).map Entry.row := by
  induction rows using List.reverseRecOn with
  | nil => simp [journal]
  | append_singleton rows r ih =>
    rw [addRows_append, addRows_cons, addRows_nil, journal_append]
    obtain ⟨e, done, one, -, row, pushed, -⟩ | ⟨none, same, -⟩ :=
      (f.addRows rows).journal_singleton_cases r
    · simp [one, row, pushed, ih]
    · simp [none, same, ih]

theorem stitches_of_entry {f : Fabric} {e : Entry} {done : Needle}
    (acted : f.needle.actAll e.actions = .ok done) (row : e.row = done.row) :
    e.row.stitches = Action.stitches e.actions := by
  obtain ⟨-, -, stitches⟩ := Needle.row_of_actAll acted
  rw [row, stitches]
  rfl

theorem stitches_journal (f : Fabric) (rows : List Row) :
    ∀ e ∈ f.journal rows, e.row.stitches = Action.stitches e.actions := by
  induction rows using List.reverseRecOn with
  | nil => simp [journal]
  | append_singleton rows r ih =>
    rw [journal_append, List.forall_mem_append]
    refine ⟨ih, ?_⟩
    obtain ⟨e, done, one, acted, row, -⟩ | ⟨none, -⟩ :=
      (f.addRows rows).journal_singleton_cases r
    · rw [one, List.forall_mem_singleton]
      exact stitches_of_entry acted row
    · simp [none]

/-- A marker is where the actions for a row placed it last, or where it was before the row. -/
theorem get?_of_entry {f : Fabric} {e : Entry} {done : Needle}
    (acted : f.needle.actAll e.actions = .ok done) (row : e.row = done.row) (name : Char)
    (p : Place) :
    done.markers.get? name = some p ↔
      (∃ before, LastWith (Action.Touches name) e.actions before (.mark (.place name)) ∧
        p = e.row.placeBehind (Action.stitches before).length) ∨
      (¬e.Touches name ∧ f.markers.get? name = some p) := by
  have number := (Needle.row_of_actAll acted).1
  have untouched : (∀ a ∈ e.actions, ¬a.Touches name) ↔ ¬e.Touches name := by
    simp [Entry.Touches]
  rw [Needle.get?_of_actAll acted name p, untouched]
  refine or_congr (exists_congr fun before => and_congr_right fun last => ?_) Iff.rfl
  rw [Entry.placeBehind_of_lastWith (stitches_of_entry acted row) last, row, ← number]
  rfl

/-- A marker is where the last row that touches it placed it last, or where it was before the
rows. -/
theorem get?_addRows (f : Fabric) (rows : List Row) (name : Char) (p : Place) :
    (f.addRows rows).markers.get? name = some p ↔
      (∃ earlier e before, LastWith (Entry.Touches name) (f.journal rows) earlier e ∧
        LastWith (Action.Touches name) e.actions before (.mark (.place name)) ∧
        p = e.row.placeBehind (Action.stitches before).length) ∨
      ((∀ e ∈ f.journal rows, ¬e.Touches name) ∧ f.markers.get? name = some p) := by
  induction rows using List.reverseRecOn with
  | nil => simp [journal, LastWith]
  | append_singleton rows r ih =>
    rw [addRows_append, addRows_cons, addRows_nil, journal_append]
    obtain ⟨e, done, one, acted, row, -, markers⟩ | ⟨none, -, same⟩ :=
      (f.addRows rows).journal_singleton_cases r
    · rw [one, markers, get?_of_entry acted row name p]
      simp only [lastWith_concat, List.forall_mem_append, List.forall_mem_singleton]
      by_cases touched : e.Touches name
      · -- the last row touches the marker, so the rows before it do not matter
        simp [touched]
      · have never : ∀ before a, ¬LastWith (Action.Touches name) e.actions before a :=
          fun before a last => touched (Entry.touches_of_lastWith last)
        simp [never, touched, ih]
    · rw [same, none, List.append_nil]
      exact ih

def journalOf (policy : Policy) (calls : List Call) : List Entry :=
  Fabric.empty.journal (Fabric.empty.begunIn policy calls)

/-- After every run, under either policy, the markers are what the journal of the worked rows tells,
whatever rows had faults in between. The journal goes through the rows of the fabric in their order,
and the stitches of a row are those among the actions done for it. A marker is there exactly if the
last action on it, in the last row that has one, places it. It is then in that row, behind the
stitches that the row had when the action was done. -/
theorem markers_told_by_journal (policy : Policy) (calls : List Call) :
    (journalOf policy calls).map Entry.row = (run policy calls).rows.toList ∧
    (∀ e ∈ journalOf policy calls, e.row.stitches = Action.stitches e.actions) ∧
    ∀ name p, (run policy calls).markers.get? name = some p ↔
      ∃ earlier e before, LastWith (Entry.Touches name) (journalOf policy calls) earlier e ∧
        LastWith (Action.Touches name) e.actions before (.mark (.place name)) ∧
        p = e.row.placeBehind (Action.stitches before).length := by
  rw [run_eq_addRows, journalOf]
  refine ⟨?_, stitches_journal .empty _, fun name p => ?_⟩
  · rw [row_journal]
    simp [Fabric.empty]
  · have none : Fabric.empty.markers.get? name ≠ some p := by
      intro h
      cases h
    rw [get?_addRows, or_iff_left fun h => none h.2]

end Fabric
end Knitting
