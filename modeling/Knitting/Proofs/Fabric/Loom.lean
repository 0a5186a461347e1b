import Knitting.Fabric.Loom
import Knitting.Proofs.Fabric.Rows

/-! # Loom and fabric

Whatever is worked on them, loom and fabric come to the same: there is a row on the loom whenever
one is looked for, and none between two rows. So a row is worked as a whole or leaves nothing.
-/
namespace Knitting
namespace Loom

def settled : Except Stop Loom → Loom
  | .ok l => l
  | .error stop => stop.loom

def call (policy : Policy) (l : Loom) : Call → Loom
  | .row r => (l.addRow r).1
  | .block b => settled (b.visitRows (tryRow policy) l)
  | .part s => settled (l.addSection policy s)
  | .pattern sections => settled (visit (addSection policy) sections l)

def run (policy : Policy) (calls : List Call) : Loom := calls.foldl (call policy) {}

/-- The loom with a fabric on it and no row being worked. -/
def resting (f : Fabric) (column : Nat) : Loom where
  rows := f.rows
  markers := f.markers
  refusals := f.faults.map .fault
  cursor := ⟨f.attempted, column⟩

/-- The loom with a fabric on it and a needle in the row being worked. -/
def working (f : Fabric) (n : Needle) : Loom where
  rows := f.rows
  markers := f.markers
  refusals := f.faults.map .fault
  cursor := n.place
  current := some ⟨n.row, n.markers⟩

def stopped (f : Fabric) (snag : Snag) : Stop := ⟨.fault snag.fault, working f snag.needle⟩

/-- The needle knows the weight of the row below. -/
def Fits (f : Fabric) (n : Needle) : Prop := n.available = f.previous.map StitchRow.weight

variable {f : Fabric} {n : Needle}

theorem Fits.extends {m : Needle} (h : Fits f n) (hm : n.Extends m) : Fits f m :=
  hm.available.trans h

@[simp] theorem current_working : (working f n).current = some ⟨n.row, n.markers⟩ := rfl

@[simp] theorem previous_working : (working f n).previous = f.previous := rfl

@[simp] theorem cursor_working : (working f n).cursor = n.place := rfl

@[simp] theorem append_working (s : Stitch) :
    (working f n).append ⟨n.row, n.markers⟩ s = working f (n.append s) := by
  simp [append, working, Needle.place, Needle.append, Needle.row]

@[simp] theorem stitchCount_working : (working f n).stitchCount = n.count := n.length_row

theorem work_working (h : Fits f n) (s : Stitch) :
    (working f n).work s = Craft.carried (working f) (stopped f) (n.work s) := by
  simp only [work, Needle.work, current_working, previous_working, cursor_working,
    Needle.length_row]
  split
  · rfl
  · rw [h]
    cases f.previous with
    | none => simp [Craft.carried]
    | some below =>
      by_cases beyond : below.weight < n.column - 1 + s.advance
      · simp [beyond, Needle.worked, Needle.place, Craft.carried, stopped]
      · simp [beyond, Needle.worked, Needle.place, Craft.carried]

theorem mark_working (a : MarkerAction) :
    (working f n).mark a = Craft.carried (working f) (stopped f) (n.mark a) := by
  cases a with
  | place name => rfl
  | remove name =>
    simp only [mark, Needle.mark, current_working]
    cases n.markers.get? name <;> rfl

/-- The loom follows the needle; there is always a row on it for the next stitch. -/
theorem follows_needle (f : Fabric) :
    Craft.Follows Needle.craft craft .marker (fun n l => l = working f n ∧ Fits f n)
      (fun snag stop => stop = stopped f snag) (fun _ => False) where
  count := by
    rintro n _ ⟨rfl, -⟩
    exact stitchCount_working (f := f)
  work := by
    rintro s n _ ⟨rfl, fits⟩
    exact Craft.matched_of_carried (work_working fits s) fun m worked =>
      fits.extends (Needle.extends_of_act (a := .work s) worked)
  mark := by
    rintro action n _ ⟨rfl, fits⟩
    exact Craft.matched_of_carried (mark_working action) fun m worked =>
      fits.extends (Needle.extends_of_act (a := .mark action) worked)
  budget := by
    rintro content n _ ⟨rfl, fits⟩
    rw [content.replaceMarkers_marker]
    refine Craft.matched_budget ?_ rfl rfl rfl rfl
    exact congrArg (Option.map Tally.toNat) fits

theorem workRow_working (h : Fits f n) (content : List Expr) :
    craft.workRow content (working f n) =
      Craft.carried (working f) (stopped f) (n.workRow content) := by
  have matched := (follows_needle f).workRow
    (by
      rintro n _ ⟨rfl, -⟩
      exact .ok rfl)
    (by
      rintro n _ ⟨rfl, fits⟩
      exact congrArg (Option.map Tally.toNat) fits)
    (by
      rintro n _ ⟨rfl, -⟩ expected received
      rfl)
    content (a := n) (b := working f n) ⟨rfl, h⟩
  rw [Expr.replaceAllMarkers_eq_self fun e _ => e.replaceMarkers_marker] at matched
  exact matched.eq_carried (fun _ _ reached => reached.1) fun _ _ stop => stop

theorem openRow_resting (column : Nat) : (resting f column).openRow = working f f.needle := rfl

theorem fits_needle (f : Fabric) : Fits f f.needle := rfl

/-- A row worked on the loom is a row worked on the fabric. -/
theorem addRow_resting (f : Fabric) (column : Nat) (r : Row) :
    ∃ after, (resting f column).addRow r =
      (resting (f.addRow r).1 after, (f.addRow r).2.map .fault) := by
  have extended := Needle.extends_workRow r.content f.needle
  rw [addRow, openRow_resting, workRow_working (fits_needle f)]
  obtain ⟨done, worked, hadd⟩ | ⟨snag, worked, hadd⟩ := f.addRow_cases r
  · rw [worked] at extended ⊢
    have number : done.number = f.attempted + 1 := extended.number
    refine ⟨done.column, ?_⟩
    rw [hadd]
    simp [Craft.carried, sealRow, working, resting, Needle.place, number]
  · rw [worked] at extended ⊢
    have number : snag.needle.number = f.attempted + 1 := extended.number
    refine ⟨snag.needle.column, ?_⟩
    rw [hadd]
    simp [Craft.carried, stopped, working, resting, Needle.place, number]

/-- The loom has the fabric on it, and no row is being worked. -/
def Holds (l : Loom) (f : Fabric) : Prop := ∃ column, l = resting f column

/-- Results of one and the same work on a loom and on a fabric. -/
def SameEnd : Except Stop Loom → Except Halt Fabric → Prop
  | .ok l, .ok f => l.Holds f
  | .error stop, .error halt => stop.refusal = .fault halt.fault ∧ stop.loom.Holds halt.fabric
  | _, _ => False

theorem SameEnd.settled {result : Except Stop Loom} {result' : Except Halt Fabric}
    (h : SameEnd result result') : (settled result).Holds (Fabric.settled result') := by
  cases result <;> cases result'
  · exact h.2
  · exact h.elim
  · exact h.elim
  · exact h

theorem sameEnd_tryRow (policy : Policy) {l : Loom} (h : l.Holds f) (r : Row) :
    SameEnd (l.tryRow policy r) (f.tryRow policy r) := by
  obtain ⟨column, rfl⟩ := h
  obtain ⟨after, hadd⟩ := addRow_resting f column r
  unfold tryRow Fabric.tryRow
  rw [hadd]
  rcases f.addRow r with ⟨next, _ | fault⟩
  · exact ⟨after, rfl⟩
  · cases policy
    · exact ⟨rfl, after, rfl⟩
    · exact ⟨after, rfl⟩

theorem sameEnd_visit {α : Type} {onLoom : Loom → α → Except Stop Loom}
    {onFabric : Fabric → α → Except Halt Fabric}
    (step : ∀ l f a, l.Holds f → SameEnd (onLoom l a) (onFabric f a)) (as : List α) {l : Loom}
    {f : Fabric} (h : l.Holds f) : SameEnd (visit onLoom as l) (visit onFabric as f) := by
  induction as generalizing l f with
  | nil => exact h
  | cons a as ih =>
    have first := step l f a h
    simp only [visit]
    cases hl : onLoom l a <;> cases hf : onFabric f a <;> rw [hl, hf] at first
    · exact first
    · exact first.elim
    · exact first.elim
    · exact ih first

theorem holds_call (policy : Policy) {l : Loom} (h : l.Holds f) (c : Call) :
    (l.call policy c).Holds (f.call policy c) := by
  have rows : ∀ (rows : List Row) l f, l.Holds f →
      SameEnd (visit (tryRow policy) rows l) (visit (Fabric.tryRow policy) rows f) :=
    fun rows _ _ => sameEnd_visit (fun _ _ r h => sameEnd_tryRow policy h r) rows
  have part : ∀ l f s, l.Holds f →
      SameEnd (addSection policy l s) (Fabric.addSection policy f s) := by
    intro l f s h
    rw [addSection, Fabric.addSection, s.visitRows_eq_unrolled, s.visitRows_eq_unrolled]
    exact rows s.unrolled l f h
  cases c with
  | row r =>
    obtain ⟨column, rfl⟩ := h
    obtain ⟨after, hadd⟩ := addRow_resting f column r
    exact ⟨after, congrArg Prod.fst hadd⟩
  | block b =>
    rw [call, Fabric.call, Fabric.addBlock, b.visitRows_eq_unrolled, b.visitRows_eq_unrolled]
    exact (rows b.unrolled l f h).settled
  | part s => exact (part l f s h).settled
  | pattern sections => exact (sameEnd_visit part sections h).settled

/-- Loom and fabric come to the same with every run of calls. -/
theorem holds_run (policy : Policy) (calls : List Call) :
    (run policy calls).Holds (Fabric.run policy calls) := by
  have start : ({} : Loom).Holds .empty := ⟨1, by simp [resting, Fabric.empty]⟩
  unfold run Fabric.run
  generalize ({} : Loom) = l, Fabric.empty = f at start ⊢
  induction calls generalizing l f with
  | nil => exact start
  | cons c calls ih => exact ih _ _ (holds_call policy start c)

theorem Holds.current {l : Loom} (h : l.Holds f) : l.current = none := by
  obtain ⟨column, rfl⟩ := h
  rfl

theorem Holds.active {l : Loom} (h : l.Holds f) : .noActiveRow ∉ l.refusals := by
  obtain ⟨column, rfl⟩ := h
  simp [resting]

end Loom

namespace Fabric

theorem run_append (policy : Policy) (calls more : List Call) :
    run policy (calls ++ more) = more.foldl (call policy) (run policy calls) := List.foldl_append

theorem grows_run (policy : Policy) (calls more : List Call) :
    (run policy calls).Grows (run policy (calls ++ more)) := by
  rw [run_append]
  exact List.foldlRecOn more (call policy) (.refl _) fun _ grown c _ =>
    call_keeps (fun g r grown => grown.trans (g.grows_addRow r)) policy c grown

/-- After every run, under either policy, a row is worked as a whole or leaves nothing: a fault
leaves rows and markers as they were and is recorded behind those before it, and a row that is
worked comes on top of the others and records nothing. So rows and faults only grow at their ends.
On the loom, no row is left over either way, and no stitch ever misses the row that it belongs
to. -/
theorem row_whole_or_nothing (policy : Policy) (calls : List Call) (r : Row) :
    (match (run policy calls).addRow r with
      | (after, some fault) =>
        after.rows = (run policy calls).rows ∧ after.previous = (run policy calls).previous ∧
          after.markers = (run policy calls).markers ∧
          after.faults = (run policy calls).faults.push fault
      | (after, none) =>
        after.faults = (run policy calls).faults ∧
          ∃ row, after.rows = (run policy calls).rows.push row) ∧
    (∀ more, (run policy calls).Grows (run policy (calls ++ more))) ∧
    (Loom.run policy calls).Holds (run policy calls) ∧
    ((Loom.run policy calls).addRow r).1.Holds ((run policy calls).addRow r).1 ∧
    ((Loom.run policy calls).addRow r).2 = ((run policy calls).addRow r).2.map .fault ∧
    (Loom.run policy calls).current = none ∧
    ((Loom.run policy calls).addRow r).1.current = none ∧
    ((Loom.run policy calls).addRow r).2 ≠ some .noActiveRow ∧
    .noActiveRow ∉ ((Loom.run policy calls).addRow r).1.refusals := by
  obtain ⟨column, loom⟩ := Loom.holds_run policy calls
  have before : (Loom.run policy calls).Holds (run policy calls) := ⟨column, loom⟩
  obtain ⟨column', worked⟩ := Loom.addRow_resting (run policy calls) column r
  rw [← loom] at worked
  have after : ((Loom.run policy calls).addRow r).1.Holds ((run policy calls).addRow r).1 :=
    ⟨column', congrArg Prod.fst worked⟩
  have result := congrArg Prod.snd worked
  refine ⟨?_, grows_run policy calls, before, after, result, before.current, after.current, ?_,
    after.active⟩
  · obtain ⟨done, -, hadd⟩ | ⟨snag, -, hadd⟩ := (run policy calls).addRow_cases r
    · rw [hadd]
      exact ⟨rfl, done.row, rfl⟩
    · rw [hadd]
      exact ⟨rfl, rfl, rfl, rfl⟩
  · rw [result]
    cases ((run policy calls).addRow r).2 <;> simp

end Fabric

end Knitting
