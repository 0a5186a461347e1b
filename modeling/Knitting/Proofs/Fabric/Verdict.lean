import Knitting.Proofs.Fabric.Calls
import Knitting.Proofs.Row.Written
import Mathlib.Data.List.Induction

/-! # What becomes of a row

The actions of a counted row tell what becomes of it: whether it is worked, and with which stitches,
or which fault it has. Nothing but the fabric below and the list of actions decides.
-/
namespace Knitting
namespace Action

def stitch? : Action → Option Stitch
  | .work s => some s
  | .mark _ => none

def stitches (as : List Action) : List Stitch := as.filterMap stitch?

/-- Whether a marker is on the needle after an action, by whether it was there before. -/
def keeps (name : Char) (present : Bool) : Action → Bool
  | .work _ => present
  | .mark (.place other) => if name = other then true else present
  | .mark (.remove other) => if name = other then false else present

def present (markers : MarkerTable) (as : List Action) (name : Char) : Bool :=
  as.foldl (keeps name) (markers.get? name).isSome

@[simp] theorem stitches_nil : stitches [] = [] := rfl

@[simp] theorem stitches_append (as bs : List Action) :
    stitches (as ++ bs) = stitches as ++ stitches bs := List.filterMap_append

@[simp] theorem stitches_work (s : Stitch) (as : List Action) :
    stitches (.work s :: as) = s :: stitches as := rfl

@[simp] theorem stitches_mark (a : MarkerAction) (as : List Action) :
    stitches (.mark a :: as) = stitches as := rfl

theorem stitches_map_work (ss : List Stitch) : stitches (ss.map .work) = ss := by
  induction ss with
  | nil => rfl
  | cons s ss ih => rw [List.map_cons, stitches_work, ih]

@[simp] theorem present_concat (markers : MarkerTable) (as : List Action) (a : Action)
    (name : Char) : present markers (as ++ [a]) name = keeps name (present markers as name) a := by
  simp [present]

end Action

open Knitting.Action

@[simp] theorem Stitch.totalAdvance_concat (ss : List Stitch) (s : Stitch) :
    totalAdvance (ss ++ [s]) = totalAdvance ss + s.advance := by
  simp [totalAdvance_append]

namespace Fabric

def placeAfter (f : Fabric) (as : List Action) : Place :=
  ⟨f.attempted + 1, 1 + Stitch.totalAdvance (stitches as)⟩

/-- What keeps an action from being done in the next row, behind the actions `before`. -/
def obstacle? (f : Fabric) (before : List Action) : Action → Option Fault
  | .work s =>
    if rowLimit ≤ (stitches before).length then some (.rowTooLong (f.placeAfter before))
    else
      match f.previous with
      | none => none
      | some below =>
        let required := Stitch.totalAdvance (stitches before) + s.advance
        if below.weight < required then
          some (.budgetExceeded (f.placeAfter before) below.weight required)
        else none
  | .mark (.place _) => none
  | .mark (.remove name) =>
    if present f.markers before name then none
    else some (.markerNotFound (f.placeAfter before) name)

/-- Each of the actions can be done in the next row, behind those before it. -/
def Clear (f : Fabric) (as : List Action) : Prop :=
  ∀ before a after, as = before ++ a :: after → f.obstacle? before a = none

theorem clear_nil (f : Fabric) : f.Clear [] := by
  intro before a after h
  simp at h

theorem clear_concat {f : Fabric} {as : List Action} {a : Action} :
    f.Clear (as ++ [a]) ↔ f.Clear as ∧ f.obstacle? as a = none := by
  constructor
  · intro clear
    refine ⟨fun before b after h => ?_, clear as a [] rfl⟩
    exact clear before b (after ++ [a]) (by rw [h, List.append_assoc, List.cons_append])
  · rintro ⟨clear, last⟩ before b after h
    -- the last action is `b` itself, or it is behind `b` and `b` is one of the others
    rcases List.eq_nil_or_concat after with rfl | ⟨front, c, rfl⟩
    · obtain ⟨rfl, same⟩ := List.append_inj' h rfl
      cases same
      exact last
    · have h : as ++ [a] = (before ++ b :: front) ++ [c] := by simpa using h
      exact clear before b front (List.append_inj' h rfl).1

/-- The needle of the next row after actions have been done. -/
structure Comes (f : Fabric) (as : List Action) (n : Needle) : Prop where
  number : n.number = f.attempted + 1
  available : n.available = f.previous.map StitchRow.weight
  column : n.column = 1 + Stitch.totalAdvance (stitches as)
  stitches : n.row.stitches = stitches as
  markers : ∀ name, (n.markers.get? name).isSome = present f.markers as name

namespace Comes

variable {f : Fabric} {as : List Action} {n : Needle}

theorem needle (f : Fabric) : f.Comes [] f.needle := ⟨rfl, rfl, rfl, rfl, fun _ => rfl⟩

theorem place (h : f.Comes as n) : n.place = f.placeAfter as := by
  rw [Needle.place, placeAfter, h.number, h.column]

theorem count (h : f.Comes as n) : n.count = (Action.stitches as).length := by
  rw [← h.stitches, n.length_row]

theorem worked (h : f.Comes as n) : n.worked = Stitch.totalAdvance (Action.stitches as) := by
  rw [Needle.worked, h.column]
  omega

theorem append (h : f.Comes as n) (s : Stitch) : f.Comes (as ++ [.work s]) (n.append s) where
  number := h.number
  available := h.available
  column := by simp [Needle.append, h.column, Nat.add_assoc]
  stitches := by simp [h.stitches]
  markers name := by
    rw [present_concat, keeps, ← h.markers name]
    rfl

theorem mark {a : MarkerAction} {m : Needle} (h : f.Comes as n) (hm : n.mark a = .ok m) :
    f.Comes (as ++ [.mark a]) m := by
  have same := Needle.eq_withMarkers_of_mark hm
  have kept := Needle.get?_of_mark hm
  constructor
  · rw [same]
    exact h.number
  · rw [same]
    exact h.available
  · rw [same, stitches_append, stitches_mark, stitches_nil, List.append_nil]
    exact h.column
  · rw [same, stitches_append, stitches_mark, stitches_nil, List.append_nil]
    exact h.stitches
  · intro name
    rw [kept name, present_concat, ← h.markers name]
    cases a with
    | place other => exact apply_ite Option.isSome ..
    | remove other => exact apply_ite Option.isSome ..

/-- An action is done unless there is an obstacle to it, which is then the fault. -/
theorem act (h : f.Comes as n) (a : Action) :
    match f.obstacle? as a with
    | none => ∃ m, n.act a = .ok m ∧ f.Comes (as ++ [a]) m
    | some fault => n.act a = .error ⟨fault, n⟩ := by
  cases a with
  | work s =>
    simp only [obstacle?, Needle.act, Needle.work, h.count, h.available, h.worked, h.place]
    by_cases full : rowLimit ≤ (Action.stitches as).length
    · simp [full]
    · simp only [full, if_false]
      cases f.previous with
      | none => exact ⟨_, rfl, h.append s⟩
      | some below =>
        dsimp only [Option.map_some]
        by_cases beyond :
            below.weight < Stitch.totalAdvance (Action.stitches as) + s.advance
        · simp [beyond]
        · simp only [beyond, if_false]
          exact ⟨_, rfl, h.append s⟩
  | mark a =>
    cases a with
    | place name => exact ⟨_, rfl, h.mark rfl⟩
    | remove name =>
      have found := h.markers name
      simp only [obstacle?, ← found, Needle.act, Needle.mark, h.place]
      cases hget : n.markers.get? name with
      | none => simp
      | some p =>
        have removed : n.mark (.remove name) = .ok { n with markers := n.markers.erase name } := by
          simp only [Needle.mark, hget]
        simp only [Option.isSome_some, if_true]
        exact ⟨_, rfl, h.mark removed⟩

end Comes

/-- Among actions there is no obstacle, or a first one. -/
theorem clear_or_obstacle (f : Fabric) (as : List Action) :
    f.Clear as ∨ ∃ before a after fault, as = before ++ a :: after ∧ f.Clear before ∧
      f.obstacle? before a = some fault := by
  induction as using List.reverseRecOn with
  | nil => exact .inl f.clear_nil
  | append_singleton as a ih =>
    obtain clear | ⟨before, b, after, fault, split, first⟩ := ih
    · cases h : f.obstacle? as a with
      | none => exact .inl (clear_concat.2 ⟨clear, h⟩)
      | some fault => exact .inr ⟨as, a, [], fault, rfl, clear, h⟩
    · refine .inr ⟨before, b, after ++ [a], fault, ?_, first⟩
      rw [split, List.append_assoc, List.cons_append]

theorem actAll_of_clear {f : Fabric} {as : List Action} (clear : f.Clear as) :
    ∃ n, f.needle.actAll as = .ok n ∧ f.Comes as n := by
  induction as using List.reverseRecOn with
  | nil => exact ⟨f.needle, rfl, .needle f⟩
  | append_singleton as a ih =>
    obtain ⟨clear, last⟩ := clear_concat.1 clear
    obtain ⟨n, done, comes⟩ := ih clear
    have next := comes.act a
    rw [last] at next
    rwa [Needle.actAll_append_of_ok done, Needle.actAll_singleton]

theorem actAll_of_obstacle {f : Fabric} {before : List Action} {a : Action} {fault : Fault}
    (clear : f.Clear before) (h : f.obstacle? before a = some fault) (after : List Action) :
    ∃ n, f.needle.actAll (before ++ a :: after) = .error ⟨fault, n⟩ := by
  obtain ⟨n, done, comes⟩ := actAll_of_clear clear
  have next := comes.act a
  rw [h] at next
  refine ⟨n, ?_⟩
  rw [Needle.actAll_append_of_ok done, Needle.actAll, visit, next]

/-- The fault of a row that could do all of its actions but does not meet the row below. -/
def mismatch? (f : Fabric) (as : List Action) : Option Fault :=
  match f.previous with
  | none => none
  | some below =>
    if below.weight = Stitch.totalAdvance (stitches as) then none
    else some (.countMismatch (f.placeAfter as) below.weight (Stitch.totalAdvance (stitches as)))

theorem mismatch?_eq_none_iff {f : Fabric} {as : List Action} :
    f.mismatch? as = none ↔
      ∀ below, f.previous = some below → Stitch.totalAdvance (stitches as) = below.weight := by
  unfold mismatch?
  cases f.previous with
  | none => simp
  | some below => simp [eq_comm]

theorem mismatch?_eq_some_iff {f : Fabric} {as : List Action} {fault : Fault} :
    f.mismatch? as = some fault ↔
      ∃ below, f.previous = some below ∧ Stitch.totalAdvance (stitches as) ≠ below.weight ∧
        fault = .countMismatch (f.placeAfter as) below.weight
          (Stitch.totalAdvance (stitches as)) := by
  unfold mismatch?
  cases f.previous with
  | none => simp
  | some below =>
    simp [eq_comm]

section Row

variable {f : Fabric} {r : Row}

theorem addRow_of_clear (h : Expr.countedAll r.content)
    (clear : f.Clear (Expr.writtenAll r.content)) :
    (f.addRow r).2 = f.mismatch? (Expr.writtenAll r.content) ∧
      (f.mismatch? (Expr.writtenAll r.content) = none → (f.addRow r).1.rows =
        f.rows.push ⟨f.attempted + 1, stitches (Expr.writtenAll r.content)⟩) := by
  obtain ⟨n, done, comes⟩ := actAll_of_clear clear
  have expanded : Expr.expandAll r.content f.needle = .ok n := by
    rw [← done]
    exact Expr.expand_eq_actAll (.group r.content) h f.needle
  have row : n.row = ⟨f.attempted + 1, stitches (Expr.writtenAll r.content)⟩ := by
    rw [← comes.number, ← comes.stitches]
    rfl
  have advance : n.row.advance = Stitch.totalAdvance (stitches (Expr.writtenAll r.content)) := by
    rw [row]
    rfl
  rw [addRow, Needle.workRow_eq, expanded]
  simp only [comes.available, comes.place, advance, mismatch?]
  cases f.previous with
  | none => exact ⟨rfl, fun _ => congrArg f.rows.push row⟩
  | some below =>
    dsimp only [Option.map_some]
    by_cases whole : below.weight = Stitch.totalAdvance (stitches (Expr.writtenAll r.content))
    · simp [whole, row]
    · simp [whole]

theorem addRow_of_obstacle {before after : List Action} {a : Action} {fault : Fault}
    (h : Expr.countedAll r.content) (split : Expr.writtenAll r.content = before ++ a :: after)
    (clear : f.Clear before) (obstacle : f.obstacle? before a = some fault) :
    (f.addRow r).2 = some fault := by
  obtain ⟨n, halted⟩ := actAll_of_obstacle clear obstacle after
  have expanded : Expr.expandAll r.content f.needle = .error ⟨fault, n⟩ := by
    rw [← halted, ← split]
    exact Expr.expand_eq_actAll (.group r.content) h f.needle
  rw [addRow, Needle.workRow_eq, expanded]

theorem addRow_eq_some_iff (h : Expr.countedAll r.content) {fault : Fault} :
    (f.addRow r).2 = some fault ↔
      (∃ before a after, Expr.writtenAll r.content = before ++ a :: after ∧ f.Clear before ∧
        f.obstacle? before a = some fault) ∨
      (f.Clear (Expr.writtenAll r.content) ∧
        f.mismatch? (Expr.writtenAll r.content) = some fault) := by
  constructor
  · intro failed
    obtain clear | ⟨before, a, after, other, split, clear, obstacle⟩ :=
      f.clear_or_obstacle (Expr.writtenAll r.content)
    · exact .inr ⟨clear, (addRow_of_clear h clear).1.symm.trans failed⟩
    · rw [addRow_of_obstacle h split clear obstacle] at failed
      cases failed
      exact .inl ⟨before, a, after, split, clear, obstacle⟩
  · rintro (⟨before, a, after, split, clear, obstacle⟩ | ⟨clear, mismatch⟩)
    · exact addRow_of_obstacle h split clear obstacle
    · exact (addRow_of_clear h clear).1.trans mismatch

theorem addRow_eq_none_iff (h : Expr.countedAll r.content) :
    (f.addRow r).2 = none ↔
      f.Clear (Expr.writtenAll r.content) ∧ f.mismatch? (Expr.writtenAll r.content) = none := by
  constructor
  · intro worked
    obtain clear | ⟨before, a, after, fault, split, clear, obstacle⟩ :=
      f.clear_or_obstacle (Expr.writtenAll r.content)
    · exact ⟨clear, (addRow_of_clear h clear).1.symm.trans worked⟩
    · rw [addRow_of_obstacle h split clear obstacle] at worked
      cases worked
  · rintro ⟨clear, whole⟩
    exact (addRow_of_clear h clear).1.trans whole

end Row

/-- Every marker that is removed among the actions is there to be removed. -/
def RemovesFound (f : Fabric) (as : List Action) : Prop :=
  ∀ before name after, as = before ++ .mark (.remove name) :: after →
    present f.markers before name = true

theorem length_le_of_clear {f : Fabric} {as : List Action} (clear : f.Clear as) :
    (stitches as).length ≤ rowLimit := by
  induction as using List.reverseRecOn with
  | nil => exact Nat.zero_le _
  | append_singleton as a ih =>
    obtain ⟨before, last⟩ := clear_concat.1 clear
    cases a with
    | work s =>
      have room : ¬rowLimit ≤ (stitches as).length := by
        intro full
        simp [obstacle?, full] at last
      simp only [stitches_append, stitches_work, stitches_nil, List.length_append,
        List.length_singleton]
      omega
    | mark a => simpa using ih before

theorem removesFound_of_clear {f : Fabric} {as : List Action} (clear : f.Clear as) :
    f.RemovesFound as := by
  intro before name after split
  have free := clear before (.mark (.remove name)) after split
  by_contra absent
  simp [obstacle?, absent] at free

/-- Stitches that are not too many, and together work what the row below has, fit one by one. -/
theorem clear_of_totals {f : Fabric} {as : List Action} (length : (stitches as).length ≤ rowLimit)
    (found : f.RemovesFound as)
    (total : ∀ below, f.previous = some below →
      Stitch.totalAdvance (stitches as) ≤ below.weight) : f.Clear as := by
  intro before a after split
  cases a with
  | work s =>
    rw [split, stitches_append, stitches_work] at length total
    have room : ¬rowLimit ≤ (stitches before).length := by
      rw [List.length_append, List.length_cons] at length
      omega
    simp only [obstacle?, room, if_false]
    cases hbelow : f.previous with
    | none => rfl
    | some below =>
      have fits := total below hbelow
      rw [Stitch.totalAdvance_append, Stitch.totalAdvance_cons] at fits
      have within : ¬below.weight < Stitch.totalAdvance (stitches before) + s.advance := by omega
      simp [within]
  | mark a =>
    cases a with
    | place name => rfl
    | remove name => simp [obstacle?, found before name after split]

/-- A row in which every repeat says how often it is worked is decided by its actions, written out.
It is worked if its stitches are not too many, every marker that is removed is there, and together
the stitches work the row below, and then it has these stitches. Otherwise its fault is the obstacle
to the first action that cannot be done, or, if all can be done, that the row does not meet the row
below. -/
theorem counted_row_verdict (f : Fabric) (r : Row) (h : Expr.countedAll r.content = true) :
    ((f.addRow r).2 = none ↔
      (stitches (Expr.writtenAll r.content)).length ≤ 100000 ∧
      (∀ before name after,
        Expr.writtenAll r.content = before ++ .mark (.remove name) :: after →
          present f.markers before name = true) ∧
      ∀ below, f.previous = some below →
        Stitch.totalAdvance (stitches (Expr.writtenAll r.content)) = below.weight) ∧
    ((f.addRow r).2 = none → (f.addRow r).1.rows =
      f.rows.push ⟨f.attempted + 1, stitches (Expr.writtenAll r.content)⟩) ∧
    ∀ fault, (f.addRow r).2 = some fault ↔
      (∃ before a after, Expr.writtenAll r.content = before ++ a :: after ∧ f.Clear before ∧
        f.obstacle? before a = some fault) ∨
      (f.Clear (Expr.writtenAll r.content) ∧
        ∃ below, f.previous = some below ∧
          Stitch.totalAdvance (stitches (Expr.writtenAll r.content)) ≠ below.weight ∧
          fault = .countMismatch (f.placeAfter (Expr.writtenAll r.content)) below.weight
            (Stitch.totalAdvance (stitches (Expr.writtenAll r.content)))) := by
  refine ⟨⟨fun worked => ?_, fun ⟨length, found, total⟩ => ?_⟩, fun worked => ?_, fun fault => ?_⟩
  · obtain ⟨clear, whole⟩ := (addRow_eq_none_iff h).1 worked
    exact ⟨length_le_of_clear clear, removesFound_of_clear clear, mismatch?_eq_none_iff.1 whole⟩
  · refine (addRow_eq_none_iff h).2 ⟨clear_of_totals length found ?_, mismatch?_eq_none_iff.2 total⟩
    exact fun below hbelow => (total below hbelow).le
  · obtain ⟨clear, whole⟩ := (addRow_eq_none_iff h).1 worked
    exact (addRow_of_clear h clear).2 whole
  · rw [addRow_eq_some_iff h, mismatch?_eq_some_iff]

/-- Six stitches, with a marker in front of the first. -/
def cuff : Fabric := run .strict [.row ⟨[.marker (.place 'A'), .stitch (.castOn 6)], .start⟩]

/-- Works the stitches two by two and takes the marker along. -/
def cuffRow : Row where
  content := [.times (.group
    [.marker (.remove 'A'), .times (.stitch .knit) 2, .marker (.place 'A')]) 3]
  position := .start

theorem counted_row_verdict_cuff :
    Expr.countedAll cuffRow.content = true ∧ (cuff.addRow cuffRow).2 = none ∧
      ((stitches (Expr.writtenAll cuffRow.content)).length ≤ 100000 ∧
        ∀ below, cuff.previous = some below →
          Stitch.totalAdvance (stitches (Expr.writtenAll cuffRow.content)) = below.weight) ∧
      (cuff.addRow cuffRow).1.rows = cuff.rows.push ⟨2, List.replicate 6 .knit⟩ := by
  have counted : Expr.countedAll cuffRow.content = true := by decide
  have worked : (cuff.addRow cuffRow).2 = none := by decide
  obtain ⟨iff, rows, -⟩ := counted_row_verdict cuff cuffRow counted
  obtain ⟨length, -, total⟩ := iff.1 worked
  exact ⟨counted, worked, ⟨length, total⟩, rows worked⟩

end Fabric
end Knitting
