import Knitting.Proofs.Row.Craft
import Knitting.Pattern.Unrolled

/-! # Progress along a row

Working an expression does single actions, one after another, and an action never takes back a
stitch. What every action keeps is therefore kept by every expression, whether working it goes
through or meets a snag.
-/
namespace Knitting

def Stitch.totalAdvance (ss : List Stitch) : Nat := (ss.map Stitch.advance).foldr (· + ·) 0

@[simp] theorem Stitch.totalAdvance_nil : totalAdvance [] = 0 := rfl

@[simp] theorem Stitch.totalAdvance_cons (s : Stitch) (ss : List Stitch) :
    totalAdvance (s :: ss) = s.advance + totalAdvance ss := rfl

theorem Stitch.totalAdvance_append (ss ts : List Stitch) :
    totalAdvance (ss ++ ts) = totalAdvance ss + totalAdvance ts := by
  induction ss with
  | nil => simp
  | cons s ss ih => simp [ih, Nat.add_assoc]

namespace Needle

/-- The needle as working left it, at the end or at the snag. -/
def reached : Except Snag Needle → Needle
  | .ok n => n
  | .error snag => snag.needle

@[simp] theorem reached_ok (n : Needle) : reached (.ok n) = n := rfl

@[simp] theorem reached_error (snag : Snag) : reached (.error snag) = snag.needle := rfl

@[simp] theorem length_row (n : Needle) : n.row.stitches.length = n.count := by
  simp [row, n.count_eq]

/-- The row has room for the stitch, and the previous row has the stitches that it works. -/
structure Admits (n : Needle) (s : Stitch) : Prop where
  room : n.count < rowLimit
  fits : ∀ available ∈ n.available, n.worked + s.advance ≤ available

theorem work_eq_ok_iff {n m : Needle} {s : Stitch} :
    n.work s = .ok m ↔ n.Admits s ∧ m = n.append s := by
  unfold work
  split
  · rename_i full
    constructor
    · intro h
      cases h
    · rintro ⟨admits, -⟩
      exact absurd admits.room (Nat.not_lt.2 full)
  · rename_i room
    have room : n.count < rowLimit := Nat.not_le.1 room
    split
    · rename_i none
      constructor
      · intro h
        cases h
        exact ⟨⟨room, by simp [none]⟩, rfl⟩
      · rintro ⟨-, rfl⟩
        rfl
    · rename_i available some
      dsimp only
      split
      · rename_i beyond
        constructor
        · intro h
          cases h
        · rintro ⟨admits, -⟩
          exact absurd (admits.fits available some) (Nat.not_le.2 beyond)
      · rename_i within
        constructor
        · intro h
          cases h
          exact ⟨⟨room, by simpa [some] using within⟩, rfl⟩
        · rintro ⟨-, rfl⟩
          rfl

theorem work_error_needle {n : Needle} {s : Stitch} {snag : Snag} (h : n.work s = .error snag) :
    snag.needle = n := by
  unfold work at h
  dsimp only at h
  repeat' split at h
  all_goals cases h
  all_goals rfl

def withMarkers (n : Needle) (t : MarkerTable) : Needle := { n with markers := t }

@[simp] theorem withMarkers_self (n : Needle) : n.withMarkers n.markers = n := rfl

@[simp] theorem withMarkers_withMarkers (n : Needle) (t u : MarkerTable) :
    (n.withMarkers t).withMarkers u = n.withMarkers u := rfl

@[simp] theorem place_withMarkers (n : Needle) (t : MarkerTable) :
    (n.withMarkers t).place = n.place := rfl

theorem eq_withMarkers_of_mark {n m : Needle} {a : MarkerAction} (h : n.mark a = .ok m) :
    m = n.withMarkers m.markers := by
  unfold mark at h
  split at h
  · cases h
    rfl
  · split at h <;> cases h
    rfl

theorem mark_error_needle {n : Needle} {a : MarkerAction} {snag : Snag}
    (h : n.mark a = .error snag) : snag.needle = n := by
  unfold mark at h
  repeat' split at h
  all_goals cases h
  rfl

theorem act_error_needle {n : Needle} {a : Action} {snag : Snag} (h : n.act a = .error snag) :
    snag.needle = n := by
  cases a with
  | work s => exact work_error_needle h
  | mark a => exact mark_error_needle h

theorem budget_error_needle {n : Needle} {content : Expr} {snag : Snag}
    (h : n.budget content = .error snag) : snag.needle = n := by
  rw [budget_eq] at h
  repeat' split at h
  all_goals cases h
  all_goals rfl

theorem budget_eq_ok_iff {n : Needle} {content : Expr} {b : Nat × Nat} :
    n.budget content = .ok b ↔
      ∃ w, n.available = some w ∧ content.advance ≠ 0 ∧ b = (w - n.worked, content.advance) := by
  rw [budget_eq]
  cases n.available with
  | none => simp
  | some w =>
    by_cases h : content.advance = 0
    · simp [h]
    · simp [h, eq_comm]

theorem passesOf_eq_ok_iff {n : Needle} {content : Expr} {count : UInt32} {passes : Nat} :
    n.passesOf content count = .ok passes ↔
      (count ≠ 0 ∧ passes = count.toNat) ∨
      (count = 0 ∧ ∃ w, n.available = some w ∧ content.advance ≠ 0 ∧
        passes = (w - n.worked) / content.advance) := by
  rw [passesOf_eq]
  by_cases h : count = 0
  · cases hb : n.budget content with
    | ok b =>
      obtain ⟨w, hw, hadvance, rfl⟩ := budget_eq_ok_iff.1 hb
      simp [h, Except.map, hw, hadvance, eq_comm]
    | error snag =>
      have none : ¬∃ w, n.available = some w ∧ content.advance ≠ 0 := by
        rintro ⟨w, hw, hadvance⟩
        rw [budget_eq_ok_iff.2 ⟨w, hw, hadvance, rfl⟩] at hb
        cases hb
      simp only [h, if_true, Except.map, reduceCtorEq, ne_eq, not_true, false_and, true_and,
        false_or, false_iff]
      rintro ⟨w, hw, hadvance, -⟩
      exact none ⟨w, hw, hadvance⟩
  · simp [h, eq_comm]

theorem passesLeaving_eq_ok_iff {n : Needle} {content : Expr} {count : UInt32} {passes : Nat} :
    n.passesLeaving content count = .ok passes ↔
      ∃ w, n.available = some w ∧ content.advance ≠ 0 ∧
        passes = (w - n.worked - count.toNat) / content.advance := by
  rw [passesLeaving_eq]
  cases hb : n.budget content with
  | ok b =>
    obtain ⟨w, hw, hadvance, rfl⟩ := budget_eq_ok_iff.1 hb
    simp [Except.map, hw, hadvance, eq_comm]
  | error snag =>
    simp only [Except.map, reduceCtorEq, false_iff]
    rintro ⟨w, hw, hadvance, -⟩
    rw [budget_eq_ok_iff.2 ⟨w, hw, hadvance, rfl⟩] at hb
    cases hb

/-- A repeat that does not know how often it is worked has asked for it. -/
theorem budget_of_passesOf {n : Needle} {content : Expr} {count : UInt32} {snag : Snag}
    (h : n.passesOf content count = .error snag) : n.budget content = .error snag := by
  rw [passesOf_eq] at h
  by_cases inferred : count = 0
  · rw [if_pos inferred] at h
    cases asked : n.budget content <;> rw [asked] at h <;> cases h
    rfl
  · rw [if_neg inferred] at h
    cases h

theorem budget_of_passesLeaving {n : Needle} {content : Expr} {count : UInt32} {snag : Snag}
    (h : n.passesLeaving content count = .error snag) : n.budget content = .error snag := by
  rw [passesLeaving_eq] at h
  cases asked : n.budget content <;> rw [asked] at h <;> cases h
  rfl

theorem passesOf_error_needle {n : Needle} {content : Expr} {count : UInt32} {snag : Snag}
    (h : n.passesOf content count = .error snag) : snag.needle = n :=
  budget_error_needle (budget_of_passesOf h)

theorem passesLeaving_error_needle {n : Needle} {content : Expr} {count : UInt32} {snag : Snag}
    (h : n.passesLeaving content count = .error snag) : snag.needle = n :=
  budget_error_needle (budget_of_passesLeaving h)

def actAll (as : List Action) (n : Needle) : Except Snag Needle := visit (fun n a => n.act a) as n

@[simp] theorem actAll_nil (n : Needle) : n.actAll [] = .ok n := rfl

theorem actAll_append_of_ok {as bs : List Action} {n m : Needle} (h : n.actAll as = .ok m) :
    n.actAll (as ++ bs) = m.actAll bs := by
  unfold actAll at *
  rw [visit_append, h]

theorem actAll_singleton (a : Action) (n : Needle) : n.actAll [a] = n.act a := by
  simp only [actAll, visit]
  cases n.act a <;> rfl

/-- The actions that are done lead to where working comes to. -/
theorem actAll_done (a : Action) (n : Needle) : n.actAll (n.done a) = .ok (reached (n.act a)) := by
  unfold done
  cases h : n.act a with
  | ok m => simp [actAll_singleton, h]
  | error snag => simp [act_error_needle h]

/-- The actions of the first pass, and of those behind it if there are any. -/
theorem doneInPasses_succ (pass : Needle → Except Snag Needle) (doneIn : Needle → List Action)
    (passes : Nat) (idle : Bool) (n : Needle) :
    doneInPasses pass doneIn (passes + 1) idle n =
      doneIn n ++
        match pass n with
        | .error _ => []
        | .ok next =>
          if next.count = n.count then
            if idle then [] else doneInPasses pass doneIn passes true next
          else doneInPasses pass doneIn passes idle next := by
  rw [doneInPasses, Craft.passStarts_succ, List.flatMap_cons]
  cases pass n with
  | error snag => rfl
  | ok next =>
    dsimp only
    split
    · split <;> rfl
    · rfl

theorem actAll_doneInPasses {pass : Needle → Except Snag Needle} {doneIn : Needle → List Action}
    (hpass : ∀ n : Needle, n.actAll (doneIn n) = .ok (reached (pass n))) (passes : Nat)
    (idle : Bool) (n : Needle) :
    n.actAll (doneInPasses pass doneIn passes idle n) =
      .ok (reached (Craft.repeatPasses count pass passes idle n)) := by
  induction passes generalizing idle n with
  | zero => rfl
  | succ passes ih =>
    rw [doneInPasses_succ, Craft.repeatPasses, actAll_append_of_ok (hpass n)]
    cases pass n with
    | error snag => rfl
    | ok next =>
      dsimp only [reached_ok]
      split
      · split
        · rfl
        · exact ih true next
      · exact ih idle next

end Needle

namespace Expr
open Needle

theorem actAll_doneAll {es : List Expr}
    (hes : ∀ e ∈ es, ∀ n : Needle, n.actAll (e.done n) = .ok (reached (e.expand n)))
    (n : Needle) : n.actAll (doneAll es n) = .ok (reached (expandAll es n)) := by
  induction es generalizing n with
  | nil => rfl
  | cons e es ih =>
    rw [doneAll, expandAll_cons, actAll_append_of_ok (hes e List.mem_cons_self n)]
    cases e.expand n with
    | error snag => rfl
    | ok next => exact ih (fun e he => hes e (List.mem_cons_of_mem _ he)) next

/-- The actions done in an expression lead to where working it comes to. -/
theorem actAll_done (e : Expr) (n : Needle) :
    n.actAll (e.done n) = .ok (reached (e.expand n)) := by
  induction e generalizing n with
  | stitch s => exact n.actAll_done (.work s)
  | group es ih => exact actAll_doneAll ih n
  | times e count ih =>
    rw [done, expand_times]
    cases h : n.passesOf e count with
    | error snag => simp [passesOf_error_needle h]
    | ok passes => exact actAll_doneInPasses ih passes false n
  | leaving e count ih =>
    rw [done, expand_leaving]
    cases h : n.passesLeaving e count with
    | error snag => simp [passesLeaving_error_needle h]
    | ok passes => exact actAll_doneInPasses ih passes false n
  | marker a => exact n.actAll_done (.mark a)

end Expr

namespace Needle

/-- What every action keeps is kept by all of them. -/
theorem actAll_keeps {P : Needle → Prop}
    (hact : ∀ (a : Action) (n m : Needle), n.act a = .ok m → P n → P m)
    {as : List Action} {n m : Needle} (h : n.actAll as = .ok m) (hn : P n) : P m := by
  induction as generalizing n with
  | nil => cases h; exact hn
  | cons a as ih =>
    simp only [actAll, visit] at h
    cases ha : n.act a with
    | error snag => rw [ha] at h; cases h
    | ok next => rw [ha] at h; exact ih h (hact a n next ha hn)

theorem expand_keeps {P : Needle → Prop}
    (hact : ∀ (a : Action) (n m : Needle), n.act a = .ok m → P n → P m)
    (e : Expr) {n : Needle} (hn : P n) : P (reached (e.expand n)) :=
  actAll_keeps hact (e.actAll_done n) hn

theorem expandAll_keeps {P : Needle → Prop}
    (hact : ∀ (a : Action) (n m : Needle), n.act a = .ok m → P n → P m)
    (es : List Expr) {n : Needle} (hn : P n) : P (reached (Expr.expandAll es n)) :=
  expand_keeps hact (.group es) hn

/-- `m` continues the row of `n`: the stitches of `n` are still there, and the cursor has moved
over what the stitches behind them work. -/
structure Extends (n m : Needle) : Prop where
  number : m.number = n.number
  available : m.available = n.available
  stitches : ∃ added, m.latest = added ++ n.latest ∧
    m.column = n.column + Stitch.totalAdvance added

namespace Extends

theorem refl (n : Needle) : n.Extends n := ⟨rfl, rfl, [], by simp⟩

theorem trans {n m k : Needle} (h : n.Extends m) (h' : m.Extends k) : n.Extends k := by
  obtain ⟨added, latest, column⟩ := h.stitches
  obtain ⟨added', latest', column'⟩ := h'.stitches
  refine ⟨h'.number.trans h.number, h'.available.trans h.available, added' ++ added, ?_, ?_⟩
  · rw [latest', latest, List.append_assoc]
  · rw [column', column, Stitch.totalAdvance_append]
    omega

theorem append (n : Needle) (s : Stitch) : n.Extends (n.append s) :=
  ⟨rfl, rfl, [s], by simp [Needle.append]⟩

theorem withMarkers (n : Needle) (t : MarkerTable) : n.Extends (n.withMarkers t) :=
  ⟨rfl, rfl, [], by simp [Needle.withMarkers]⟩

theorem count_le {n m : Needle} (h : n.Extends m) : n.count ≤ m.count := by
  obtain ⟨added, latest, -⟩ := h.stitches
  rw [n.count_eq, m.count_eq, latest, List.length_append]
  exact Nat.le_add_left _ _

/-- Without a new stitch, only the markers can have changed. -/
theorem eq_withMarkers {n m : Needle} (h : n.Extends m) (hcount : m.count = n.count) :
    m = n.withMarkers m.markers := by
  obtain ⟨added, latest, column⟩ := h.stitches
  have none : added = [] := by
    rw [n.count_eq, m.count_eq, latest, List.length_append] at hcount
    exact List.length_eq_zero_iff.1 (by omega)
  subst none
  obtain ⟨number, available, -⟩ := h
  cases n
  cases m
  simp_all [Needle.withMarkers]

end Extends

theorem extends_of_act {a : Action} {n m : Needle} (h : n.act a = .ok m) : n.Extends m := by
  cases a with
  | work s =>
    obtain ⟨-, rfl⟩ := work_eq_ok_iff.1 h
    exact .append n s
  | mark a =>
    rw [eq_withMarkers_of_mark h]
    exact .withMarkers n _

theorem extends_expand (e : Expr) (n : Needle) : n.Extends (reached (e.expand n)) :=
  expand_keeps (fun _ _ _ h hn => hn.trans (extends_of_act h)) e (.refl n)

theorem extends_of_expand {e : Expr} {n m : Needle} (h : e.expand n = .ok m) : n.Extends m := by
  have := extends_expand e n
  rwa [h] at this

theorem extends_of_expandAll {es : List Expr} {n m : Needle} (h : Expr.expandAll es n = .ok m) :
    n.Extends m :=
  extends_of_expand (e := .group es) h

/-- The check at the end of a row moves nothing. -/
theorem reached_workRow (content : List Expr) (n : Needle) :
    reached (n.workRow content) = reached (Expr.expandAll content n) := by
  rw [workRow_eq]
  cases Expr.expandAll content n with
  | error snag => rfl
  | ok done =>
    dsimp only
    split
    · rfl
    · split <;> rfl

theorem extends_workRow (content : List Expr) (n : Needle) :
    n.Extends (reached (n.workRow content)) := by
  rw [reached_workRow]
  exact extends_expand (.group content) n

theorem extends_of_workRow {content : List Expr} {n done : Needle}
    (h : n.workRow content = .ok done) : n.Extends done := by
  have := extends_workRow content n
  rwa [h] at this

/-- A new stitch is only worked where the row has room for it. -/
theorem count_le_of_act {a : Action} {n m : Needle} (h : n.act a = .ok m)
    (hn : n.count ≤ rowLimit) : m.count ≤ rowLimit := by
  cases a with
  | work s =>
    obtain ⟨admits, rfl⟩ := work_eq_ok_iff.1 h
    exact admits.room
  | mark a =>
    rw [eq_withMarkers_of_mark h]
    exact hn

end Needle

end Knitting
