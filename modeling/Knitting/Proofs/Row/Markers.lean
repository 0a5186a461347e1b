import Knitting.Proofs.Row.Progress
import Mathlib.Data.List.Sort

/-! # Markers on the needle

A table of markers is known by where each name stands. Doing marker actions twice, from where the
needle is, leaves what doing them once leaves: of every name only the last action counts.
-/
namespace Knitting

namespace MarkerTable

theorem lookup_cons_eq (c d : Char) (p : Place) (rest : List (Char × Place)) :
    ((d, p) :: rest).lookup c = if c = d then some p else rest.lookup c := by
  by_cases h : c = d
  · simp [h]
  · simp [List.lookup_cons, beq_eq_false_iff_ne.2 h, h]

theorem lookup_insertEntry (name : Char) (place : Place) (entries : List (Char × Place))
    (c : Char) :
    (insertEntry name place entries).lookup c =
      if c = name then some place else entries.lookup c := by
  induction entries with
  | nil => by_cases h : c = name <;> simp [insertEntry, h]
  | cons x rest ih =>
    obtain ⟨d, p⟩ := x
    simp only [insertEntry]
    split
    · rw [lookup_cons_eq]
    · split
      · rename_i same
        subst same
        rw [lookup_cons_eq, lookup_cons_eq]
        split_ifs <;> rfl
      · rename_i other
        rw [lookup_cons_eq, lookup_cons_eq, ih]
        split_ifs with h h' <;> simp_all

@[simp] theorem get?_put (t : MarkerTable) (name : Char) (place : Place) (c : Char) :
    (t.put name place).get? c = if c = name then some place else t.get? c :=
  lookup_insertEntry name place t.entries c

@[simp] theorem get?_erase (t : MarkerTable) (name c : Char) :
    (t.erase name).get? c = if c = name then none else t.get? c := by
  simp only [get?, erase]
  induction t.entries with
  | nil => simp
  | cons x rest ih =>
    obtain ⟨d, p⟩ := x
    by_cases h : d = name
    · subst h
      rw [List.filter_cons_of_neg (by simp), ih]
      rw [lookup_cons_eq]
      split_ifs <;> rfl
    · rw [List.filter_cons_of_pos (by simpa using h), lookup_cons_eq, lookup_cons_eq, ih]
      split_ifs with hc hn <;> simp_all

theorem mem_entries_iff (t : MarkerTable) (c : Char) (p : Place) :
    (c, p) ∈ t.entries ↔ t.get? c = some p := by
  obtain ⟨entries, sorted⟩ := t
  simp only [get?]
  induction entries with
  | nil => simp
  | cons x rest ih =>
    obtain ⟨d, q⟩ := x
    rw [List.pairwise_cons] at sorted
    rw [List.mem_cons, lookup_cons_eq, ih sorted.2]
    by_cases h : c = d
    · subst h
      have absent : rest.lookup c ≠ some p := fun hp =>
        Char.lt_irrefl c (sorted.1 _ ((ih sorted.2).2 hp))
      simp [absent, eq_comm]
    · simp [h]

theorem ext_get? {t u : MarkerTable} (h : ∀ c, t.get? c = u.get? c) : t = u := by
  have irrefl : Std.Irrefl fun a b : Char × Place => a.1 < b.1 := ⟨fun a => Char.lt_irrefl a.1⟩
  have asymm : Std.Antisymm fun a b : Char × Place => a.1 < b.1 :=
    ⟨fun a b hab hba => absurd (Char.lt_trans hab hba) (Char.lt_irrefl a.1)⟩
  have entries : t.entries = u.entries :=
    t.sorted.eq_of_mem_iff u.sorted fun ⟨c, p⟩ => by
      rw [mem_entries_iff, mem_entries_iff, h c]
  cases t
  cases u
  simp_all

end MarkerTable

/-- What an action leaves of its own marker. -/
def MarkerAction.leaves (p : Place) : MarkerAction → Option Place
  | .place _ => some p
  | .remove _ => none

namespace Needle

theorem get?_of_mark {n m : Needle} {a : MarkerAction} (h : n.mark a = .ok m) (c : Char) :
    m.markers.get? c = if c = a.name then a.leaves n.place else n.markers.get? c := by
  cases a with
  | place name =>
    cases h
    exact MarkerTable.get?_put ..
  | remove name =>
    simp only [mark] at h
    split at h
    · cases h
      exact MarkerTable.get?_erase ..
    · cases h

def markAll (as : List MarkerAction) (n : Needle) : Except Snag Needle :=
  visit (fun n a => n.mark a) as n

theorem markAll_cons (a : MarkerAction) (as : List MarkerAction) (n : Needle) :
    n.markAll (a :: as) =
      match n.mark a with
      | .error snag => .error snag
      | .ok next => next.markAll as := by
  simp only [markAll, visit]
  cases n.mark a <;> rfl

theorem markAll_append (as bs : List MarkerAction) (n : Needle) :
    n.markAll (as ++ bs) =
      match n.markAll as with
      | .error snag => .error snag
      | .ok next => next.markAll bs := by
  simp only [markAll, visit_append]
  cases visit (fun n a => n.mark a) as n <;> rfl

theorem eq_withMarkers_of_markAll {as : List MarkerAction} {n m : Needle}
    (h : n.markAll as = .ok m) : m = n.withMarkers m.markers := by
  induction as generalizing n with
  | nil =>
    cases h
    rfl
  | cons a as ih =>
    rw [markAll_cons] at h
    cases ha : n.mark a with
    | error snag => rw [ha] at h; cases h
    | ok next =>
      rw [ha] at h
      rw [ih h, eq_withMarkers_of_mark ha]
      rfl

/-- Whether actions leave a marker as it was or set it, they do so from every table alike. -/
theorem get?_of_markAll {as : List MarkerAction} {n m n' m' : Needle} (hplace : m.place = n.place)
    (hn : n.markAll as = .ok n') (hm : m.markAll as = .ok m') (c : Char) :
    n'.markers.get? c = m'.markers.get? c ∨
      (n'.markers.get? c = n.markers.get? c ∧ m'.markers.get? c = m.markers.get? c) := by
  induction as generalizing n m with
  | nil =>
    cases hn
    cases hm
    exact .inr ⟨rfl, rfl⟩
  | cons a as ih =>
    rw [markAll_cons] at hn hm
    cases ha : n.mark a with
    | error snag => rw [ha] at hn; cases hn
    | ok next =>
    cases hb : m.mark a with
    | error snag => rw [hb] at hm; cases hm
    | ok next' =>
      rw [ha] at hn
      rw [hb] at hm
      have places : next'.place = next.place := by
        rw [eq_withMarkers_of_mark ha, eq_withMarkers_of_mark hb]
        simpa using hplace
      have first := get?_of_mark ha c
      have first' := get?_of_mark hb c
      rcases ih places hn hm with same | ⟨kept, kept'⟩
      · exact .inl same
      · by_cases own : c = a.name
        · left
          rw [kept, kept', first, first', if_pos own, if_pos own, hplace]
        · right
          rw [if_neg own] at first first'
          exact ⟨kept.trans first, kept'.trans first'⟩

/-- Behind expressions, a marker is where it was before, or in the row being worked. -/
theorem get?_of_expandAll {es : List Expr} {n m : Needle} (h : Expr.expandAll es n = .ok m)
    {name : Char} {p : Place} (hp : m.markers.get? name = some p) :
    p.row = n.number ∨ n.markers.get? name = some p := by
  have kept := expandAll_keeps
    (P := fun k => k.number = n.number ∧
      ∀ p, k.markers.get? name = some p → p.row = n.number ∨ n.markers.get? name = some p)
    (by
      rintro a k k' hact ⟨number, places⟩
      refine ⟨(extends_of_act hact).number.trans number, fun p hp => ?_⟩
      cases a with
      | work s =>
        obtain ⟨-, rfl⟩ := work_eq_ok_iff.1 hact
        exact places p hp
      | mark a =>
        rw [get?_of_mark hact] at hp
        split at hp
        · cases a with
          | place other =>
            cases hp
            exact .inl number
          | remove other => cases hp
        · exact places p hp)
    es ⟨rfl, fun p hp => .inr hp⟩
  rw [h] at kept
  exact kept.2 p hp

/-- Actions done again right behind themselves change nothing more. -/
theorem markAll_again {as : List MarkerAction} {n m k : Needle} (h : n.markAll as = .ok m)
    (again : m.markAll as = .ok k) : k = m := by
  have hm := eq_withMarkers_of_markAll h
  have hplace : m.place = n.place := by
    rw [hm]
    exact place_withMarkers n _
  have tables : k.markers = m.markers := MarkerTable.ext_get? fun c => by
    rcases get?_of_markAll hplace h again c with same | ⟨-, kept⟩
    · exact same.symm
    · exact kept
  rw [eq_withMarkers_of_markAll again, tables, withMarkers_self]

end Needle

end Knitting
