import Knitting.Proofs.Row.Progress

/-! # Rows under other labels

The number of a row is only a name, and no marker decides how a row is worked. Given another
number, other markers, and other expressions in place of its marker actions, a row is worked just
the same, as long as these expressions do with the other markers what the actions did. With the
rows of the markers renamed to match its new number, they are the actions themselves.
-/
namespace Knitting

def Place.renumber (ρ : UInt32 → UInt32) (p : Place) : Place := ⟨ρ p.row, p.column⟩

namespace MarkerTable

def renumber (ρ : UInt32 → UInt32) (t : MarkerTable) : MarkerTable where
  entries := t.entries.map fun e => (e.1, e.2.renumber ρ)
  sorted := List.pairwise_map.2 t.sorted

theorem ext_entries {t u : MarkerTable} (h : t.entries = u.entries) : t = u := by
  cases t
  cases u
  simp_all

@[simp] theorem get?_renumber (ρ : UInt32 → UInt32) (t : MarkerTable) (name : Char) :
    (t.renumber ρ).get? name = (t.get? name).map (Place.renumber ρ) := by
  obtain ⟨entries, sorted⟩ := t
  simp only [get?, renumber]
  clear sorted
  induction entries with
  | nil => rfl
  | cons e rest ih =>
    obtain ⟨c, p⟩ := e
    simp only [List.map_cons, List.lookup_cons, ih]
    cases name == c <;> rfl

theorem renumber_put (ρ : UInt32 → UInt32) (t : MarkerTable) (name : Char) (p : Place) :
    (t.put name p).renumber ρ = (t.renumber ρ).put name (p.renumber ρ) := by
  apply ext_entries
  simp only [renumber, put]
  induction t.entries with
  | nil => rfl
  | cons e rest ih =>
    obtain ⟨c, q⟩ := e
    simp only [insertEntry, List.map_cons]
    split
    · rfl
    · split
      · rfl
      · rw [List.map_cons, ih]

theorem renumber_erase (ρ : UInt32 → UInt32) (t : MarkerTable) (name : Char) :
    (t.erase name).renumber ρ = (t.renumber ρ).erase name := by
  apply ext_entries
  simp only [renumber, erase, List.filter_map]
  rfl

/-- Names that agree on the rows of a table rename it alike. -/
theorem renumber_congr {ρ σ : UInt32 → UInt32} {t : MarkerTable}
    (h : ∀ e ∈ t.entries, ρ e.2.row = σ e.2.row) : t.renumber ρ = t.renumber σ := by
  apply ext_entries
  refine List.map_congr_left fun e he => ?_
  rw [Place.renumber, Place.renumber, h e he]

end MarkerTable

def Fault.renumber (ρ : UInt32 → UInt32) : Fault → Fault
  | .budgetExceeded p available required => .budgetExceeded (p.renumber ρ) available required
  | .countMismatch p expected received => .countMismatch (p.renumber ρ) expected received
  | .rowTooLong p => .rowTooLong (p.renumber ρ)
  | .zeroAdvanceRepeat p => .zeroAdvanceRepeat (p.renumber ρ)
  | .noPreviousRow p => .noPreviousRow (p.renumber ρ)
  | .markerNotFound p name => .markerNotFound (p.renumber ρ) name

namespace Expr

variable {f : MarkerAction → Expr}

theorem advanceAll_replaceAllMarkers {es : List Expr}
    (h : ∀ e ∈ es, (e.replaceMarkers f).advance = e.advance) :
    advanceAll (replaceAllMarkers f es) = advanceAll es := by
  induction es with
  | nil => rfl
  | cons e es ih =>
    rw [replaceAllMarkers, advanceAll, advanceAll, h e List.mem_cons_self,
      ih fun e he => h e (List.mem_cons_of_mem _ he)]

/-- What replaces the marker actions must work no stitches of the previous row, as they do. -/
theorem advance_replaceMarkers (still : ∀ action, (f action).advance = 0) (e : Expr) :
    (e.replaceMarkers f).advance = e.advance := by
  induction e with
  | stitch s => rfl
  | group es ih => exact advanceAll_replaceAllMarkers ih
  | times e count ih => rw [replaceMarkers, advance, advance, ih]
  | leaving e count => rfl
  | marker action => exact still action

end Expr

namespace Needle

def relabel (ρ : UInt32 → UInt32) (τ : MarkerTable → MarkerTable) (n : Needle) : Needle :=
  { n with number := ρ n.number, markers := τ n.markers }

/-- Two results of one and the same work: the second is the first under other labels. Nothing is
asked of the second where the first has a fault that is excused. -/
def Alike (ρ : UInt32 → UInt32) (τ : MarkerTable → MarkerTable) (excused : Fault → Prop) :
    Except Snag Needle → Except Snag Needle → Prop :=
  Craft.Matched (fun n m => m = n.relabel ρ τ)
    (fun snag snag' => snag' = ⟨snag.fault.renumber ρ, snag.needle.relabel ρ τ⟩)
    fun snag => excused snag.fault

section Relabel

variable {ρ : UInt32 → UInt32} {τ : MarkerTable → MarkerTable} {excused : Fault → Prop}

@[simp] theorem place_relabel (n : Needle) : (n.relabel ρ τ).place = n.place.renumber ρ := rfl

@[simp] theorem count_relabel (n : Needle) : (n.relabel ρ τ).count = n.count := rfl

@[simp] theorem available_relabel (n : Needle) : (n.relabel ρ τ).available = n.available := rfl

@[simp] theorem worked_relabel (n : Needle) : (n.relabel ρ τ).worked = n.worked := rfl

@[simp] theorem append_relabel (n : Needle) (s : Stitch) :
    (n.relabel ρ τ).append s = (n.append s).relabel ρ τ := rfl

theorem work_alike (s : Stitch) (n : Needle) :
    Alike ρ τ excused (n.work s) ((n.relabel ρ τ).work s) := by
  simp only [work, count_relabel, available_relabel, worked_relabel, place_relabel,
    append_relabel]
  by_cases full : rowLimit ≤ n.count
  · simp only [full, if_true]
    exact .stop rfl
  · simp only [full, if_false]
    cases n.available with
    | none => exact .ok rfl
    | some available =>
      by_cases beyond : available < n.worked + s.advance
      · simp only [beyond, if_true]
        exact .stop rfl
      · simp only [beyond, if_false]
        exact .ok rfl

variable {f : MarkerAction → Expr}

/-- Other labels are followed, if each marker action is worked like what replaces it. -/
theorem follows_relabel (still : ∀ action, (f action).advance = 0)
    (marks : ∀ action (n : Needle), Alike ρ τ excused (n.mark action)
      ((f action).expand (n.relabel ρ τ))) :
    Craft.Follows craft craft f (fun n m => m = n.relabel ρ τ)
      (fun snag snag' => snag' = ⟨snag.fault.renumber ρ, snag.needle.relabel ρ τ⟩)
      (fun snag => excused snag.fault) where
  count := by
    rintro n _ rfl
    rfl
  work := by
    rintro s n _ rfl
    exact work_alike s n
  mark := by
    rintro action n _ rfl
    exact marks action n
  budget := by
    rintro content n _ rfl
    exact Craft.matched_budget rfl rfl (content.advance_replaceMarkers still).symm rfl rfl

theorem workRow_alike (still : ∀ action, (f action).advance = 0)
    (marks : ∀ action (n : Needle), Alike ρ τ excused (n.mark action)
      ((f action).expand (n.relabel ρ τ))) (content : List Expr) (n : Needle) :
    Alike ρ τ excused (n.workRow content)
      ((n.relabel ρ τ).workRow (Expr.replaceAllMarkers f content)) :=
  (follows_relabel still marks).workRow
    (by
      rintro n _ rfl
      exact .ok rfl)
    (by
      rintro n _ rfl
      rfl)
    (by
      rintro n _ rfl expected received
      rfl)
    content rfl

end Relabel

def renumber (ρ : UInt32 → UInt32) (n : Needle) : Needle :=
  { n with number := ρ n.number, markers := n.markers.renumber ρ }

variable (ρ : UInt32 → UInt32)

theorem row_renumber (n : Needle) : (n.renumber ρ).row = ⟨ρ n.number, n.row.stitches⟩ := rfl

theorem mark_alike_renumber (a : MarkerAction) (n : Needle) :
    Alike ρ (.renumber ρ) (fun _ => False) (n.mark a) ((n.renumber ρ).mark a) := by
  cases a with
  | place name =>
    have same : (n.renumber ρ).mark (.place name) =
        .ok (relabel ρ (.renumber ρ) { n with markers := n.markers.put name n.place }) := by
      simp only [mark, relabel, MarkerTable.renumber_put]
      rfl
    rw [same]
    exact .ok rfl
  | remove name =>
    have found : (n.renumber ρ).markers.get? name =
        (n.markers.get? name).map (Place.renumber ρ) := MarkerTable.get?_renumber ρ n.markers name
    simp only [mark, found]
    cases n.markers.get? name with
    | none => exact .stop rfl
    | some p =>
      have same : { n.renumber ρ with markers := (n.renumber ρ).markers.erase name } =
          relabel ρ (.renumber ρ) { n with markers := n.markers.erase name } := by
        simp only [relabel, MarkerTable.renumber_erase]
        rfl
      simp only [Option.map_some, same]
      exact .ok rfl

theorem workRow_renumber (content : List Expr) (n : Needle) :
    (n.renumber ρ).workRow content =
      Craft.carried (renumber ρ) (fun snag => ⟨snag.fault.renumber ρ, snag.needle.renumber ρ⟩)
        (n.workRow content) := by
  have alike := workRow_alike (f := .marker) (fun _ => rfl) (mark_alike_renumber ρ) content n
  rw [Expr.replaceAllMarkers_eq_self fun e _ => e.replaceMarkers_marker] at alike
  exact alike.eq_carried (fun _ _ same => same) fun _ _ same => same

end Needle
end Knitting
