import Knitting.Settings.Basic
import Knitting.Settings.KeyPath
import Mathlib.Data.List.Induction

/-! # Values laid over one another

Of values that are laid over one another only the last counts, unless it is an empty table, which
leaves everything as it is. Whatever can be read over other values is read as it would be alone.
-/
namespace Knitting.Setting
open merge (mergeEntries)

/-- What there is once values have been laid over it, one after the other. -/
def laid (old : Option Setting) (news : List Setting) : Option Setting :=
  news.foldl (fun old new => some (merge old new)) old

theorem laid_cons (old : Option Setting) (new : Setting) (news : List Setting) :
    laid old (new :: news) = laid (some (merge old new)) news := rfl

theorem laid_append (old : Option Setting) (news more : List Setting) :
    laid old (news ++ more) = laid (laid old news) more := List.foldl_append

theorem laid_some (old : Setting) (news : List Setting) : ∃ v, laid (some old) news = some v := by
  induction news generalizing old with
  | nil => exact ⟨old, rfl⟩
  | cons new news ih => exact ih (merge (some old) new)

/-- Anything but an empty table, which leaves everything as it was. -/
def sets : Setting → Bool
  | .table [] => false
  | _ => true

theorem eq_of_not_sets {v : Setting} (h : v.sets = false) : v = .table [] := by
  unfold sets at h
  split at h
  · rfl
  · cases h

/-- The values that entries give a key, one after the other. -/
def valuesOf (key : String) (es : List (String × Setting)) : List Setting :=
  (es.filter fun e => Text.lower e.1 = key).map Prod.snd

theorem valuesOf_cons (key : String) (e : String × Setting) (es : List (String × Setting)) :
    valuesOf key (e :: es) =
      if Text.lower e.1 = key then e.2 :: valuesOf key es else valuesOf key es := by
  unfold valuesOf
  split <;> simp [*]

/-- Under every key, the values that entries give it are laid over what there was. -/
theorem lookup_mergeEntries (key : String) (es : List (String × Setting)) (target : Setting) :
    (mergeEntries target es).entries.lookup key =
      laid (target.entries.lookup key) (valuesOf key es) := by
  induction es generalizing target with
  | nil => rfl
  | cons e es ih =>
    rw [mergeEntries, ih, valuesOf_cons]
    simp only [entries, lookup_alter]
    by_cases same : Text.lower e.1 = key
    · subst same
      rw [if_pos rfl, if_pos rfl]
      rfl
    · rw [if_neg (Ne.symm same), if_neg same]

theorem mergeEntries_table (old es : List (String × Setting)) :
    ∃ new, mergeEntries (.table old) es = .table new := by
  induction es generalizing old with
  | nil => exact ⟨old, rfl⟩
  | cons e es ih => exact ih _

theorem merge_of_sets {old : Option Setting} {es : List (String × Setting)}
    (h : (Setting.table es).sets = true) : ∃ new, merge old (.table es) = .table new := by
  cases es with
  | nil => cases h
  | cons e es => exact mergeEntries_table _ es

/-- Entries that all give the same key leave it the only one. -/
theorem mergeEntries_same {name : String} {es : List (String × Setting)}
    (same : ∀ e ∈ es, Text.lower e.1 = name) (x : Setting) :
    ∃ y, mergeEntries (.table [(name, x)]) es = .table [(name, y)] := by
  induction es generalizing x with
  | nil => exact ⟨x, rfl⟩
  | cons e es ih =>
    rw [List.forall_mem_cons] at same
    rw [mergeEntries, same.1]
    simp only [entries, alter, if_pos]
    exact ih same.2 _

/-- A table that has one key left once entries are merged into it was given no other. -/
theorem lower_eq_of_mergeEntries {name : String} {x target : Setting}
    {es : List (String × Setting)} (merged : mergeEntries target es = .table [(name, x)]) :
    ∀ e ∈ es, Text.lower e.1 = name := by
  intro e he
  have given : valuesOf (Text.lower e.1) es ≠ [] := by
    have found : e.2 ∈ valuesOf (Text.lower e.1) es :=
      List.mem_map_of_mem (List.mem_filter.2 ⟨he, decide_eq_true rfl⟩)
    exact List.ne_nil_of_mem found
  have found := lookup_mergeEntries (Text.lower e.1) es target
  obtain ⟨v, vs, split⟩ := List.exists_cons_of_ne_nil given
  obtain ⟨y, there⟩ := laid_some (merge (target.entries.lookup (Text.lower e.1)) v) vs
  rw [merged, split, laid_cons, there] at found
  by_cases spelled : Text.lower e.1 = name
  · exact spelled
  · rw [entries, lookup_cons_of_ne spelled] at found
    cases found

/-- What is read of a value over another is read of the value alone. -/
def Overrules {α : Type} (read : Setting → Except SettingsError α) : Prop :=
  ∀ (old v : Setting) (a : α), v.sets = true → read (merge (some old) v) = .ok a →
    read (merge none v) = .ok a

theorem overrules_of_no_table {α : Type} {read : Setting → Except SettingsError α}
    (none : ∀ es a, read (.table es) ≠ .ok a) : Overrules read := by
  intro old v a sets h
  cases v with
  | table es =>
    obtain ⟨new, merged⟩ : ∃ new, merge (some old) (.table es) = .table new := merge_of_sets sets
    rw [merged] at h
    exact absurd h (none new a)
  | _ => exact h

theorem overrules_toFlag (key : String) : Overrules (toFlag key) := overrules_of_no_table nofun

theorem overrules_toText (key : String) : Overrules (toText key) := overrules_of_no_table nofun

theorem toPolicy_table_eq_ok {es : List (String × Setting)} {p : Policy}
    (h : toPolicy (.table es) = .ok p) : ∃ name v, es = [(name, v)] ∧ policyNamed name = .ok p := by
  unfold toPolicy at h
  split at h
  · rename_i same
    cases same
  · rename_i name v same
    cases same
    exact ⟨name, v, rfl, h⟩
  · cases h

/-- A table is only read as a policy if its key is the only one that was merged. -/
theorem overrules_toPolicy : Overrules toPolicy := by
  intro old v p sets h
  cases v with
  | table es =>
    obtain ⟨new, merged⟩ : ∃ new, merge (some old) (.table es) = .table new := merge_of_sets sets
    rw [merged] at h
    -- only one key is left, so none but this can have been merged
    obtain ⟨name, x, rfl, named⟩ := toPolicy_table_eq_ok h
    have same : ∀ e ∈ es, Text.lower e.1 = name := lower_eq_of_mergeEntries merged
    obtain ⟨y, alone⟩ : ∃ y, merge none (.table es) = .table [(name, y)] := by
      cases es with
      | nil => cases sets
      | cons e es =>
        rw [List.forall_mem_cons] at same
        rw [merge, mergeEntries, same.1]
        exact mergeEntries_same same.2 _
    rw [alone]
    exact named
  | _ => exact h

/-- The last of some values that is not an empty table, or else the value before them. -/
def lastSet (first : Setting) (news : List Setting) : Setting :=
  (news.filter sets).getLast?.getD first

/-- Over the first value, what is read is the last that sets anything. -/
theorem Overrules.read_lastSet {α : Type} {read : Setting → Except SettingsError α}
    (overrules : Overrules read) {first v : Setting} {a : α} {news : List Setting}
    (alone : merge none first = first) (there : laid (some first) news = some v)
    (h : read v = .ok a) : read (merge none (lastSet first news)) = .ok a := by
  induction news using List.reverseRecOn generalizing v with
  | nil =>
    cases there
    rwa [lastSet, List.filter_nil, List.getLast?_nil, Option.getD_none, alone]
  | append_singleton news new ih =>
    obtain ⟨old, before⟩ := laid_some first news
    rw [laid_append, before] at there
    cases there
    cases sets : new.sets with
    | true =>
      have last : lastSet first (news ++ [new]) = new := by simp [lastSet, sets]
      rw [last]
      exact overrules old new a sets h
    | false =>
      have skipped : lastSet first (news ++ [new]) = lastSet first news := by simp [lastSet, sets]
      rw [skipped]
      rw [eq_of_not_sets sets] at h
      exact ih before h

end Knitting.Setting
