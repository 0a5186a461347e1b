import Knitting.Fabric.Place

/-! The markers on the needle. Each name stands for one place; the names are kept in the order
of their code points. -/
namespace Knitting

structure MarkerTable where
  entries : List (Char × Place) := []
  sorted : entries.Pairwise fun a b => a.1 < b.1 := by simp
  deriving DecidableEq, Repr

namespace MarkerTable

def empty : MarkerTable := {}

def size (t : MarkerTable) : Nat := t.entries.length

def get? (t : MarkerTable) (name : Char) : Option Place := t.entries.lookup name

/-- Entries with `name` at `place`, at the point where `name` belongs. -/
def insertEntry (name : Char) (place : Place) : List (Char × Place) → List (Char × Place)
  | [] => [(name, place)]
  | (c, p) :: rest =>
    if name < c then (name, place) :: (c, p) :: rest
    else if name = c then (name, place) :: rest
    else (c, p) :: insertEntry name place rest

theorem mem_insertEntry {name : Char} {place : Place} {entries : List (Char × Place)}
    {e : Char × Place} (h : e ∈ insertEntry name place entries) :
    e = (name, place) ∨ e ∈ entries := by
  induction entries with
  | nil => simpa [insertEntry] using h
  | cons x rest ih =>
    obtain ⟨c, p⟩ := x
    simp only [insertEntry] at h
    split at h
    · simpa using h
    · split at h
      · rcases List.mem_cons.1 h with h | h
        · exact .inl h
        · exact .inr (List.mem_cons_of_mem _ h)
      · rcases List.mem_cons.1 h with h | h
        · exact .inr (h ▸ List.mem_cons_self)
        · exact (ih h).imp_right (List.mem_cons_of_mem _)

theorem sorted_insertEntry (name : Char) (place : Place) {entries : List (Char × Place)}
    (h : entries.Pairwise fun a b => a.1 < b.1) :
    (insertEntry name place entries).Pairwise fun a b => a.1 < b.1 := by
  induction entries with
  | nil => simp [insertEntry]
  | cons x rest ih =>
    obtain ⟨c, p⟩ := x
    rw [List.pairwise_cons] at h
    simp only [insertEntry]
    split
    · rename_i lt
      refine List.pairwise_cons.2 ⟨fun e he => ?_, List.pairwise_cons.2 h⟩
      rcases List.mem_cons.1 he with rfl | he
      · exact lt
      · exact Char.lt_trans lt (h.1 e he)
    · rename_i not_lt
      split
      · rename_i eq
        exact List.pairwise_cons.2 ⟨fun e he => eq ▸ h.1 e he, h.2⟩
      · rename_i ne
        refine List.pairwise_cons.2 ⟨fun e he => ?_, ih h.2⟩
        rcases mem_insertEntry he with rfl | he
        · exact Char.not_le.1 fun le => ne (Char.le_antisymm le (Char.not_lt.1 not_lt))
        · exact h.1 e he

def put (t : MarkerTable) (name : Char) (place : Place) : MarkerTable :=
  ⟨insertEntry name place t.entries, sorted_insertEntry name place t.sorted⟩

def erase (t : MarkerTable) (name : Char) : MarkerTable :=
  ⟨t.entries.filter (·.1 ≠ name), t.sorted.filter _⟩

end MarkerTable

end Knitting
