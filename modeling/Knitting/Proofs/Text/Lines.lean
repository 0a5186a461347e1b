import Knitting.Pattern.Listing

/-! # Lines of a text

A text of lines that each end in a line feed is taken apart into those lines again, if no line has
a line feed in it.
-/
namespace Knitting

def linesOf (text : String) : List String := (text.toList.splitOn '\n').dropLast.map String.ofList

variable {ls ls' : List String}

/-- Behind the last line feed there is nothing. -/
theorem splitOn_unlines (plain : ∀ l ∈ ls, '\n' ∉ l.toList) :
    (unlines ls).toList.splitOn '\n' = ls.map String.toList ++ [[]] := by
  induction ls with
  | nil => rfl
  | cons l ls ih =>
    rw [List.forall_mem_cons] at plain
    have first : (unlines (l :: ls)).toList = l.toList ++ '\n' :: (unlines ls).toList := by
      simp [unlines]
    rw [first, List.splitOn_append_cons_self_of_not_mem plain.1, ih plain.2, List.map_cons,
      List.cons_append]

theorem linesOf_unlines (plain : ∀ l ∈ ls, '\n' ∉ l.toList) : linesOf (unlines ls) = ls := by
  rw [linesOf, splitOn_unlines plain, List.dropLast_concat, List.map_map]
  exact List.map_id'' (fun l => String.ofList_toList) ls

/-- Texts of lines are told apart by their lines. -/
theorem unlines_inj (plain : ∀ l ∈ ls, '\n' ∉ l.toList) (plain' : ∀ l ∈ ls', '\n' ∉ l.toList)
    (h : unlines ls = unlines ls') : ls = ls' := by
  rw [← linesOf_unlines plain, h, linesOf_unlines plain']

theorem join_map_unlines {α : Type} (lines : α → List String) (as : List α) :
    String.join (as.map fun a => unlines (lines a)) = unlines (as.flatMap lines) := by
  rw [← String.toList_inj]
  simp only [unlines, String.toList_join, List.flatMap_map, List.flatMap_assoc]

end Knitting
