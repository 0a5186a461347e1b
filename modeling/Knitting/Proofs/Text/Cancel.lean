import Mathlib.Data.List.TakeWhile

/-! # Telling apart what a list begins with

Two lists that each begin with the spelling of something are the same list. If a spelling is told
from what stands behind it, so are spellings side by side, provided that what follows the last of
them does not begin as a spelling does.
-/
namespace Knitting

section Cancel
variable {α β κ : Type} {p q : β → Bool} {b : β} {bs bs' r r' : List β}

/-- Nothing, or something that is not of the kind, is first in the list. -/
def NotFirst (p : β → Bool) (bs : List β) : Prop := ∀ b ∈ bs.head?, p b = false

@[simp] theorem notFirst_nil (p : β → Bool) : NotFirst p [] := by simp [NotFirst]

@[simp] theorem notFirst_cons : NotFirst p (b :: bs) ↔ p b = false := by simp [NotFirst]

theorem NotFirst.mono (h : NotFirst p bs) (imp : ∀ b, p b = false → q b = false) : NotFirst q bs :=
  fun b hb => imp b (h b hb)

theorem NotFirst.ne_append (notFirst : NotFirst p r) (first : p b = true) :
    r ≠ b :: bs ++ r' := by
  rintro rfl
  rw [List.cons_append, notFirst_cons, first] at notFirst
  cases notFirst

theorem takeWhile_append_of_notFirst (all : ∀ b ∈ bs, p b = true) (hr : NotFirst p r) :
    (bs ++ r).takeWhile p = bs := by
  have stop : r.takeWhile p = [] := by
    cases r with
    | nil => rfl
    | cons c r => rw [List.takeWhile_cons, if_neg (by simp [notFirst_cons.1 hr])]
  rw [List.takeWhile_append_of_pos all, stop, List.append_nil]

/-- Where a stretch of one kind ends. -/
theorem NotFirst.cancel (hr : NotFirst p r) (hr' : NotFirst p r') (all : ∀ b ∈ bs, p b = true)
    (all' : ∀ b ∈ bs', p b = true) (h : bs ++ r = bs' ++ r') : bs = bs' ∧ r = r' := by
  have stretch := congrArg (List.takeWhile p) h
  rw [takeWhile_append_of_notFirst all hr, takeWhile_append_of_notFirst all' hr'] at stretch
  subst stretch
  exact ⟨rfl, List.append_cancel_left h⟩

/-- Spellings side by side tell as much of the things in turn as one of them tells of its thing. -/
theorem flatMap_key_cancel {spell : α → List β} {begins : β → Bool} {k : α → κ}
    (Follows : List β → Prop) (start : ∀ a, ∃ b bs, spell a = b :: bs ∧ begins b = true)
    (next : ∀ b bs, begins b = true → Follows (b :: bs)) {as as' : List α}
    (cancel : ∀ a ∈ as, ∀ a' ∈ as', ∀ r r', Follows r → Follows r' →
      spell a ++ r = spell a' ++ r' → k a = k a' ∧ r = r')
    (hr : Follows r) (hr' : Follows r') (ended : NotFirst begins r) (ended' : NotFirst begins r')
    (h : as.flatMap spell ++ r = as'.flatMap spell ++ r') : as.map k = as'.map k ∧ r = r' := by
  -- What follows a spelling is the next one, or else what follows the last.
  have follows : ∀ (cs : List α) s, Follows s → Follows (cs.flatMap spell ++ s) := by
    intro cs s hs
    cases cs with
    | nil => exact hs
    | cons c cs =>
      obtain ⟨b, bs, hb, hbegin⟩ := start c
      rw [List.flatMap_cons, hb]
      exact next b _ hbegin
  have apart : ∀ c cs s s', NotFirst begins s' → (c :: cs).flatMap spell ++ s ≠ s' := by
    intro c cs s s' ended heq
    obtain ⟨b, bs, hb, hbegin⟩ := start c
    rw [List.flatMap_cons, hb, List.append_assoc] at heq
    exact ended.ne_append hbegin heq.symm
  induction as generalizing as' with
  | nil =>
    cases as' with
    | nil => exact ⟨rfl, h⟩
    | cons a' as' => exact absurd h.symm (apart a' as' r' r ended)
  | cons a as ih =>
    cases as' with
    | nil => exact absurd h (apart a as r r' ended')
    | cons a' as' =>
      rw [List.flatMap_cons, List.flatMap_cons, List.append_assoc, List.append_assoc] at h
      obtain ⟨same, rest⟩ := cancel a List.mem_cons_self a' List.mem_cons_self _ _
        (follows as r hr) (follows as' r' hr') h
      obtain ⟨more, behind⟩ := ih (fun c hc c' hc' =>
        cancel c (List.mem_cons_of_mem a hc) c' (List.mem_cons_of_mem a' hc')) rest
      exact ⟨by rw [List.map_cons, List.map_cons, same, more], behind⟩

end Cancel
end Knitting
