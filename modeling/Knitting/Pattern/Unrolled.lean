import Knitting.Pattern.Basic

/-! The rows of a pattern in the order in which they are worked. Blocks can ask for billions of
rows, so the rows are visited one by one and a visit may break off; the list of all of them is
there for statements about the visit. -/
namespace Knitting

variable {σ ε : Type}

/-- Does `f` up to `n` times, until it breaks off. -/
def replay (f : σ → Except ε σ) : Nat → σ → Except ε σ
  | 0, s => .ok s
  | n + 1, s =>
    match f s with
    | .error e => .error e
    | .ok s => replay f n s

/-- Visits a list from its first element on, until a visit breaks off. -/
def visit {α : Type} (f : σ → α → Except ε σ) : List α → σ → Except ε σ
  | [], s => .ok s
  | a :: as, s =>
    match f s a with
    | .error e => .error e
    | .ok s => visit f as s

theorem visit_append {α : Type} (f : σ → α → Except ε σ) (as bs : List α) (s : σ) :
    visit f (as ++ bs) s =
      match visit f as s with
      | .error e => .error e
      | .ok s => visit f bs s := by
  induction as generalizing s with
  | nil => rfl
  | cons a as ih =>
    simp only [List.cons_append, visit]
    cases f s a with
    | error e => rfl
    | ok s => exact ih s

/-- Visits made over and over are one visit of the list written out. -/
theorem replay_visit {α : Type} (f : σ → α → Except ε σ) (as : List α) (n : Nat) (s : σ) :
    replay (visit f as) n s = visit f (List.replicate n as).flatten s := by
  induction n generalizing s with
  | zero => rfl
  | succ n ih =>
    rw [List.replicate_succ, List.flatten_cons, visit_append, replay]
    cases visit f as s with
    | error e => rfl
    | ok s => exact ih s

namespace Block

def unrolled (b : Block) : List Row := (List.replicate b.count.toNat b.rows).flatten

/-- Visits the rows of a block in order, as often as the block says. A block without rows is
done at once, whatever its count. -/
def visitRows (f : σ → Row → Except ε σ) (b : Block) (s : σ) : Except ε σ :=
  if b.rows.isEmpty then .ok s else replay (visit f b.rows) b.count.toNat s

theorem visitRows_eq_unrolled (f : σ → Row → Except ε σ) (b : Block) (s : σ) :
    b.visitRows f s = visit f b.unrolled s := by
  simp only [visitRows, unrolled]
  generalize b.count.toNat = n
  split
  · rename_i h
    rw [List.isEmpty_iff.1 h]
    induction n with
    | zero => rfl
    | succ n ih => simpa [List.replicate_succ] using ih
  · exact replay_visit f b.rows n s

end Block

namespace Item

def unrolled : Item → List Row
  | .row r => [r]
  | .block b => b.unrolled

def visitRows (f : σ → Row → Except ε σ) : Item → σ → Except ε σ
  | .row r, s => f s r
  | .block b, s => b.visitRows f s

theorem visitRows_eq_unrolled (f : σ → Row → Except ε σ) (i : Item) (s : σ) :
    i.visitRows f s = visit f i.unrolled s := by
  cases i with
  | row r =>
    simp only [visitRows, unrolled, visit]
    cases f s r <;> rfl
  | block b => exact b.visitRows_eq_unrolled f s

end Item

namespace Section

def unrolled (sec : Section) : List Row := sec.content.flatMap Item.unrolled

def visitRows (f : σ → Row → Except ε σ) (sec : Section) (s : σ) : Except ε σ :=
  visit (fun s i => i.visitRows f s) sec.content s

theorem visitRows_eq_unrolled (f : σ → Row → Except ε σ) (sec : Section) (s : σ) :
    sec.visitRows f s = visit f sec.unrolled s := by
  simp only [visitRows, unrolled]
  generalize sec.content = items
  induction items generalizing s with
  | nil => rfl
  | cons i items ih =>
    rw [List.flatMap_cons, visit_append, visit, Item.visitRows_eq_unrolled]
    cases visit f i.unrolled s with
    | error e => rfl
    | ok s => exact ih s

end Section

end Knitting
