import Knitting.Fabric.Action

/-! # What goes for every craft

Where two crafts do the same with a stitch, with a marker action and with what they count, they do
the same with every expression and every row. The passes of a repeat can be made with a note of
where each begins, and come to what they come to without.
-/
namespace Knitting

mutual

/-- The expression with each marker action replaced. -/
def Expr.replaceMarkers (f : MarkerAction → Expr) : Expr → Expr
  | .stitch s => .stitch s
  | .group es => .group (Expr.replaceAllMarkers f es)
  | .times e count => .times (e.replaceMarkers f) count
  | .leaving e count => .leaving (e.replaceMarkers f) count
  | .marker action => f action

def Expr.replaceAllMarkers (f : MarkerAction → Expr) : List Expr → List Expr
  | [] => []
  | e :: es => e.replaceMarkers f :: Expr.replaceAllMarkers f es

end

theorem Expr.replaceAllMarkers_eq_self {es : List Expr}
    (h : ∀ e ∈ es, e.replaceMarkers .marker = e) : replaceAllMarkers .marker es = es := by
  induction es with
  | nil => rfl
  | cons e es ih =>
    rw [replaceAllMarkers, h e List.mem_cons_self, ih fun e he => h e (List.mem_cons_of_mem _ he)]

theorem Expr.replaceMarkers_marker (e : Expr) : e.replaceMarkers .marker = e := by
  induction e with
  | stitch s => rfl
  | group es ih => rw [replaceMarkers, replaceAllMarkers_eq_self ih]
  | times e count ih => rw [replaceMarkers, ih]
  | leaving e count ih => rw [replaceMarkers, ih]
  | marker action => rfl

namespace Craft

variable {σ τ ε δ ν μ α β : Type}

/-- Results of one and the same work. Nothing is asked of the second where the first stops in a way
that is excused. -/
inductive Matched (ends : α → β → Prop) (stops : ε → δ → Prop) (excused : ε → Prop) :
    Except ε α → Except δ β → Prop
  | ok {a : α} {b : β} (h : ends a b) : Matched ends stops excused (.ok a) (.ok b)
  | stop {e : ε} {d : δ} (h : stops e d) : Matched ends stops excused (.error e) (.error d)
  | excused {e : ε} (h : excused e) (result : Except δ β) :
    Matched ends stops excused (.error e) result

variable {states : σ → τ → Prop} {stops : ε → δ → Prop} {excused : ε → Prop}

theorem Matched.map {α' β' : Type} {ends : α → β → Prop} {ends' : α' → β' → Prop} {f : α → α'}
    {g : β → β'} {x : Except ε α} {y : Except δ β} (h : Matched ends stops excused x y)
    (onto : ∀ a b, ends a b → ends' (f a) (g b)) :
    Matched ends' stops excused (x.map f) (y.map g) := by
  cases h with
  | ok h => exact .ok (onto _ _ h)
  | stop h => exact .stop h
  | excused h => exact .excused h _

theorem Matched.bind {α' β' : Type} {ends : α → β → Prop} {ends' : α' → β' → Prop}
    {x : Except ε α} {y : Except δ β} {f : α → Except ε α'} {g : β → Except δ β'}
    (h : Matched ends stops excused x y)
    (next : ∀ a b, ends a b → Matched ends' stops excused (f a) (g b)) :
    Matched ends' stops excused (x >>= f) (y >>= g) := by
  cases h with
  | ok h => exact next _ _ h
  | stop h => exact .stop h
  | excused h => exact .excused h _

theorem Matched.exists_of_ok {ends : α → β → Prop} {x : Except ε α} {y : Except δ β}
    (h : Matched ends stops (fun _ => False) x y) {b : β} (hy : y = .ok b) :
    ∃ a, x = .ok a ∧ ends a b := by
  subst hy
  cases h with
  | ok h => exact ⟨_, rfl, h⟩
  | excused never => exact never.elim

/-- A result of one craft, as another has it. -/
def carried (onto : α → β) (stopped : ε → δ) : Except ε α → Except δ β
  | .ok a => .ok (onto a)
  | .error e => .error (stopped e)

theorem matched_of_carried {kept : α → Prop} {onto : α → β} {stopped : ε → δ} {x : Except ε α}
    {y : Except δ β} (h : y = carried onto stopped x) (keeps : ∀ a, x = .ok a → kept a) :
    Matched (fun a b => b = onto a ∧ kept a) (fun e d => d = stopped e) excused x y := by
  subst h
  cases x with
  | error e => exact .stop rfl
  | ok a => exact .ok ⟨rfl, keeps a rfl⟩

/-- Where ends and stops leave no choice, a result is told by the one that it matches. -/
theorem Matched.eq_carried {ends : α → β → Prop} {onto : α → β} {stopped : ε → δ}
    {x : Except ε α} {y : Except δ β} (h : Matched ends stops (fun _ => False) x y)
    (ended : ∀ a b, ends a b → b = onto a) (halted : ∀ e d, stops e d → d = stopped e) :
    y = carried onto stopped x := by
  cases h with
  | ok h => exact congrArg Except.ok (ended _ _ h)
  | stop h => exact congrArg Except.error (halted _ _ h)
  | excused never => exact never.elim

theorem matched_self {same : α → α → Prop} {stops : ε → ε → Prop} (refl : ∀ a, same a a)
    {x : Except ε α} (h : ∀ e, x = .error e → stops e e) :
    Matched same stops (fun _ => False) x x := by
  cases x with
  | error e => exact .stop (h e rfl)
  | ok a => exact .ok (refl a)

/-- Passes that match make repeats that match, and stop early together. -/
theorem matched_repeatPasses {count : σ → Nat} {count' : τ → Nat} {pass : σ → Except ε σ}
    {pass' : τ → Except δ τ} (counts : ∀ a b, states a b → count' b = count a)
    (same : ∀ a b, states a b → Matched states stops excused (pass a) (pass' b)) (passes : Nat)
    (idle : Bool) {a : σ} {b : τ} (h : states a b) :
    Matched states stops excused (repeatPasses count pass passes idle a)
      (repeatPasses count' pass' passes idle b) := by
  induction passes generalizing idle a b with
  | zero => exact .ok h
  | succ passes ih =>
    rw [repeatPasses, repeatPasses, counts a b h]
    have first := same a b h
    generalize pass a = result, pass' b = result' at first
    cases first with
    | ok reached =>
      dsimp only
      rw [counts _ _ reached]
      split
      · split
        · exact .ok reached
        · exact ih true reached
      · exact ih idle reached
    | stop h => exact .stop h
    | excused h => exact .excused h _

/-- What a pass keeps is kept by every repeat of it. -/
theorem repeatPasses_keeps {P : σ → Prop} {count : σ → Nat} {pass : σ → Except ε σ}
    (keeps : ∀ a b, pass a = .ok b → P a → P b) {passes : Nat} {idle : Bool} {a b : σ}
    (h : repeatPasses count pass passes idle a = .ok b) (start : P a) : P b := by
  have same : ∀ a b, (a = b ∧ P a) →
      Matched (fun a b => a = b ∧ P a) (fun (_ _ : ε) => True) (fun _ => False)
        (pass a) (pass b) := by
    rintro a _ ⟨rfl, start⟩
    cases first : pass a with
    | error e => exact .stop trivial
    | ok next => exact .ok ⟨rfl, keeps a next first start⟩
  have all : Matched (fun a b => a = b ∧ P a) (fun (_ _ : ε) => True) (fun _ => False)
      (repeatPasses count pass passes idle a) (repeatPasses count pass passes idle a) :=
    matched_repeatPasses (fun _ _ same => by rw [same.1]) same passes idle ⟨rfl, start⟩
  rw [h] at all
  cases all with
  | ok kept => exact kept.2

section Notes

def attach (starts : List σ) : Except ε σ → Except (ε × List σ) (σ × List σ)
  | .error stop => .error (stop, starts)
  | .ok a => .ok (a, starts)

def plain : Except (ε × List σ) (σ × List σ) → Except ε σ
  | .error (stop, _) => .error stop
  | .ok (a, _) => .ok a

@[simp] theorem plain_attach (starts : List σ) (result : Except ε σ) :
    plain (attach starts result) = result := by cases result <;> rfl

@[simp] theorem notes_attach (starts : List σ) (result : Except ε σ) :
    notes (attach starts result) = starts := by cases result <;> rfl

theorem noting_eq_attach (pass : σ → Except ε σ) (a : σ) (starts : List σ) :
    noting pass (a, starts) = attach (a :: starts) (pass a) := by
  rw [noting]
  cases pass a <;> rfl

variable (count : σ → Nat) (pass : σ → Except ε σ)

/-- The notes of the passes come on top of those made before, and change nothing else. -/
theorem repeatPasses_noting (passes : Nat) (idle : Bool) (a : σ) (before : List σ) :
    repeatPasses (fun s => count s.1) (noting pass) passes idle (a, before) =
      attach ((passStarts count pass passes idle a).reverse ++ before)
        (repeatPasses count pass passes idle a) := by
  induction passes generalizing idle a before with
  | zero => simp [repeatPasses, passStarts, attach, notes]
  | succ passes ih =>
    rw [passStarts, repeatPasses, repeatPasses, repeatPasses, noting_eq_attach, noting_eq_attach]
    cases pass a with
    | error stop => rfl
    | ok next =>
      dsimp only [attach]
      split
      · split
        · rfl
        · rw [ih, ih, notes_attach, List.reverse_reverse, List.append_assoc]
          rfl
      · rw [ih, ih, notes_attach, List.reverse_reverse, List.append_assoc]
        rfl

theorem repeatPasses_noting_nil (passes : Nat) (idle : Bool) (a : σ) :
    repeatPasses (fun s => count s.1) (noting pass) passes idle (a, []) =
      attach (passStarts count pass passes idle a).reverse
        (repeatPasses count pass passes idle a) := by
  rw [repeatPasses_noting, List.append_nil]

theorem passStarts_succ (passes : Nat) (idle : Bool) (a : σ) :
    passStarts count pass (passes + 1) idle a =
      a :: match pass a with
        | .error _ => []
        | .ok next =>
          if count next = count a then
            if idle then [] else passStarts count pass passes true next
          else passStarts count pass passes idle next := by
  rw [passStarts, repeatPasses, noting_eq_attach]
  cases pass a with
  | error stop => rfl
  | ok next =>
    simp only [attach]
    split
    · split
      · rfl
      · simp only [repeatPasses_noting, notes_attach, List.reverse_append, List.reverse_reverse,
          List.reverse_singleton, List.singleton_append]
    · simp only [repeatPasses_noting, notes_attach, List.reverse_append, List.reverse_reverse,
        List.reverse_singleton, List.singleton_append]

end Notes

section Follows

variable [Tally ν] [DecidableEq ν] [Tally μ] [DecidableEq μ] {c : Craft σ ε ν} {d : Craft τ δ μ}

/-- The second craft does what the first does, from every two states that stand for each other; in
place of each marker action it works an expression. -/
structure Follows (c : Craft σ ε ν) (d : Craft τ δ μ) (marks : MarkerAction → Expr)
    (states : σ → τ → Prop) (stops : ε → δ → Prop) (excused : ε → Prop) : Prop where
  count : ∀ a b, states a b → d.count b = c.count a
  work : ∀ s a b, states a b → Matched states stops excused (c.work s a) (d.work s b)
  mark : ∀ action a b, states a b →
    Matched states stops excused (c.mark action a) (d.expand (marks action) b)
  budget : ∀ content a b, states a b →
    Matched
      (fun p q => Tally.toNat p.1 = Tally.toNat q.1 ∧ Tally.toNat p.2 = Tally.toNat q.2)
      stops excused (c.budget content a) (d.budget (content.replaceMarkers marks) b)

/-- What is left of the previous row is the same where the previous row, what has been worked of it
and the content are. -/
theorem matched_budget {content content' : Expr} {a : σ} {b : τ}
    (available : (c.available a).map Tally.toNat = (d.available b).map Tally.toNat)
    (worked : Tally.toNat (c.worked a) = Tally.toNat (d.worked b))
    (advance : Tally.toNat (c.advance content) = Tally.toNat (d.advance content'))
    (first : stops (c.stop (.noPreviousRow (c.place a)) a) (d.stop (.noPreviousRow (d.place b)) b))
    (still : stops (c.stop (.zeroAdvanceRepeat (c.place a)) a)
      (d.stop (.zeroAdvanceRepeat (d.place b)) b)) :
    Matched (fun p q => Tally.toNat p.1 = Tally.toNat q.1 ∧ Tally.toNat p.2 = Tally.toNat q.2)
      stops excused (c.budget content a) (d.budget content' b) := by
  have zero : c.advance content = 0 ↔ d.advance content' = 0 := by
    constructor
    · intro h
      exact Tally.eq_of_toNat (by rw [← advance, h, Tally.toNat_zero, Tally.toNat_zero])
    · intro h
      exact Tally.eq_of_toNat (by rw [advance, h, Tally.toNat_zero, Tally.toNat_zero])
  rw [Craft.budget, Craft.budget]
  cases below : c.available a <;> cases below' : d.available b <;> rw [below, below'] at available
  · exact .stop first
  · cases available
  · cases available
  · have same := Option.some.inj available
    dsimp only
    by_cases none : c.advance content = 0
    · rw [if_pos none, if_pos (zero.1 none)]
      exact .stop still
    · rw [if_neg none, if_neg (mt zero.2 none)]
      refine .ok ⟨?_, advance⟩
      rw [Tally.toNat_minus, Tally.toNat_minus, same, worked]

variable {marks : MarkerAction → Expr} (h : Follows c d marks states stops excused)
include h

namespace Follows

theorem passesOf (content : Expr) (count : UInt32) {a : σ} {b : τ} (here : states a b) :
    Matched (fun p q => Tally.toNat p = Tally.toNat q) stops excused
      (c.passesOf content count a) (d.passesOf (content.replaceMarkers marks) count b) := by
  rw [Craft.passesOf, Craft.passesOf]
  split
  · refine (h.budget content a b here).map fun p q same => ?_
    rw [Tally.toNat_div, Tally.toNat_div, same.1, same.2]
  · exact .ok (by rw [Tally.toNat_ofWord, Tally.toNat_ofWord])

theorem passesLeaving (content : Expr) (count : UInt32) {a : σ} {b : τ} (here : states a b) :
    Matched (fun p q => Tally.toNat p = Tally.toNat q) stops excused
      (c.passesLeaving content count a)
      (d.passesLeaving (content.replaceMarkers marks) count b) := by
  refine (h.budget content a b here).map fun p q same => ?_
  rw [Tally.toNat_div, Tally.toNat_div, Tally.toNat_minus, Tally.toNat_minus, Tally.toNat_ofWord,
    Tally.toNat_ofWord, same.1, same.2]

omit h in
theorem expandAll {es : List Expr}
    (each : ∀ e ∈ es, ∀ a b, states a b →
      Matched states stops excused (c.expand e a) (d.expand (e.replaceMarkers marks) b))
    {a : σ} {b : τ} (here : states a b) :
    Matched states stops excused (c.expandAll es a)
      (d.expandAll (Expr.replaceAllMarkers marks es) b) := by
  induction es generalizing a b with
  | nil => exact .ok here
  | cons e es ih =>
    rw [Expr.replaceAllMarkers, Craft.expandAll, Craft.expandAll]
    exact (each e List.mem_cons_self a b here).bind
      fun _ _ => ih fun e he => each e (List.mem_cons_of_mem _ he)

/-- Crafts that go together with single actions go together with every expression. -/
theorem expand (e : Expr) {a : σ} {b : τ} (here : states a b) :
    Matched states stops excused (c.expand e a) (d.expand (e.replaceMarkers marks) b) := by
  induction e generalizing a b with
  | stitch s => exact h.work s a b here
  | group es ih =>
    rw [Expr.replaceMarkers, Craft.expand, Craft.expand]
    exact expandAll (fun e he a b => ih e he) here
  | times e count ih =>
    rw [Expr.replaceMarkers, Craft.expand, Craft.expand]
    refine (h.passesOf e count here).bind fun passes passes' same => ?_
    rw [same]
    exact matched_repeatPasses h.count (fun a b => ih) _ false here
  | leaving e count ih =>
    rw [Expr.replaceMarkers, Craft.expand, Craft.expand]
    refine (h.passesLeaving e count here).bind fun passes passes' same => ?_
    rw [same]
    exact matched_repeatPasses h.count (fun a b => ih) _ false here
  | marker action => exact h.mark action a b here

/-- The row as a whole needs the check at its end besides. -/
theorem workRow
    (received : ∀ a b, states a b →
      Matched (fun p q => Tally.toNat p = Tally.toNat q) stops excused (c.received a)
        (d.received b))
    (available : ∀ a b, states a b →
      (c.available a).map Tally.toNat = (d.available b).map Tally.toNat)
    (mismatch : ∀ a b, states a b → ∀ expected received,
      stops (c.stop (.countMismatch (c.place a) expected received) a)
        (d.stop (.countMismatch (d.place b) expected received) b))
    (content : List Expr) {a : σ} {b : τ} (here : states a b) :
    Matched states stops excused (c.workRow content a)
      (d.workRow (Expr.replaceAllMarkers marks content) b) := by
  rw [Craft.workRow, Craft.workRow]
  refine (expandAll (fun e _ _ _ => h.expand e) here).bind fun done done' reached => ?_
  refine (received done done' reached).bind fun sum sum' equal => ?_
  have below := available done done' reached
  cases first : c.available done <;> cases second : d.available done' <;>
    rw [first, second] at below
  · exact .ok reached
  · cases below
  · cases below
  · rename_i expected expected'
    have same := Option.some.inj below
    have met : expected = sum ↔ expected' = sum' := by
      constructor
      · rintro rfl
        exact Tally.eq_of_toNat (same.symm.trans equal)
      · rintro rfl
        exact Tally.eq_of_toNat (same.trans equal.symm)
    dsimp only
    by_cases whole : expected = sum
    · rw [if_pos whole, if_pos (met.1 whole)]
      exact .ok reached
    · rw [if_neg whole, if_neg (mt met.2 whole), same, equal]
      exact .stop (mismatch done done' reached _ _)

end Follows
end Follows
end Craft
end Knitting
