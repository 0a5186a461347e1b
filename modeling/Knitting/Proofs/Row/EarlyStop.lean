import Knitting.Proofs.Row.Markers

/-! # Repeats that stop early

A repeat stops behind the second pass that adds no stitch. The passes left out would change
nothing: a pass without a new stitch is a list of marker actions at one place, every pass behind it
is the same list, and the list done once more leaves the markers where they are. And the stop comes
soon: but for two passes, each adds a stitch to a row that holds at most `rowLimit` of them.
-/
namespace Knitting
namespace Needle

/-- Whatever markers there are, `pass` does one and the same list of marker actions from here. -/
def MarksOnly (pass : Needle → Except Snag Needle) (n : Needle) : Prop :=
  ∃ as, ∀ t, pass (n.withMarkers t) = (n.withMarkers t).markAll as

/-- Working that never takes back a stitch, and that is a list of marker actions wherever it adds
none. -/
structure Steady (pass : Needle → Except Snag Needle) : Prop where
  grows : ∀ n m, pass n = .ok m → n.Extends m
  marksOnly : ∀ n m, pass n = .ok m → m.count = n.count → MarksOnly pass n

theorem MarksOnly.count_eq {pass : Needle → Except Snag Needle} {n m : Needle}
    (h : MarksOnly pass n) {t : MarkerTable} (hm : pass (n.withMarkers t) = .ok m) :
    m.count = n.count := by
  obtain ⟨as, has⟩ := h
  rw [has t] at hm
  rw [eq_withMarkers_of_markAll hm]
  rfl

theorem MarksOnly.andThen {first both : Needle → Except Snag Needle} {n : Needle}
    (hfirst : MarksOnly first n) (second : Needle → Except Snag Needle)
    (hsecond : MarksOnly second n)
    (hboth : ∀ t, both (n.withMarkers t) =
      match first (n.withMarkers t) with
      | .error snag => .error snag
      | .ok next => second next) : MarksOnly both n := by
  obtain ⟨as, has⟩ := hfirst
  obtain ⟨bs, hbs⟩ := hsecond
  refine ⟨as ++ bs, fun t => ?_⟩
  rw [hboth t, has t, markAll_append]
  cases h : (n.withMarkers t).markAll as with
  | error snag => rfl
  | ok next =>
    dsimp only
    rw [eq_withMarkers_of_markAll h, withMarkers_withMarkers, hbs]

theorem steady_work (s : Stitch) : Steady fun n => n.work s where
  grows n m h := extends_of_act (a := .work s) h
  marksOnly n m h hcount := by
    obtain ⟨-, rfl⟩ := work_eq_ok_iff.1 h
    exact absurd hcount (Nat.succ_ne_self _)

theorem steady_mark (a : MarkerAction) : Steady fun n => n.mark a where
  grows n m h := extends_of_act (a := .mark a) h
  marksOnly n m _ _ := by
    refine ⟨[a], fun t => ?_⟩
    dsimp only
    rw [markAll_cons]
    cases (n.withMarkers t).mark a <;> rfl

/-- Where no pass adds a stitch, the idle passes of a repeat are one pass. -/
theorem repeatPasses_idle {pass : Needle → Except Snag Needle} {n : Needle}
    (h : ∀ m, pass n = .ok m → m.count = n.count) (passes : Nat) :
    Craft.repeatPasses count pass (passes + 1) true n = pass n := by
  rw [Craft.repeatPasses]
  cases hn : pass n with
  | error snag => rfl
  | ok next => simp [h next hn]

theorem repeatPasses_first_idle {pass : Needle → Except Snag Needle} {n : Needle}
    (h : ∀ m, pass n = .ok m → m.count = n.count) (passes : Nat) :
    Craft.repeatPasses count pass (passes + 1) false n =
      match pass n with
      | .error snag => .error snag
      | .ok next => Craft.repeatPasses count pass passes true next := by
  rw [Craft.repeatPasses]
  cases hn : pass n with
  | error snag => rfl
  | ok next => simp [h next hn]

theorem grows_repeatPasses {pass : Needle → Except Snag Needle} (hpass : Steady pass)
    {passes : Nat} {idle : Bool} {n m : Needle}
    (h : Craft.repeatPasses count pass passes idle n = .ok m) : n.Extends m :=
  Craft.repeatPasses_keeps (fun next last made grown => grown.trans (hpass.grows next last made)) h
    (.refl n)

theorem marksOnly_repeatPasses {pass : Needle → Except Snag Needle} (hpass : Steady pass)
    {passes : Nat} {idle : Bool} {n m : Needle}
    (h : Craft.repeatPasses count pass passes idle n = .ok m)
    (hcount : m.count = n.count) : MarksOnly (Craft.repeatPasses count pass passes idle) n := by
  induction passes generalizing idle n with
  | zero => exact ⟨[], fun t => rfl⟩
  | succ passes ih =>
    cases hn : pass n with
    | error snag => rw [Craft.repeatPasses, hn] at h; cases h
    | ok next =>
      have first := hpass.grows n next hn
      -- the first pass adds no stitch, since the passes together add none
      have still : next.count = n.count := by
        have rest : next.count ≤ m.count := by
          rw [Craft.repeatPasses] at h
          simp only [hn] at h
          split at h
          · split at h
            · cases h
              exact Nat.le_refl _
            · exact (grows_repeatPasses hpass h).count_le
          · exact (grows_repeatPasses hpass h).count_le
        have := first.count_le
        omega
      have marks := hpass.marksOnly n next hn still
      have counts : ∀ t, ∀ k, pass (n.withMarkers t) = .ok k → k.count = (n.withMarkers t).count :=
        fun t k hk => marks.count_eq hk
      cases idle with
      | true =>
        obtain ⟨as, has⟩ := marks
        exact ⟨as, fun t => (repeatPasses_idle (counts t) passes).trans (has t)⟩
      | false =>
        have here : ∀ k, pass n = .ok k → k.count = n.count := counts n.markers
        rw [repeatPasses_first_idle here, hn] at h
        have later := ih h (hcount.trans still.symm)
        rw [first.eq_withMarkers still] at later
        exact marks.andThen (Craft.repeatPasses count pass passes true) later
          fun t => repeatPasses_first_idle (counts t) passes

/-- Working that begins by asking for the number of its passes, which no marker decides. -/
theorem Steady.ofPasses {pass made : Needle → Except Snag Needle} (hpass : Steady pass)
    {passesAt : Needle → Except Snag Nat}
    (hmade : ∀ n, made n =
      match passesAt n with
      | .error snag => .error snag
      | .ok passes => Craft.repeatPasses count pass passes false n)
    (hat : ∀ n t passes, passesAt n = .ok passes → passesAt (n.withMarkers t) = .ok passes) :
    Steady made where
  grows n m h := by
    rw [hmade] at h
    cases hn : passesAt n with
    | error snag => simp [hn] at h
    | ok passes =>
      simp only [hn] at h
      exact grows_repeatPasses hpass h
  marksOnly n m h hcount := by
    rw [hmade] at h
    cases hn : passesAt n with
    | error snag => simp [hn] at h
    | ok passes =>
      simp only [hn] at h
      obtain ⟨as, has⟩ := marksOnly_repeatPasses hpass h hcount
      refine ⟨as, fun t => ?_⟩
      rw [← has t, hmade]
      simp only [hat n t passes hn]

theorem passesOf_withMarkers (content : Expr) (count : UInt32) (n : Needle) (t : MarkerTable)
    (passes : Nat) (h : n.passesOf content count = .ok passes) :
    (n.withMarkers t).passesOf content count = .ok passes := by
  rw [passesOf_eq_ok_iff] at *
  exact h

theorem passesLeaving_withMarkers (content : Expr) (count : UInt32) (n : Needle)
    (t : MarkerTable) (passes : Nat) (h : n.passesLeaving content count = .ok passes) :
    (n.withMarkers t).passesLeaving content count = .ok passes := by
  rw [passesLeaving_eq_ok_iff] at *
  exact h

theorem steady_expandAll {es : List Expr} (hes : ∀ e ∈ es, Steady e.expand) :
    Steady (Expr.expandAll es) := by
  induction es with
  | nil =>
    refine ⟨fun n m h => ?_, fun n m _ _ => ⟨[], fun t => rfl⟩⟩
    cases h
    exact .refl _
  | cons e es ih =>
    have first := hes e List.mem_cons_self
    have rest := ih fun e he => hes e (List.mem_cons_of_mem _ he)
    constructor
    · intro n m h
      rw [Expr.expandAll_cons] at h
      cases hn : e.expand n with
      | error snag => rw [hn] at h; cases h
      | ok next =>
        rw [hn] at h
        exact (first.grows n next hn).trans (rest.grows next m h)
    · intro n m h hcount
      rw [Expr.expandAll_cons] at h
      cases hn : e.expand n with
      | error snag => rw [hn] at h; cases h
      | ok next =>
        rw [hn] at h
        have begun := first.grows n next hn
        have ended := rest.grows next m h
        have still : next.count = n.count :=
          Nat.le_antisymm (hcount ▸ ended.count_le) begun.count_le
        have later := rest.marksOnly next m h (hcount.trans still.symm)
        rw [begun.eq_withMarkers still] at later
        refine (first.marksOnly n next hn still).andThen (Expr.expandAll es) later fun t => ?_
        cases ht : e.expand (n.withMarkers t) <;> simp only [Expr.expandAll_cons, ht]

theorem steady_expand (e : Expr) : Steady e.expand := by
  induction e with
  | stitch s => exact steady_work s
  | group es ih => exact steady_expandAll ih
  | times e count ih => exact ih.ofPasses (Expr.expand_times e count) (passesOf_withMarkers e count)
  | leaving e count ih =>
    exact ih.ofPasses (Expr.expand_leaving e count) (passesLeaving_withMarkers e count)
  | marker a => exact steady_mark a

/-- Behind a pass without a new stitch, a pass that goes through changes nothing. -/
theorem Steady.again {pass : Needle → Except Snag Needle} (hpass : Steady pass) {n m k : Needle}
    (h : pass n = .ok m) (still : m.count = n.count) (hk : pass m = .ok k) : k = m := by
  obtain ⟨as, has⟩ := hpass.marksOnly n m h still
  have once := has n.markers
  have twice := has m.markers
  rw [withMarkers_self, h] at once
  rw [← (hpass.grows n m h).eq_withMarkers still, hk] at twice
  exact markAll_again once.symm twice.symm

theorem replay_of_fixed {pass : Needle → Except Snag Needle} {n : Needle} (h : pass n = .ok n)
    (passes : Nat) : replay pass passes n = .ok n := by
  induction passes with
  | zero => rfl
  | succ passes ih => simpa [replay, h] using ih

theorem repeatPasses_eq_replay {pass : Needle → Except Snag Needle} (hpass : Steady pass)
    (passes : Nat) (n : Needle) :
    Craft.repeatPasses count pass passes false n = replay pass passes n := by
  induction passes generalizing n with
  | zero => rfl
  | succ passes ih =>
    rw [Craft.repeatPasses, replay]
    cases hn : pass n with
    | error snag => rfl
    | ok next =>
      dsimp only
      by_cases still : next.count = n.count
      · simp only [still, if_true]
        cases passes with
        | zero => rfl
        | succ passes =>
          rw [Craft.repeatPasses, replay]
          cases hk : pass next with
          | error snag => rfl
          | ok k =>
            obtain rfl := hpass.again hn still hk
            simp [replay_of_fixed hk passes]
      · simpa [still] using ih next

/-- How many passes `repeatPasses` begins. -/
def passesBegun (pass : Needle → Except Snag Needle) (passes : Nat) (idle : Bool) (n : Needle) :
    Nat :=
  (Craft.passStarts count pass passes idle n).length

theorem passesBegun_succ (pass : Needle → Except Snag Needle) (passes : Nat) (idle : Bool)
    (n : Needle) :
    passesBegun pass (passes + 1) idle n =
      match pass n with
      | .error _ => 1
      | .ok next =>
        if next.count = n.count then
          if idle then 1 else passesBegun pass passes true next + 1
        else passesBegun pass passes idle next + 1 := by
  rw [passesBegun, Craft.passStarts_succ, List.length_cons]
  cases pass n with
  | error snag => rfl
  | ok next =>
    dsimp only
    split
    · split <;> rfl
    · rfl

/-- Begun as often as `repeatPasses` begins a pass, the plain repetition is `repeatPasses`. -/
theorem replay_passesBegun (pass : Needle → Except Snag Needle) (passes : Nat) (idle : Bool)
    (n : Needle) :
    replay pass (passesBegun pass passes idle n) n =
      Craft.repeatPasses count pass passes idle n := by
  induction passes generalizing idle n with
  | zero => rfl
  | succ passes ih =>
    rw [passesBegun_succ, Craft.repeatPasses]
    cases hn : pass n with
    | error snag => simp [replay, hn]
    | ok next =>
      dsimp only
      split
      · split
        · simp [replay, hn]
        · rw [replay, hn]
          exact ih true next
      · rw [replay, hn]
        exact ih idle next

/-- A pass that adds a stitch comes to a row within the limit, so there are at most as many of them
as the row still has room for. -/
theorem passesBegun_le {pass : Needle → Except Snag Needle} (hpass : Steady pass)
    (hroom : ∀ n m, pass n = .ok m → m.count ≠ n.count → m.count ≤ rowLimit) (passes : Nat)
    (idle : Bool) (n : Needle) :
    passesBegun pass passes idle n ≤ rowLimit - n.count + if idle then 1 else 2 := by
  induction passes generalizing idle n with
  | zero => exact Nat.zero_le _
  | succ passes ih =>
    rw [passesBegun_succ]
    cases hn : pass n with
    | error snag =>
      dsimp only
      split <;> omega
    | ok next =>
      dsimp only
      split
      · rename_i still
        have later := ih true next
        rw [still] at later
        cases idle <;> simp at later ⊢
        omega
      · rename_i more
        have later := ih idle next
        have grown := (hpass.grows n next hn).count_le
        have room := hroom n next hn more
        show passesBegun pass passes idle next + 1 ≤ _
        omega

theorem count_le_of_expand {e : Expr} {n m : Needle} (h : e.expand n = .ok m)
    (more : m.count ≠ n.count) : m.count ≤ rowLimit := by
  have kept := expand_keeps (P := fun k => k.count = n.count ∨ k.count ≤ rowLimit) (by
    intro a k k' hact hk
    cases a with
    | work s =>
      obtain ⟨admits, rfl⟩ := work_eq_ok_iff.1 hact
      exact .inr admits.room
    | mark a =>
      rw [eq_withMarkers_of_mark hact]
      exact hk) e (n := n) (.inl rfl)
  rw [h] at kept
  exact kept.resolve_left more

theorem passesBegun_expand_le (e : Expr) (passes : Nat) (n : Needle) :
    passesBegun e.expand passes false n ≤ rowLimit + 2 := by
  have bound := passesBegun_le (steady_expand e) (fun _ _ => count_le_of_expand) passes false n
  simp only [Bool.false_eq_true, if_false] at bound
  omega

/-- As many passes as have been found, by the loop of `expand`, with a note of where each begins. -/
def repeatNoting (pass : Needle → Except Snag Needle) (passes : Except Snag Nat) (n : Needle) :
    Except (Snag × List Needle) (Needle × List Needle) :=
  match passes with
  | .error snag => .error (snag, [])
  | .ok passes => Craft.repeatPasses (fun s => s.1.count) (Craft.noting pass) passes false (n, [])

theorem plain_repeatNoting (pass : Needle → Except Snag Needle) (passes : Except Snag Nat)
    (n : Needle) :
    Craft.plain (repeatNoting pass passes n) =
      match passes with
      | .error snag => .error snag
      | .ok passes => Craft.repeatPasses count pass passes false n := by
  cases passes with
  | error snag => rfl
  | ok passes =>
    dsimp only [repeatNoting]
    rw [Craft.repeatPasses_noting_nil count pass, Craft.plain_attach]

theorem length_notes_repeatNoting (pass : Needle → Except Snag Needle) (passes : Except Snag Nat)
    (n : Needle) :
    (Craft.notes (repeatNoting pass passes n)).length =
      match passes with
      | .error _ => 0
      | .ok passes => passesBegun pass passes false n := by
  cases passes with
  | error snag => rfl
  | ok passes =>
    dsimp only [repeatNoting]
    rw [Craft.repeatPasses_noting_nil count pass, Craft.notes_attach, List.length_reverse,
      passesBegun]

/-- Made as often as a pass has been noted, the plain repetition is the repeat. -/
theorem replay_length_notes (pass : Needle → Except Snag Needle) (passes : Except Snag Nat)
    (n : Needle) :
    (passes.bind fun _ => replay pass (Craft.notes (repeatNoting pass passes n)).length n) =
      Craft.plain (repeatNoting pass passes n) := by
  rw [plain_repeatNoting, length_notes_repeatNoting]
  cases passes with
  | error snag => rfl
  | ok passes => exact replay_passesBegun pass passes false n

theorem length_notes_expand_le (e : Expr) (passes : Except Snag Nat) (n : Needle) :
    (Craft.notes (repeatNoting e.expand passes n)).length ≤ rowLimit + 2 := by
  rw [length_notes_repeatNoting]
  cases passes with
  | error snag => exact Nat.zero_le _
  | ok passes => exact passesBegun_expand_le e passes n

end Needle

namespace Expr
open Needle

mutual

def expandFully : Expr → Needle → Except Snag Needle
  | .stitch s, n => n.work s
  | .group es, n => expandFullyAll es n
  | .times e count, n =>
    match n.passesOf e count with
    | .error snag => .error snag
    | .ok passes => replay (fun n => e.expandFully n) passes n
  | .leaving e count, n =>
    match n.passesLeaving e count with
    | .error snag => .error snag
    | .ok passes => replay (fun n => e.expandFully n) passes n
  | .marker action, n => n.mark action

def expandFullyAll : List Expr → Needle → Except Snag Needle
  | [], n => .ok n
  | e :: es, n =>
    match e.expandFully n with
    | .error snag => .error snag
    | .ok next => expandFullyAll es next

end

/-- Works a repeat by the loop of `expand`, and notes where its content is begun. -/
def expandNoting : Expr → Needle → Except (Snag × List Needle) (Needle × List Needle)
  | .times e count, n => repeatNoting e.expand (n.passesOf e count) n
  | .leaving e count, n => repeatNoting e.expand (n.passesLeaving e count) n
  | e, n => Craft.attach [] (e.expand n)

def contentRuns (e : Expr) (n : Needle) : Nat := (Craft.notes (e.expandNoting n)).length

theorem expandAll_eq_expandFullyAll {es : List Expr}
    (hes : ∀ e ∈ es, ∀ n, e.expand n = e.expandFully n) (n : Needle) :
    expandAll es n = expandFullyAll es n := by
  induction es generalizing n with
  | nil => rfl
  | cons e es ih =>
    rw [expandAll_cons, expandFullyAll, hes e List.mem_cons_self n]
    cases e.expandFully n with
    | error snag => rfl
    | ok next => exact ih (fun e he => hes e (List.mem_cons_of_mem _ he)) next

theorem expand_eq_expandFully (e : Expr) (n : Needle) : e.expand n = e.expandFully n := by
  induction e generalizing n with
  | stitch s => rfl
  | group es ih => exact expandAll_eq_expandFullyAll ih n
  | times e count ih =>
    rw [expand_times, expandFully]
    cases n.passesOf e count with
    | error snag => rfl
    | ok passes =>
      simp only [← ih]
      exact repeatPasses_eq_replay (steady_expand e) passes n
  | leaving e count ih =>
    rw [expand_leaving, expandFully]
    cases n.passesLeaving e count with
    | error snag => rfl
    | ok passes =>
      simp only [← ih]
      exact repeatPasses_eq_replay (steady_expand e) passes n
  | marker a => rfl

theorem plain_expandNoting (e : Expr) (n : Needle) :
    Craft.plain (e.expandNoting n) = e.expand n := by
  cases e with
  | times e count => exact (plain_repeatNoting _ _ n).trans (expand_times e count n).symm
  | leaving e count => exact (plain_repeatNoting _ _ n).trans (expand_leaving e count n).symm
  | _ => exact Craft.plain_attach _ _

theorem contentRuns_le (e : Expr) (n : Needle) : e.contentRuns n ≤ rowLimit + 2 := by
  cases e with
  | times e count => exact length_notes_expand_le e _ n
  | leaving e count => exact length_notes_expand_le e _ n
  | _ =>
    rw [contentRuns, expandNoting, Craft.notes_attach]
    · exact Nat.zero_le _
    all_goals simp

/-- Placing and removing a marker four thousand million times is over after two passes. -/
example : (times (.group [.marker (.place 'A'), .marker (.remove 'A')]) 4000000000).contentRuns
    ⟨1, none, 1, [], 0, rfl, .empty⟩ = 2 := by decide

end Expr

end Knitting
