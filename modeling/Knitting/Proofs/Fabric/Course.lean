import Knitting.Proofs.Fabric.Filled

/-! # The course of a row

Working a row begins one expression after another, some of them within others and some of them many
times. Wherever an expression is begun, the actions done before have led there, and at every step of
these the cursor stands behind the stitches so far and within the row below. So what is left of that
row is told exactly, and the stitches of a row are only ever added to at their end.
-/
namespace Knitting
open Needle

namespace Expr

/-- Where working an expression from a needle begins expressions, itself among them. -/
inductive Begins : Expr → Needle → Expr → Needle → Prop where
  | self (e : Expr) (n : Needle) : Begins e n e n
  | group {before after : List Expr} {e inner : Expr} {n next m : Needle}
    (worked : expandAll before n = .ok next) (within : Begins e next inner m) :
    Begins (.group (before ++ e :: after)) n inner m
  | times {e inner : Expr} {count : UInt32} {passes made : Nat} {n next m : Needle}
    (asked : n.passesOf e count = .ok passes) (begun : made < passesBegun e.expand passes false n)
    (worked : replay e.expand made n = .ok next) (within : Begins e next inner m) :
    Begins (.times e count) n inner m
  | leaving {e inner : Expr} {count : UInt32} {passes made : Nat} {n next m : Needle}
    (asked : n.passesLeaving e count = .ok passes)
    (begun : made < passesBegun e.expand passes false n)
    (worked : replay e.expand made n = .ok next) (within : Begins e next inner m) :
    Begins (.leaving e count) n inner m

theorem doneAll_append_of_ok {before : List Expr} {n next : Needle}
    (worked : expandAll before n = .ok next) (after : List Expr) :
    doneAll (before ++ after) n = doneAll before n ++ doneAll after next := by
  induction before generalizing n with
  | nil =>
    cases worked
    rfl
  | cons e before ih =>
    rw [expandAll_cons] at worked
    rw [List.cons_append, doneAll, doneAll]
    cases first : e.expand n with
    | error snag =>
      rw [first] at worked
      cases worked
    | ok between =>
      rw [first] at worked
      simp only [ih worked, List.append_assoc]

end Expr

namespace Needle

theorem exists_actAll_of_append {as rest : List Action} {n m : Needle}
    (h : n.actAll (as ++ rest) = .ok m) : ∃ between, n.actAll as = .ok between := by
  rw [actAll, visit_append] at h
  rw [actAll]
  cases acted : visit (fun n a => n.act a) as n with
  | ok between => exact ⟨between, rfl⟩
  | error snag =>
    rw [acted] at h
    cases h

/-- The actions before a pass that is begun lead to where it is begun. -/
theorem done_before_pass {pass : Needle → Except Snag Needle} {doneIn : Needle → List Action}
    (hpass : ∀ n : Needle, n.actAll (doneIn n) = .ok (reached (pass n))) {passes made : Nat}
    {idle : Bool} {n next : Needle} (begun : made < passesBegun pass passes idle n)
    (worked : replay pass made n = .ok next) :
    ∃ as, as ++ doneIn next <+: doneInPasses pass doneIn passes idle n ∧
      n.actAll as = .ok next := by
  induction made generalizing passes idle n with
  | zero =>
    cases worked
    cases passes with
    | zero => cases begun
    | succ passes =>
      refine ⟨[], ?_, rfl⟩
      rw [doneInPasses_succ]
      exact List.prefix_append _ _
  | succ made ih =>
    cases passes with
    | zero => cases begun
    | succ passes =>
      rw [passesBegun_succ] at begun
      rw [replay] at worked
      cases first : pass n with
      | error snag =>
        rw [first] at worked
        cases worked
      | ok between =>
        rw [first] at begun worked
        have led : n.actAll (doneIn n) = .ok between := by rw [hpass n, first, reached_ok]
        obtain ⟨as, done, arrived⟩ :
            ∃ as, doneIn n ++ (as ++ doneIn next) <+:
              doneInPasses pass doneIn (passes + 1) idle n ∧ between.actAll as = .ok next := by
          rw [doneInPasses_succ, first]
          simp only [List.prefix_append_right_inj]
          dsimp only at begun
          by_cases same : between.count = n.count
          · rw [if_pos same] at begun ⊢
            cases idle with
            | true =>
              -- the second pass without a stitch is the last
              rw [if_pos rfl] at begun
              omega
            | false => exact ih (by rw [if_neg (by decide)] at begun; omega) worked
          · rw [if_neg same] at begun ⊢
            exact ih (by omega) worked
        refine ⟨doneIn n ++ as, ?_, (actAll_append_of_ok led).trans arrived⟩
        rwa [List.append_assoc]

/-- What is done first within a pass comes right behind the passes before it. -/
theorem done_within_pass {pass : Needle → Except Snag Needle} {doneIn : Needle → List Action}
    (hpass : ∀ n : Needle, n.actAll (doneIn n) = .ok (reached (pass n))) {passes made : Nat}
    {idle : Bool} {n next m : Needle} (begun : made < passesBegun pass passes idle n)
    (worked : replay pass made n = .ok next) {as rest : List Action}
    (here : as ++ rest <+: doneIn next) (arrived : next.actAll as = .ok m) :
    ∃ as, as ++ rest <+: doneInPasses pass doneIn passes idle n ∧ n.actAll as = .ok m := by
  obtain ⟨earlier, passed, led⟩ := done_before_pass hpass begun worked
  refine ⟨earlier ++ as, ?_, (actAll_append_of_ok led).trans arrived⟩
  rw [List.append_assoc]
  exact ((List.prefix_append_right_inj earlier).2 here).trans passed

theorem Extends.prefix_stitches {n m : Needle} (h : n.Extends m) :
    n.row.stitches <+: m.row.stitches := by
  obtain ⟨added, latest, -⟩ := h.stitches
  simp only [row, latest, List.reverse_append]
  exact List.prefix_append _ _

end Needle

namespace Expr

theorem actAll_doneAll_of_ok {es : List Expr} {n next : Needle}
    (worked : expandAll es n = .ok next) : n.actAll (doneAll es n) = .ok next := by
  have acted := actAll_done (.group es) n
  rwa [done, expand_group, worked, reached_ok] at acted

/-- The actions before an expression begins lead to where it does, and its own come next. -/
theorem Begins.exists_done {e inner : Expr} {n m : Needle} (h : e.Begins n inner m) :
    ∃ as, as ++ inner.done m <+: e.done n ∧ n.actAll as = .ok m := by
  induction h with
  | self e n => exact ⟨[], List.prefix_rfl, rfl⟩
  | @group before after e inner n next m worked _ ih =>
    obtain ⟨as, here, arrived⟩ := ih
    refine ⟨doneAll before n ++ as, ?_, ?_⟩
    · rw [done, doneAll_append_of_ok worked, doneAll, List.append_assoc,
        List.prefix_append_right_inj]
      exact here.trans (List.prefix_append _ _)
    · rw [actAll_append_of_ok (actAll_doneAll_of_ok worked), arrived]
  | times asked begun worked _ ih =>
    obtain ⟨as, here, arrived⟩ := ih
    rw [done, asked]
    exact done_within_pass (actAll_done _) begun worked here arrived
  | leaving asked begun worked _ ih =>
    obtain ⟨as, here, arrived⟩ := ih
    rw [done, asked]
    exact done_within_pass (actAll_done _) begun worked here arrived

end Expr

namespace Counter

/-- The cursor stands behind the stitches so far and within the row below. What is left of that row
is a difference that needs no stop at zero. -/
structure Placed (previous : Option StitchRow) (c : Counter) : Prop where
  behind : (c.column.toNat : Int) - 1 = c.row.advance
  below : c.available = previous.map StitchRow.weight64
  within : ∀ r ∈ previous, (c.column.toNat : Int) - 1 ≤ r.weight
  unstopped : ∀ available ∈ c.available,
    c.worked ≤ available ∧ differenceOrZero available c.worked = available - c.worked

theorem placed_ofNeedle {previous : Option StitchRow} {n : Needle} (h : n.Counted)
    (below : n.available = previous.map StitchRow.weight) : (ofNeedle n).Placed previous := by
  have course := h.course
  have one := h.one_le
  have behind : ((ofNeedle n).column.toNat : Int) - 1 = n.row.advance := by
    rw [toNat_column h, course.advance_row, Needle.worked]
    omega
  refine ⟨behind, ?_, ?_, ?_⟩
  · rw [ofNeedle, below, Option.map_map]
    exact Option.map_congr fun r _ => r.weight64_eq_ofNat.symm
  · intro r last
    have within := course.within r.weight (by rw [below, last]; rfl)
    rw [behind, course.advance_row]
    exact_mod_cast within
  · intro available known
    obtain ⟨w, given, rfl⟩ := mem_available_ofNeedle.1 known
    have within : (ofNeedle n).worked ≤ UInt64.ofNat w := by
      rw [UInt64.le_iff_toNat_le, toNat_worked h, toNat_available h given]
      exact course.within w given
    exact ⟨within, if_pos within⟩

end Counter

namespace Fabric

/-- The cursor keeps its course. In the work on any row, behind any of its actions, it stands behind
the stitches so far and within the row below, and so it does wherever an expression of the row
begins. Working an expression, to its end or to a snag, keeps the stitches so far and only adds
others behind them. -/
theorem cursor_keeps_course (policy : Policy) (calls : List Call) (content : List Expr) :
    (∀ as, as <+: Expr.doneAll content (run policy calls).needle →
      ∃ m, (run policy calls).needle.actAll as = .ok m ∧
        (run64 policy calls).counter.actAll as = .ok (.ofNeedle m) ∧
        (Counter.ofNeedle m).Placed (run64 policy calls).previous) ∧
    (∀ e m, (Expr.group content).Begins (run policy calls).needle e m →
      (∃ as, as ++ e.done m <+: Expr.doneAll content (run policy calls).needle ∧
        (run policy calls).needle.actAll as = .ok m) ∧
      (Counter.ofNeedle m).Placed (run64 policy calls).previous) ∧
    ∀ (e : Expr) (n : Needle),
      (∀ m, e.expand n = .ok m → n.row.stitches <+: m.row.stitches) ∧
      ∀ snag, e.expand n = .error snag → n.row.stitches <+: snag.needle.row.stitches := by
  have joined : (run policy calls).Joined := run_keeps joined_empty joined_addRow policy calls
  rw [run64_eq, counter_eq_ofNeedle]
  generalize run policy calls = f at joined ⊢
  have placed {as : List Action} {m : Needle} (acted : f.needle.actAll as = .ok m) :
      (Counter.ofNeedle m).Placed f.previous := by
    obtain ⟨counted, below⟩ := joined.counted_of_actAll acted
    exact Counter.placed_ofNeedle counted below
  refine ⟨?_, ?_, ?_⟩
  · rintro as ⟨rest, whole⟩
    obtain ⟨m, acted⟩ : ∃ m, f.needle.actAll as = .ok m := by
      have all := Expr.actAll_done (.group content) f.needle
      rw [Expr.done, ← whole] at all
      exact Needle.exists_actAll_of_append all
    have counted := Counter.actAll_ofNeedle joined.counted as
    rw [acted] at counted
    exact ⟨m, acted, counted, placed acted⟩
  · intro e m begins
    obtain ⟨as, here, acted⟩ := begins.exists_done
    exact ⟨⟨as, here, acted⟩, placed acted⟩
  · intro e n
    have longer := (Needle.extends_expand e n).prefix_stitches
    constructor
    · intro m worked
      rwa [worked] at longer
    · intro snag stopped
      rwa [stopped] at longer

/-- A knit stitch, scallops as far as they go, and a knit stitch. -/
def border : List Expr := [.stitch .knit, .times scallop 0, .stitch .knit]

/-- The yarn over of the third scallop begins behind seven stitches of the row below. Of two more
the second is not there, and the stitches so far stay with the first. -/
theorem cursor_keeps_course_border :
    ∃ m snag, (Expr.group border).Begins (run .strict edging).needle (.stitch .yarnOver) m ∧
      m.column = 8 ∧ m.row.stitches.length = 9 ∧
      (Counter.ofNeedle m).Placed (run64 .strict edging).previous ∧
      (Expr.times (.stitch .purl) 2).expand m = .error snag ∧
      m.row.stitches <+: snag.needle.row.stitches ∧ snag.needle.row.stitches.length = 10 ∧
      ∃ c, (run64 .strict edging).counter.actAll [.work .knit] = .ok c ∧
        c.Placed (run64 .strict edging).previous := by
  obtain ⟨points, beginnings, longer⟩ := cursor_keeps_course .strict edging border
  obtain ⟨m, arrived⟩ : ∃ m, Expr.expandAll [.stitch .knit, .times scallop 2,
      .times (.stitch .knit) 2, .marker (.place 'A')] (run .strict edging).needle = .ok m :=
    ⟨_, rfl⟩
  obtain ⟨snag, stopped⟩ : ∃ snag, (Expr.times (.stitch .purl) 2).expand m = .error snag := by
    cases arrived
    exact ⟨_, rfl⟩
  have begins : (Expr.group border).Begins (run .strict edging).needle (.stitch .yarnOver) m := by
    cases arrived
    refine @Expr.Begins.group [.stitch .knit] [.stitch .knit] _ _ _ _ _ rfl ?_
    refine @Expr.Begins.times _ _ _ 3 2 _ _ _ rfl (by decide) rfl ?_
    exact @Expr.Begins.group [.times (.stitch .knit) 2, .marker (.place 'A')] [] _ _ _ _ _ rfl
      (.self _ _)
  obtain ⟨first, -, counted, placed⟩ := points [.work .knit] (by decide +kernel)
  have placedThere := (beginnings _ m begins).2
  have kept := (longer _ m).2 snag stopped
  cases arrived
  cases stopped
  exact ⟨_, _, begins, rfl, rfl, placedThere, rfl, kept, rfl, _, counted, placed⟩

end Fabric
end Knitting
