import Knitting.Fabric.Counter
import Knitting.Proofs.Fabric.Joined
import Knitting.Proofs.Fabric.Mishaps
import Knitting.Proofs.Row.Advance

/-! # Nothing is lost in 64 bits

A row has a limited number of stitches, each of them of limited size, and the cursor stays within
what the row below has. So no sum in 64 bits ever wraps, and the counter does what the needle does.
-/
namespace Knitting

namespace Stitch

theorem toNat_weight64 (s : Stitch) : s.weight64.toNat = s.weight := by
  cases s with
  | castOn n => exact UInt32.toNat_toUInt64 n
  | cable crossing front back =>
    have := front.toNat_lt
    have := back.toNat_lt
    rw [weight64, weight, UInt64.toNat_add, UInt32.toNat_toUInt64, UInt32.toNat_toUInt64]
    omega
  | _ => rfl

theorem toNat_advance64 (s : Stitch) : s.advance64.toNat = s.advance := by
  cases s with
  | knitTogether n | purlTogether n | bindOff n => exact UInt32.toNat_toUInt64 n
  | cable crossing front back =>
    have := front.toNat_lt
    have := back.toNat_lt
    rw [advance64, advance, UInt64.toNat_add, UInt32.toNat_toUInt64, UInt32.toNat_toUInt64]
    omega
  | _ => rfl

theorem weight64_eq_ofNat (s : Stitch) : s.weight64 = .ofNat s.weight := by
  rw [← s.toNat_weight64, UInt64.ofNat_toNat]

theorem advance64_eq_ofNat (s : Stitch) : s.advance64 = .ofNat s.advance := by
  rw [← s.toNat_advance64, UInt64.ofNat_toNat]

end Stitch

/-- The sum of words is that of their numbers, as far as a word can hold it. -/
theorem foldl_add_eq_ofNat {α : Type} {g : α → UInt64} {size : α → Nat}
    (each : ∀ a, g a = .ofNat (size a)) (as : List α) (start : Nat) :
    (as.map g).foldl (· + ·) (.ofNat start) =
      .ofNat (start + (as.map size).foldr (· + ·) 0) := by
  induction as generalizing start with
  | nil => rfl
  | cons a as ih =>
    rw [List.map_cons, List.foldl_cons, each a, ← UInt64.ofNat_add, ih, List.map_cons,
      List.foldr_cons, Nat.add_assoc]

/-- More than any row can leave on the needle, and far less than a word can hold. -/
def widest : Nat := rowLimit * 2 ^ 33

theorem widest_lt : widest + 2 ^ 33 < Expr.advanceLimit := by decide

theorem toNat_ofNat_of_le {k : Nat} (h : k ≤ widest + 2 ^ 33) : (UInt64.ofNat k).toNat = k := by
  have limit := widest_lt
  apply UInt64.toNat_ofNat_of_lt
  rw [Expr.advanceLimit] at limit
  omega

namespace StitchRow

variable {r : StitchRow}

theorem weight64_eq_ofNat (r : StitchRow) : r.weight64 = .ofNat r.weight := by
  have sum := foldl_add_eq_ofNat Stitch.weight64_eq_ofNat r.stitches 0
  rwa [Nat.zero_add] at sum

theorem advance64_eq_ofNat (r : StitchRow) : r.advance64 = .ofNat r.advance := by
  have sum := foldl_add_eq_ofNat Stitch.advance64_eq_ofNat r.stitches 0
  rwa [Nat.zero_add] at sum

theorem weight_le_widest (short : r.stitches.length ≤ rowLimit) : r.weight ≤ widest :=
  Nat.le_trans r.weight_le (Nat.mul_le_mul_right _ short)

theorem advance_le_widest (short : r.stitches.length ≤ rowLimit) : r.advance ≤ widest :=
  Nat.le_trans (Stitch.totalAdvance_le r.stitches) (Nat.mul_le_mul_right _ short)

theorem toNat_weight64 (short : r.stitches.length ≤ rowLimit) : r.weight64.toNat = r.weight := by
  rw [weight64_eq_ofNat]
  exact toNat_ofNat_of_le (Nat.le_add_right_of_le (weight_le_widest short))

theorem toNat_advance64 (short : r.stitches.length ≤ rowLimit) : r.advance64.toNat = r.advance := by
  rw [advance64_eq_ofNat]
  exact toNat_ofNat_of_le (Nat.le_add_right_of_le (advance_le_widest short))

end StitchRow

namespace Expr

theorem toNat_sumOrMax (a b : UInt64) : (sumOrMax a b).toNat = saturate (a.toNat + b.toNat) :=
  UInt64.toNat_ofNat_of_lt (Nat.lt_of_le_of_lt (saturate_le _) (by decide))

theorem toNat_productOrMax (a b : UInt64) :
    (productOrMax a b).toNat = saturate (a.toNat * b.toNat) :=
  UInt64.toNat_ofNat_of_lt (Nat.lt_of_le_of_lt (saturate_le _) (by decide))

theorem toNat_advanceFrom64 {es : List Expr} (each : ∀ e ∈ es, e.advance64.toNat = e.advance)
    (total : UInt64) : (advanceFrom64 total es).toNat = saturate (total.toNat + advanceAll es) := by
  induction es generalizing total with
  | nil => exact (saturate_of_le (Nat.le_pred_of_lt total.toNat_lt)).symm
  | cons e es ih =>
    rw [List.forall_mem_cons] at each
    rw [advanceFrom64, ih each.2, toNat_sumOrMax, each.1, advanceAll]
    simp only [saturate]
    omega

/-- It does not matter from which end the advances of a group are added up. -/
theorem toNat_advance64 (e : Expr) : e.advance64.toNat = e.advance := by
  induction e with
  | stitch s => exact s.toNat_advance64
  | group es ih =>
    rw [advance64, advance, toNat_advanceFrom64 ih, UInt64.toNat_zero, Nat.zero_add]
    cases es with
    | nil => rfl
    | cons e es =>
      rw [advanceAll]
      exact saturate_of_le (saturate_le _)
  | times e count ih =>
    rw [advance64, advance, toNat_productOrMax, ih, UInt32.toNat_toUInt64]
  | leaving e count _ => rfl
  | marker action => rfl

end Expr

namespace Counter

def act : Action → Counter → Except Fault Counter
  | .work s, c => c.work s
  | .mark a, c => c.mark a

/-- Actions one after another, up to the first that cannot be done. -/
def actAll (as : List Action) (c : Counter) : Except Fault Counter :=
  visit (fun c a => c.act a) as c

/-- All that is counted at a counter is what it would be in unbounded numbers, for every stitch and
every repeat that can come next, and nothing is divided by zero. -/
structure Exact (c : Counter) : Prop where
  weight : c.row.weight64.toNat = c.row.weight
  advance : c.row.advance64.toNat = c.row.advance
  column : c.column.toNat = 1 + c.row.advance
  worked : (c.worked.toNat : Int) = c.column.toNat - 1
  required : ∀ s : Stitch,
    ((c.worked + s.advance64).toNat : Int) = c.column.toNat - 1 + s.advance
  remaining : ∀ available ∈ c.available,
    ((differenceOrZero available c.worked).toNat : Int) = available.toNat - (c.column.toNat - 1)
  passesOf : ∀ content count passes, c.passesOf content count = .ok passes →
    (count ≠ 0 ∧ passes.toNat = count.toNat) ∨
    (count = 0 ∧ ∃ available ∈ c.available,
      (passes.toNat : Int) = (available.toNat - (c.column.toNat - 1)) / content.fullAdvance)
  passesLeaving : ∀ content count passes, c.passesLeaving content count = .ok passes →
    ∃ available ∈ c.available, (passes.toNat : Int) =
      max 0 ((available.toNat : Int) - (c.column.toNat - 1) - count.toNat) / content.fullAdvance
  divisor : ∀ content remaining advance, c.budget content = .ok (remaining, advance) → advance ≠ 0

end Counter

namespace Fabric

def call64 (policy : Policy) (f : Fabric) : Call → Fabric
  | .row r => (f.addRow64 r).1
  | .block b => settled (b.visitRows (tryRow64 policy) f)
  | .part s => settled (s.visitRows (tryRow64 policy) f)
  | .pattern sections => settled (visit (fun f s => s.visitRows (tryRow64 policy) f) sections f)

def run64 (policy : Policy) (calls : List Call) : Fabric := calls.foldl (call64 policy) .empty

end Fabric

namespace Needle

/-- The needle stands where a counter can be, over a row that is not too wide. -/
structure Counted (n : Needle) : Prop where
  course : n.OnCourse
  below : ∀ available ∈ n.available, available ≤ widest

variable {n : Needle}

theorem Counted.act (h : n.Counted) {a : Action} {m : Needle} (acted : n.act a = .ok m) :
    m.Counted := by
  refine ⟨onCourse_of_act acted h.course, ?_⟩
  rw [(extends_of_act acted).available]
  exact h.below

theorem Counted.expand (h : n.Counted) {e : Expr} {m : Needle} (worked : e.expand n = .ok m) :
    m.Counted := by
  have kept := expand_keeps (P := Counted) (fun _ _ _ acted h => h.act acted) e h
  rwa [worked] at kept

theorem Counted.column_le (h : n.Counted) : n.column ≤ 1 + widest := by
  have short : n.row.stitches.length ≤ rowLimit := by
    rw [length_row]
    exact h.course.short
  rw [h.course.column]
  exact Nat.add_le_add_left (StitchRow.advance_le_widest short) 1

theorem Counted.one_le (h : n.Counted) : 1 ≤ n.column := by
  rw [h.course.column]
  exact Nat.le_add_right 1 _

end Needle

namespace Counter

def ofNeedle (n : Needle) : Counter where
  number := n.number
  available := n.available.map .ofNat
  column := .ofNat n.column
  latest := n.latest
  markers := n.markers

variable {n : Needle}

@[simp] theorem row_ofNeedle (n : Needle) : (ofNeedle n).row = n.row := rfl

@[simp] theorem length_latest_ofNeedle (n : Needle) : (ofNeedle n).latest.length = n.count :=
  n.count_eq.symm

theorem available_ofNeedle {available : Nat} (below : n.available = some available) :
    (ofNeedle n).available = some (.ofNat available) := by
  rw [ofNeedle, below]
  rfl

theorem available_ofNeedle_none (below : n.available = none) : (ofNeedle n).available = none := by
  rw [ofNeedle, below]
  rfl

theorem mem_available_ofNeedle {available : UInt64} :
    available ∈ (ofNeedle n).available ↔ ∃ w ∈ n.available, UInt64.ofNat w = available := by
  simp [ofNeedle]

@[simp] theorem append_ofNeedle (n : Needle) (s : Stitch) :
    (ofNeedle n).append s = ofNeedle (n.append s) := by
  simp [append, ofNeedle, Needle.append, s.advance64_eq_ofNat, UInt64.ofNat_add]

section Counted

variable (h : n.Counted)
include h

theorem toNat_column : (ofNeedle n).column.toNat = n.column :=
  toNat_ofNat_of_le (Nat.le_trans h.column_le (by decide))

theorem place_ofNeedle : (ofNeedle n).place = n.place := by
  rw [place, toNat_column h]
  rfl

theorem worked_ofNeedle : (ofNeedle n).worked = .ofNat n.worked := by
  rw [worked, Needle.worked, UInt64.ofNat_sub h.one_le]
  rfl

theorem toNat_worked : (ofNeedle n).worked.toNat = n.worked := by
  have column := h.column_le
  rw [worked_ofNeedle h]
  apply toNat_ofNat_of_le
  rw [Needle.worked]
  omega

theorem toNat_required (s : Stitch) :
    ((ofNeedle n).worked + s.advance64).toNat = n.worked + s.advance := by
  have column := h.column_le
  have advance := s.advance_lt
  rw [worked_ofNeedle h, s.advance64_eq_ofNat, ← UInt64.ofNat_add]
  apply toNat_ofNat_of_le
  rw [Needle.worked]
  rw [UInt32.size] at advance
  omega

theorem toNat_available {available : Nat} (below : available ∈ n.available) :
    (UInt64.ofNat available).toNat = available :=
  toNat_ofNat_of_le (Nat.le_trans (h.below available below) (Nat.le_add_right _ _))

theorem work_ofNeedle (s : Stitch) :
    (ofNeedle n).work s = Craft.carried ofNeedle Snag.fault (n.work s) := by
  rw [work, Needle.work, length_latest_ofNeedle, place_ofNeedle h, append_ofNeedle]
  by_cases full : rowLimit ≤ n.count
  · rw [if_pos full, if_pos full]
    rfl
  · rw [if_neg full, if_neg full]
    cases below : n.available with
    | none =>
      rw [available_ofNeedle_none below]
      rfl
    | some available =>
      have required := toNat_required h s
      have whole := toNat_available h below
      have same : UInt64.ofNat available < (ofNeedle n).worked + s.advance64 ↔
          available < n.worked + s.advance := by
        rw [UInt64.lt_iff_toNat_lt, required, whole]
      rw [available_ofNeedle below]
      dsimp only
      by_cases beyond : available < n.worked + s.advance
      · rw [if_pos beyond, if_pos (same.2 beyond), required, whole]
        rfl
      · rw [if_neg beyond, if_neg (mt same.1 beyond)]
        rfl

theorem mark_ofNeedle (a : MarkerAction) :
    (ofNeedle n).mark a = Craft.carried ofNeedle Snag.fault (n.mark a) := by
  cases a with
  | place name =>
    rw [mark, place_ofNeedle h]
    rfl
  | remove name =>
    rw [mark, Needle.mark, place_ofNeedle h]
    have markers : (ofNeedle n).markers = n.markers := rfl
    rw [markers]
    cases n.markers.get? name <;> rfl

theorem available_ofNeedle_toNat :
    n.available.map Tally.toNat = (ofNeedle n).available.map Tally.toNat := by
  cases below : n.available with
  | none =>
    rw [available_ofNeedle_none below]
    rfl
  | some available =>
    rw [available_ofNeedle below]
    exact congrArg some (toNat_available h below).symm

end Counted

/-- The counter follows the needle. -/
theorem follows_needle :
    Craft.Follows Needle.craft craft .marker (fun n c => c = ofNeedle n ∧ n.Counted)
      (fun snag fault => fault = snag.fault) (fun _ => False) where
  count := by
    rintro n _ ⟨rfl, -⟩
    exact length_latest_ofNeedle n
  work := by
    rintro s n _ ⟨rfl, counted⟩
    exact Craft.matched_of_carried (work_ofNeedle counted s) fun m worked =>
      counted.act (a := .work s) worked
  mark := by
    rintro action n _ ⟨rfl, counted⟩
    exact Craft.matched_of_carried (mark_ofNeedle counted action) fun m worked =>
      counted.act (a := .mark action) worked
  budget := by
    rintro content n _ ⟨rfl, counted⟩
    rw [content.replaceMarkers_marker]
    exact Craft.matched_budget (available_ofNeedle_toNat counted) (toNat_worked counted).symm
      content.toNat_advance64.symm (congrArg Fault.noPreviousRow (place_ofNeedle counted))
      (congrArg Fault.zeroAdvanceRepeat (place_ofNeedle counted))

section Counted

variable (h : n.Counted)
include h

/-- The counter works an expression as the needle does. -/
theorem expand_ofNeedle (e : Expr) :
    expand e (ofNeedle n) = Craft.carried ofNeedle Snag.fault (e.expand n) := by
  have matched := follows_needle.expand e (a := n) (b := ofNeedle n) ⟨rfl, h⟩
  rw [e.replaceMarkers_marker] at matched
  exact matched.eq_carried (fun _ _ reached => reached.1) fun _ _ stop => stop

theorem workRow_ofNeedle (content : List Expr) :
    (ofNeedle n).workRow content = Craft.carried ofNeedle Snag.fault (n.workRow content) := by
  have matched := follows_needle.workRow
    (by
      rintro n _ ⟨rfl, counted⟩
      refine .ok (StitchRow.toNat_advance64 ?_).symm
      rw [Needle.length_row]
      exact counted.course.short)
    (by
      rintro n _ ⟨rfl, counted⟩
      exact available_ofNeedle_toNat counted)
    (by
      rintro n _ ⟨rfl, counted⟩ expected received
      exact congrArg (Fault.countMismatch · expected received) (place_ofNeedle counted))
    content (a := n) (b := ofNeedle n) ⟨rfl, h⟩
  rw [Expr.replaceAllMarkers_eq_self fun e _ => e.replaceMarkers_marker] at matched
  exact matched.eq_carried (fun _ _ reached => reached.1) fun _ _ stop => stop

theorem remaining_lt {available : Nat} (below : available ∈ n.available) (kept : Nat) :
    available - n.worked - kept < Expr.advanceLimit := by
  have wide := h.below available below
  have limit := widest_lt
  omega

theorem budget_of_ofNeedle {content : Expr} {remaining advance : UInt64}
    (asked : (ofNeedle n).budget content = .ok (remaining, advance)) :
    n.budget content = .ok (remaining.toNat, advance.toNat) := by
  have matched := follows_needle.budget content n (ofNeedle n) ⟨rfl, h⟩
  rw [content.replaceMarkers_marker] at matched
  obtain ⟨b, given, same⟩ := matched.exists_of_ok asked
  exact given.trans (congrArg Except.ok (Prod.ext same.1 same.2))

theorem passesOf_of_ofNeedle {content : Expr} {count : UInt32} {passes : UInt64}
    (asked : (ofNeedle n).passesOf content count = .ok passes) :
    n.passesOf content count = .ok passes.toNat := by
  have matched := follows_needle.passesOf content count (a := n) (b := ofNeedle n) ⟨rfl, h⟩
  rw [content.replaceMarkers_marker] at matched
  obtain ⟨k, given, same⟩ := matched.exists_of_ok asked
  exact given.trans (congrArg Except.ok same)

theorem passesLeaving_of_ofNeedle {content : Expr} {count : UInt32} {passes : UInt64}
    (asked : (ofNeedle n).passesLeaving content count = .ok passes) :
    n.passesLeaving content count = .ok passes.toNat := by
  have matched := follows_needle.passesLeaving content count (a := n) (b := ofNeedle n) ⟨rfl, h⟩
  rw [content.replaceMarkers_marker] at matched
  obtain ⟨k, given, same⟩ := matched.exists_of_ok asked
  exact given.trans (congrArg Except.ok same)

theorem actAll_ofNeedle (as : List Action) :
    (ofNeedle n).actAll as = Craft.carried ofNeedle Snag.fault (n.actAll as) := by
  induction as generalizing n with
  | nil => rfl
  | cons a as ih =>
    have first : (ofNeedle n).act a = Craft.carried ofNeedle Snag.fault (n.act a) := by
      cases a with
      | work s => exact work_ofNeedle h s
      | mark a => exact mark_ofNeedle h a
    simp only [actAll, Needle.actAll, visit] at ih ⊢
    rw [first]
    cases acted : n.act a with
    | error snag => rfl
    | ok next => exact ih (h.act acted)

theorem remaining_cast {available : Nat} (below : available ∈ n.available) :
    ((available - n.worked : Nat) : Int) =
      (UInt64.ofNat available).toNat - ((ofNeedle n).column.toNat - 1) := by
  have one := h.one_le
  have within := h.course.within available below
  rw [toNat_available h below, toNat_column h]
  rw [Needle.worked] at within ⊢
  omega

theorem exact_ofNeedle : (ofNeedle n).Exact := by
  have short : (ofNeedle n).row.stitches.length ≤ rowLimit := by
    rw [row_ofNeedle, Needle.length_row]
    exact h.course.short
  have one := h.one_le
  constructor
  · exact StitchRow.toNat_weight64 short
  · exact StitchRow.toNat_advance64 short
  · rw [toNat_column h, h.course.column]
    rfl
  · rw [toNat_worked h, toNat_column h, Needle.worked]
    omega
  · intro s
    rw [toNat_required h, toNat_column h, Needle.worked]
    omega
  · intro available known
    rcases mem_available_ofNeedle.1 known with ⟨w, below, rfl⟩
    rw [toNat_differenceOrZero, toNat_worked h, ← remaining_cast h below, toNat_available h below]
  · intro content count passes asked
    rcases Needle.passesOf_eq_ok_iff.1 (passesOf_of_ofNeedle h asked) with
      ⟨some, equal⟩ | ⟨none, w, below, -, equal⟩
    · exact .inl ⟨some, equal⟩
    · have divided := Expr.div_advance (remaining_lt h below 0) content
      rw [Nat.sub_zero] at divided
      refine .inr ⟨none, _, mem_available_ofNeedle.2 ⟨w, below, rfl⟩, ?_⟩
      rw [equal, divided, ← remaining_cast h below]
      exact Int.natCast_ediv _ _
  · intro content count passes asked
    rcases Needle.passesLeaving_eq_ok_iff.1 (passesLeaving_of_ofNeedle h asked) with
      ⟨w, below, -, equal⟩
    have left : ((w - n.worked - count.toNat : Nat) : Int) =
        max 0 (((w - n.worked : Nat) : Int) - count.toNat) := by omega
    refine ⟨_, mem_available_ofNeedle.2 ⟨w, below, rfl⟩, ?_⟩
    rw [equal, Expr.div_advance (remaining_lt h below count.toNat), ← remaining_cast h below,
      ← left]
    exact Int.natCast_ediv _ _
  · intro content remaining advance asked
    rcases Needle.budget_eq_ok_iff.1 (budget_of_ofNeedle h asked) with ⟨w, -, some, equal⟩
    rintro rfl
    exact some (congrArg Prod.snd equal).symm

end Counted

end Counter

namespace Fabric

variable {f : Fabric}

theorem counter_eq_ofNeedle (f : Fabric) : f.counter = .ofNeedle f.needle := by
  have weights : f.previous.map StitchRow.weight64 =
      (f.previous.map StitchRow.weight).map UInt64.ofNat := by
    rw [Option.map_map]
    exact Option.map_congr fun r _ => r.weight64_eq_ofNat
  rw [counter, weights]
  rfl

theorem Joined.counted (h : f.Joined) : f.needle.Counted := by
  refine ⟨f.onCourse_needle, ?_⟩
  intro available below
  rcases Option.map_eq_some_iff.1 below with ⟨r, last, rfl⟩
  exact StitchRow.weight_le_widest (h.short r (Array.mem_of_back? last))

theorem addRow64_eq (h : f.Joined) (r : Row) : f.addRow64 r = f.addRow r := by
  rw [addRow64, addRow, counter_eq_ofNeedle, Counter.workRow_ofNeedle h.counted]
  cases f.needle.workRow r.content <;> rfl

theorem tryRow64_eq (policy : Policy) (h : f.Joined) (r : Row) :
    f.tryRow64 policy r = f.tryRow policy r := by
  unfold tryRow64
  rw [addRow64_eq h]
  rfl

theorem visit_tryRow64 (policy : Policy) (rows : List Row) (h : f.Joined) :
    visit (tryRow64 policy) rows f = visit (tryRow policy) rows f := by
  induction rows generalizing f with
  | nil => rfl
  | cons r rows ih =>
    have joined := f.joined_addRow r h
    rw [← settled_tryRow policy] at joined
    rw [visit, visit, tryRow64_eq policy h]
    cases worked : f.tryRow policy r with
    | error halt => rfl
    | ok next =>
      rw [worked] at joined
      exact ih joined

theorem call64_eq (policy : Policy) (h : f.Joined) (c : Call) :
    f.call64 policy c = f.call policy c := by
  cases c with
  | row r => rw [call64, call, addRow64_eq h]
  | block b =>
    rw [call64, call, addBlock, b.visitRows_eq_unrolled, b.visitRows_eq_unrolled,
      visit_tryRow64 policy _ h]
  | part s =>
    rw [call64, call, addSection, s.visitRows_eq_unrolled, s.visitRows_eq_unrolled,
      visit_tryRow64 policy _ h]
  | pattern sections =>
    have each : (fun (f : Fabric) (s : Section) => s.visitRows (tryRow64 policy) f) =
        fun f s => visit (tryRow64 policy) s.unrolled f := by
      funext f s
      exact s.visitRows_eq_unrolled _ f
    rw [call64, call, addSections_eq_visit, each, visit_flatMap, visit_tryRow64 policy _ h,
      Section.unrolledAll]

theorem run64_eq (policy : Policy) (calls : List Call) : run64 policy calls = run policy calls := by
  have joined := joined_empty
  unfold run64 run
  generalize Fabric.empty = f at joined ⊢
  induction calls generalizing f with
  | nil => rfl
  | cons c calls ih =>
    rw [List.foldl_cons, List.foldl_cons, call64_eq policy joined]
    exact ih _ (call_keeps joined_addRow policy c joined)

/-- Counting in 64 bits is exact. Every run comes to the same, whether its rows are worked by the
needle or by the counter. Weights and advances of its rows are what they are in unbounded numbers.
So is all that is counted in a row to come, behind whatever actions can be done in it, and among
these are the actions of every row, up to its end or its fault. -/
theorem counts_are_exact (policy : Policy) (calls : List Call) :
    run64 policy calls = run policy calls ∧
    (∀ r ∈ (run64 policy calls).rows, r.weight64.toNat = r.weight ∧ r.advance64.toNat = r.advance) ∧
    (∀ as c, (run64 policy calls).counter.actAll as = .ok c →
      c.available = (run64 policy calls).previous.map StitchRow.weight64 ∧ c.Exact) ∧
    ∀ content, ∃ c, (run64 policy calls).counter.actAll
        (Expr.doneAll content (run policy calls).needle) = .ok c ∧
      ∀ done, Counter.expandAll content (run64 policy calls).counter = .ok done → done = c := by
  have joined : (run policy calls).Joined := run_keeps joined_empty joined_addRow policy calls
  rw [run64_eq]
  generalize run policy calls = f at joined ⊢
  rw [counter_eq_ofNeedle]
  refine ⟨rfl, ?_, ?_, ?_⟩
  · intro r hr
    have short := joined.short r hr
    exact ⟨StitchRow.toNat_weight64 short, StitchRow.toNat_advance64 short⟩
  · intro as c acted
    rw [Counter.actAll_ofNeedle joined.counted] at acted
    cases reached : f.needle.actAll as with
    | error snag =>
      rw [reached] at acted
      cases acted
    | ok n =>
      rw [reached] at acted
      cases acted
      have kept : n.Counted ∧ n.available = f.needle.available :=
        Needle.actAll_keeps (P := fun m => m.Counted ∧ m.available = f.needle.available)
          (fun _ _ _ acted h => ⟨h.1.act acted, (Needle.extends_of_act acted).available.trans h.2⟩)
          reached ⟨joined.counted, rfl⟩
      refine ⟨?_, Counter.exact_ofNeedle kept.1⟩
      have below := congrArg Counter.available f.counter_eq_ofNeedle
      rw [Counter.ofNeedle, kept.2]
      exact below.symm
  · intro content
    have acted := Expr.actAll_done (.group content) f.needle
    have expanded : Counter.expandAll content (Counter.ofNeedle f.needle) =
        Craft.carried Counter.ofNeedle Snag.fault (Expr.expandAll content f.needle) :=
      Counter.expand_ofNeedle joined.counted (.group content)
    rw [Expr.done, Expr.expand_group] at acted
    rw [Counter.actAll_ofNeedle joined.counted, acted, expanded]
    refine ⟨_, rfl, ?_⟩
    intro done worked
    cases last : Expr.expandAll content f.needle with
    | error snag =>
      rw [last] at worked
      cases worked
    | ok n =>
      rw [last] at worked
      cases worked
      rfl

/-- The widest row that two stitches can leave. -/
def flag : List Call :=
  [.row ⟨[.stitch (.castOn 4294967295), .stitch (.castOn 4294967295)], .start⟩]

/-- More purl stitches than a word can hold. -/
def endless : Expr :=
  .times (.times (.times (.stitch .purl) 4294967295) 4294967295) 4294967295

/-- Half of the row is bound off. What is left is asked for as single stitches, as endless passes,
and with more stitches left over than there are. -/
theorem counts_are_exact_flag :
    ∃ c, (run64 .strict flag).counter.actAll [.work (.bindOff 4294967295)] = .ok c ∧ c.Exact ∧
      c.available = some 8589934590 ∧ c.column = 4294967296 ∧
      endless.advance64.toNat < endless.fullAdvance ∧
      c.passesOf (.stitch .purl) 0 = .ok 4294967295 ∧ c.passesOf endless 0 = .ok 0 ∧
      c.passesLeaving (.stitch .slipSlipKnit) 4294967295 = .ok 0 := by
  obtain ⟨c, acted⟩ : ∃ c,
      (run64 .strict flag).counter.actAll [.work (.bindOff 4294967295)] = .ok c := ⟨_, rfl⟩
  have exact := ((counts_are_exact .strict flag).2.2.1 _ c acted).2
  cases acted
  exact ⟨_, rfl, exact, rfl, rfl, by decide, rfl, rfl, rfl⟩

end Fabric

end Knitting
