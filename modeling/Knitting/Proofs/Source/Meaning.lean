import Knitting.Pattern.Reader
import Knitting.Proofs.Source.Literals

/-! # What lexemes mean

The number, stitch or marker action that a lexeme stands for is a matter of its token and its
literal alone. On the lexemes of a source the reader finds the same meanings.
-/
namespace Knitting
open Text

def count32? (n : Nat) : Option UInt32 := if n < UInt32.size then some (.ofNat n) else none

theorem count32?_eq_some_iff {n : Nat} {c : UInt32} : count32? n = some c ↔ n = c.toNat := by
  unfold count32?
  split
  · rename_i small
    rw [Option.some.injEq]
    constructor
    · rintro rfl
      exact (UInt32.toNat_ofNat_of_lt small).symm
    · rintro rfl
      exact UInt32.ofNat_toNat
  · rename_i large
    constructor
    · intro h
      cases h
    · rintro rfl
      exact absurd c.toNat_lt large

theorem count32?_eq_none_iff {n : Nat} : count32? n = none ↔ UInt32.size ≤ n := by
  simp [count32?]

theorem readCount_eq_count32? {ds : List Char} (h : IsDigitRun ds) :
    readCount ds = count32? (decimalValue ds) := by
  simp [readCount, count32?, h.1, h.2]

namespace Lexeme

def number (l : Lexeme) : Nat := decimalValue l.literal.toList

def front (l : Lexeme) : Nat := decimalValue (l.literal.toList.takeWhile (· ≠ ','))

def back (l : Lexeme) : Nat := decimalValue ((l.literal.toList.dropWhile (· ≠ ',')).drop 1)

def fixed? (t : Token) (l : Lexeme) : Option Unit := if l.token = t then some () else none

def count? (l : Lexeme) : Option UInt32 := if l.token = .integer then count32? l.number else none

def name? (l : Lexeme) : Option String := if l.token = .identifier then some l.literal else none

def unit? (l : Lexeme) : Option Expr :=
  match l.token with
  | .knit => some (.stitch .knit)
  | .purl => some (.stitch .purl)
  | .slipSlipKnit => some (.stitch .slipSlipKnit)
  | .yarnOver => some (.stitch .yarnOver)
  | .knitTogether => (count32? l.number).map fun n => .stitch (.knitTogether n)
  | .purlTogether => (count32? l.number).map fun n => .stitch (.purlTogether n)
  | .castOn => (count32? l.number).map fun n => .stitch (.castOn n)
  | .bindOff => (count32? l.number).map fun n => .stitch (.bindOff n)
  | .cable c =>
    (count32? l.front).bind fun f => (count32? l.back).map fun b => .stitch (.cable c f b)
  | .knitRun => (count32? l.number).map fun n => .times (.stitch .knit) n
  | .purlRun => (count32? l.number).map fun n => .times (.stitch .purl) n
  | _ => none

def action? (l : Lexeme) : Option MarkerAction :=
  match l.token with
  | .placeMarker => l.literal.toList.head?.map .place
  | .removeMarker => l.literal.toList.head?.map .remove
  | _ => none

/-- The first comma of the literal divides it. -/
theorem halves {l : Lexeme} {front back : List Char} (hf : IsDigitRun front)
    (hl : l.literal.toList = front ++ ',' :: back) :
    l.literal.toList.takeWhile (· ≠ ',') = front ∧
      l.literal.toList.dropWhile (· ≠ ',') = ',' :: back := by
  have digits : ∀ d ∈ front, decide (d ≠ ',') = true := by
    intro d hd
    have digit := List.all_eq_true.1 hf.2 d hd
    rw [decide_eq_true_iff]
    rintro rfl
    exact absurd digit (by decide)
  rw [hl, List.takeWhile_append_of_pos digits, List.dropWhile_append_of_pos digits]
  simp

/-- The numbers of a cable are those before and behind the comma. -/
theorem front_back_eq {l : Lexeme} {front back : List Char} (hf : IsDigitRun front)
    (hl : l.literal.toList = front ++ ',' :: back) :
    l.front = decimalValue front ∧ l.back = decimalValue back := by
  obtain ⟨before, behind⟩ := halves hf hl
  rw [Lexeme.front, Lexeme.back, before, behind, List.drop_one, List.tail_cons]
  exact ⟨rfl, rfl⟩

theorem fixed?_eq_some_iff {t : Token} {l : Lexeme} {u : Unit} :
    l.fixed? t = some u ↔ l.token = t := by
  simp [fixed?]

theorem count?_eq_some_iff {l : Lexeme} {n : UInt32} :
    l.count? = some n ↔ l.token = .integer ∧ count32? l.number = some n := by
  simp [count?]

theorem name?_eq_some_iff {l : Lexeme} {name : String} :
    l.name? = some name ↔ l.token = .identifier ∧ l.literal = name := by
  simp [name?]

theorem isStitch_of_unit? {l : Lexeme} {u : Expr} (h : l.unit? = some u) :
    l.token.isStitch = true := by
  unfold unit? at h
  split at h <;> simp_all [Token.isStitch]

theorem isMarkerAction_of_action? {l : Lexeme} {a : MarkerAction} (h : l.action? = some a) :
    l.token.isMarkerAction = true := by
  unfold action? at h
  split at h <;> simp_all [Token.isMarkerAction]

end Lexeme

namespace Reader

theorem map_eq_ok_iff {ε α β : Type} {f : α → β} {x : Except ε α} {b : β} :
    x.map f = .ok b ↔ ∃ a, x = .ok a ∧ f a = b := by
  cases x <;> simp [Except.map]

theorem countOf_eq_ok_iff {l : Lexeme} (digits : IsDigitRun l.literal.toList) {n : UInt32} :
    countOf l = .ok n ↔ count32? l.number = some n := by
  rw [countOf, readCount_eq_count32? digits, Lexeme.number]
  split
  · rename_i m found
    simp [found]
  · rename_i missing
    simp [missing]

theorem readCounts_eq_count32? {l : Lexeme} {front back : List Char} (hf : IsDigitRun front)
    (hb : IsDigitRun back) (hl : l.literal.toList = front ++ ',' :: back) :
    readCounts l.literal.toList =
      (count32? l.front).bind fun f => (count32? l.back).map fun b => (f, b) := by
  obtain ⟨before, behind⟩ := Lexeme.halves hf hl
  obtain ⟨first, second⟩ := Lexeme.front_back_eq hf hl
  rw [readCounts, List.span_eq_takeWhile_dropWhile, before, behind, first, second]
  simp only [readCount_eq_count32? hf, readCount_eq_count32? hb]

theorem cableOf_eq_ok_iff {l : Lexeme} {front back : List Char} (hf : IsDigitRun front)
    (hb : IsDigitRun back) (hl : l.literal.toList = front ++ ',' :: back) {c : Crossing}
    {s : Stitch} :
    cableOf c l = .ok s ↔
      ∃ f b, count32? l.front = some f ∧ count32? l.back = some b ∧ s = .cable c f b := by
  rw [cableOf, readCounts_eq_count32? hf hb hl]
  cases count32? l.front <;> cases count32? l.back <;> simp [eq_comm]

/-- On a well spelled lexeme the reader finds the stitch that the lexeme stands for. -/
theorem unitOf_eq_ok_iff {l : Lexeme} (h : l.WellSpelled) {u : Expr} :
    unitOf l = .ok u ↔ l.unit? = some u := by
  unfold Lexeme.WellSpelled at h
  unfold unitOf Lexeme.unit?
  cases ht : l.token with
  | knitTogether | purlTogether | castOn | bindOff | knitRun | purlRun =>
    rw [ht] at h
    simp [map_eq_ok_iff, countOf_eq_ok_iff h]
  | cable c =>
    rw [ht] at h
    obtain ⟨front, back, hf, hb, hl⟩ := h
    simp only [map_eq_ok_iff, cableOf_eq_ok_iff hf hb hl, Option.bind_eq_some_iff,
      Option.map_eq_some_iff]
    constructor
    · rintro ⟨s, ⟨f, b, front, back, rfl⟩, rfl⟩
      exact ⟨f, front, b, back, rfl⟩
    · rintro ⟨f, front, b, back, rfl⟩
      exact ⟨_, ⟨f, b, front, back, rfl⟩, rfl⟩
  | _ => simp

theorem markerOf_eq_ok_iff {l : Lexeme} (h : l.WellSpelled) (marker : l.token.isMarkerAction)
    {e : Expr} : markerOf l = .ok e ↔ ∃ a, l.action? = some a ∧ e = .marker a := by
  unfold Lexeme.WellSpelled at h
  unfold markerOf Lexeme.action?
  cases ht : l.token with
  | placeMarker | removeMarker =>
    rw [ht] at h
    obtain ⟨c, -, hl⟩ := h
    simp [hl, eq_comm]
  | _ => simp [ht, Token.isMarkerAction] at marker

end Reader

end Knitting
