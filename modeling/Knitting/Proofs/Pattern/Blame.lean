import Knitting.Proofs.Pattern.Language
import Mathlib.Algebra.Group.Nat.Defs

/-! # What is wrong with a lexeme

When a lexeme stops the reader, the error speaks of that lexeme and of what is wrong with it. On the
lexemes of a source that leaves little: a marker always has its name, and a count or a cable fails
only where a number does not fit into 32 bits.
-/
namespace Knitting
open Text

def Token.isCounted : Token → Bool
  | .integer | .knitTogether | .purlTogether | .castOn | .bindOff | .knitRun | .purlRun => true
  | _ => false

namespace Reader

/-- The errors that a lexeme is to blame for. -/
inductive Blames (l : Lexeme) : ParseError → Prop
  | unexpectedToken (expected : Expected) :
    Blames l (.unexpectedToken l.position expected l.token l.literal)
  | unexpectedEnd (expected : Expected) (token : l.token = .endOfInput) :
    Blames l (.unexpectedEnd l.position expected)
  | count (counted : l.token.isCounted = true) (unreadable : readCount l.literal.toList = none) :
    Blames l (.invalidCount l.position l.literal)
  | cable (crossing : Crossing) (token : l.token = .cable crossing)
      (unreadable : readCounts l.literal.toList = none) :
    Blames l (.invalidCable l.position l.literal)
  | markerName (marker : l.token.isMarkerAction = true)
      (unnamed : ∀ name, l.literal.toList ≠ [name]) :
    Blames l (.invalidMarkerName l.position l.literal)
  | emptyRow (token : l.token = .rowEnd) (start : Position) : Blames l (.emptyRow start)

/-- If something is wrong, the lexeme is to blame for it. -/
def Blamed {α : Type} (l : Lexeme) (result : Except ParseError α) : Prop :=
  ∀ e, result = .error e → Blames l e

section Blamed

variable {α β : Type} {l : Lexeme}

theorem blamed_ok (a : α) : Blamed l (.ok a) := by
  rintro e ⟨⟩

theorem Blames.blamed {e : ParseError} (h : Blames l e) :
    Blamed l (.error e : Except ParseError α) := by
  rintro _ ⟨⟩
  exact h

theorem blamed_unexpected (expected : Expected) :
    Blamed l (.error (unexpected expected l) : Except ParseError α) := by
  apply Blames.blamed
  by_cases token : l.token = .endOfInput
  · rw [unexpected, if_pos token]
    exact .unexpectedEnd expected token
  · rw [unexpected, if_neg token]
    exact .unexpectedToken expected

theorem Blamed.map {result : Except ParseError α} (h : Blamed l result) (f : α → β) :
    Blamed l (result.map f) := by
  cases result with
  | ok a => exact blamed_ok (f a)
  | error e => exact (h e rfl).blamed

theorem blamed_countOf (counted : l.token.isCounted = true) : Blamed l (countOf l) := by
  rw [countOf]
  cases read : readCount l.literal.toList with
  | some n => exact blamed_ok n
  | none => exact (Blames.count counted read).blamed

theorem blamed_cableOf {crossing : Crossing} (token : l.token = .cable crossing) :
    Blamed l (cableOf crossing l) := by
  rw [cableOf]
  cases read : readCounts l.literal.toList with
  | some counts => exact blamed_ok _
  | none => exact (Blames.cable crossing token read).blamed

theorem blamed_unitOf (l : Lexeme) : Blamed l (unitOf l) := by
  rw [unitOf]
  cases token : l.token with
  | knit | purl | slipSlipKnit | yarnOver => exact blamed_ok _
  | knitTogether | purlTogether | castOn | bindOff | knitRun | purlRun =>
    apply Blamed.map
    apply blamed_countOf
    rw [token]
    rfl
  | cable crossing => exact (blamed_cableOf token).map _
  | _ => exact blamed_unexpected _

theorem blamed_markerOf (marker : l.token.isMarkerAction = true) : Blamed l (markerOf l) := by
  unfold markerOf
  split
  · split
    · exact blamed_ok _
    · exact blamed_ok _
    · exact blamed_unexpected _
  · rename_i unnamed
    exact (Blames.markerName marker unnamed).blamed

variable (s : OpenSection) (b : Option OpenBlock) (r : OpenRow)

theorem blamed_endRow (token : l.token = .rowEnd) : Blamed l (endRow s b r) := by
  unfold endRow
  split
  · exact (Blames.emptyRow token r.start).blamed
  · cases b <;> exact blamed_ok _

theorem blamed_stepExpression (l : Lexeme) : Blamed l (stepExpression s b r l) := by
  unfold stepExpression
  by_cases stitch : l.token.isStitch = true
  · rw [if_pos stitch]
    exact (blamed_unitOf l).map _
  · by_cases marker : l.token.isMarkerAction = true
    · rw [if_neg stitch, if_pos marker]
      exact (blamed_markerOf marker).map _
    · rw [if_neg stitch, if_neg marker]
      split
      · exact blamed_ok _
      · exact blamed_ok _
      · rename_i token _
        exact blamed_endRow s b r token
      · exact blamed_unexpected _
      · exact blamed_unexpected _

theorem blamed_integer (token : l.token = .integer) : Blamed l (countOf l) := by
  apply blamed_countOf
  rw [token]
  rfl

theorem blamed_stepRow (l : Lexeme) (awaiting : Awaiting) :
    Blamed l (stepRow s b r l awaiting) := by
  cases awaiting with
  | expression => exact blamed_stepExpression s b r l
  | suffix u =>
    rw [stepRow]
    split
    · exact blamed_ok _
    · exact blamed_stepExpression s b (r.push u) l
  | count u =>
    rw [stepRow]
    split
    · rename_i token
      exact (blamed_integer token).map _
    · exact blamed_ok _
    · exact blamed_unexpected _
  | leftover u =>
    rw [stepRow]
    split
    · rename_i token
      exact (blamed_integer token).map _
    · exact blamed_unexpected _

theorem blamed_require {token : Token} {state : Except ParseError ReaderState}
    (h : l.token = token → Blamed l state) : Blamed l (require token l state) := by
  unfold require
  split
  · rename_i same
    exact h same
  · exact blamed_unexpected _

/-- A lexeme that stops the reader is to blame for the error. -/
theorem blamed_step (reader : Reader) (l : Lexeme) : Blamed l (reader.step l) := by
  unfold step
  cases reader.state with
  | outside | sectionName | sectionOpen | blockOpen =>
    exact (blamed_require fun _ => blamed_ok _).map _
  | items s =>
    dsimp only
    split
    · exact blamed_ok _
    · exact blamed_ok _
    · exact (blamed_stepExpression s none _ l).map _
  | blockCount s => exact (blamed_require fun token => (blamed_integer token).map _).map _
  | blockRows s b =>
    dsimp only
    split
    · exact blamed_ok _
    · exact (blamed_stepExpression s (some b) _ l).map _
  | row s b r awaiting => exact (blamed_stepRow s b r l awaiting).map _

end Blamed

/-- An error before the end is the fault of one of the lexemes. -/
theorem exists_blames_of_visit {ls : List Lexeme} {reader : Reader} {e : ParseError}
    (h : visit step ls reader = .error e) : ∃ l ∈ ls, Blames l e := by
  induction ls generalizing reader with
  | nil => cases h
  | cons l ls ih =>
    rw [visit] at h
    cases stepped : reader.step l with
    | error e' =>
      rw [stepped] at h
      cases h
      exact ⟨l, List.mem_cons_self, blamed_step reader l e stepped⟩
    | ok next =>
      rw [stepped] at h
      rcases ih h with ⟨m, hm, blames⟩
      exact ⟨m, List.mem_cons_of_mem l hm, blames⟩

end Reader

open Reader

theorem exists_blames_or_unfinished {source : String} {e : ParseError}
    (failed : parse source = .error e) :
    (∃ l ∈ (LexemeStream.ofSource source).lexemes, Blames l e) ∨
      ∃ expected, e = .unexpectedEnd (LexemeStream.ofSource source).finish expected := by
  rw [parse_eq_visit] at failed
  cases visited : visit step (LexemeStream.ofSource source).lexemes .fresh with
  | error e' =>
    rw [visited] at failed
    cases failed
    exact .inl (exists_blames_of_visit visited)
  | ok reader =>
    rw [visited, Except.bind, close] at failed
    cases missed : missing reader.state with
    | none =>
      rw [missed] at failed
      cases failed
    | some expected =>
      rw [missed] at failed
      cases failed
      exact .inr ⟨expected, rfl⟩

section WellSpelled

variable {l : Lexeme} {p : Position} {literal : String}

theorem Lexeme.WellSpelled.digits (spelled : l.WellSpelled) (counted : l.token.isCounted = true) :
    IsDigitRun l.literal.toList := by
  rw [Lexeme.WellSpelled] at spelled
  cases token : l.token <;> rw [token] at spelled counted <;> first | exact spelled | cases counted

theorem not_blames_markerName (spelled : l.WellSpelled) :
    ¬Blames l (.invalidMarkerName p literal) := by
  rintro ⟨⟩
  rename_i marker unnamed
  rw [Lexeme.WellSpelled] at spelled
  cases token : l.token with
  | placeMarker | removeMarker =>
    rw [token] at spelled
    rcases spelled with ⟨name, -, named⟩
    exact unnamed name named
  | _ =>
    rw [token] at marker
    cases marker

theorem large_of_blames_count (spelled : l.WellSpelled)
    (blames : Blames l (.invalidCount p literal)) :
    l.position = p ∧ l.literal = literal ∧ IsDigitRun literal.toList ∧
      2 ^ 32 - 1 < decimalValue literal.toList := by
  cases blames with
  | count counted unreadable =>
    have digits := spelled.digits counted
    rw [readCount_eq_count32? digits, count32?_eq_none_iff] at unreadable
    exact ⟨rfl, rfl, digits, unreadable⟩

theorem large_of_blames_cable (spelled : l.WellSpelled)
    (blames : Blames l (.invalidCable p literal)) :
    ∃ crossing front back, l = ⟨p, .cable crossing, literal⟩ ∧
      literal.toList = front ++ ',' :: back ∧ IsDigitRun front ∧ IsDigitRun back ∧
      (2 ^ 32 - 1 < decimalValue front ∨ 2 ^ 32 - 1 < decimalValue back) := by
  cases blames with
  | cable crossing token unreadable =>
    rw [Lexeme.WellSpelled, token] at spelled
    rcases spelled with ⟨front, back, hf, hb, halves⟩
    rcases Lexeme.front_back_eq hf halves with ⟨first, second⟩
    rw [readCounts_eq_count32? hf hb halves, Option.bind_eq_none_iff] at unreadable
    refine ⟨crossing, front, back, by rw [← token], halves, hf, hb, ?_⟩
    rw [← first, ← second]
    by_cases large : UInt32.size ≤ l.front
    · exact .inl large
    · right
      cases read : count32? l.front with
      | none => exact absurd (count32?_eq_none_iff.1 read) large
      | some f =>
        have behind := unreadable f read
        rwa [Option.map_eq_none_iff, count32?_eq_none_iff] at behind

end WellSpelled

end Knitting
