import Knitting.Proofs.Pattern.Blame
import Knitting.Proofs.Pattern.Descent

/-! # Reading on

One intake can be read from again and again, also where a reading has failed. A lexeme that was put
back is pulled again before the reading is over, so between two readings the slot is empty, and the
next one begins behind the last lexeme taken.
-/
namespace Knitting

/-- The error is where the lexeme is, and names it if it names any. -/
structure ParseError.StandsAt (e : ParseError) (l : Lexeme) : Prop where
  position : e.position = l.position
  named : ∀ p expected found literal, e = .unexpectedToken p expected found literal →
    found = l.token ∧ literal = l.literal

namespace Reader

section EmptyRow

variable {s : OpenSection} {b : Option OpenBlock} {r : OpenRow} {l : Lexeme} {p : Position}

theorem map_eq_error_iff {α β : Type} {f : α → β} {result : Except ParseError α} {e : ParseError} :
    result.map f = .error e ↔ result = .error e := by
  cases result <;> simp [Except.map]

theorem emptyRow_of_endRow (h : endRow s b r = .error (.emptyRow p)) :
    r.content = [] ∧ p = r.start := by
  unfold endRow at h
  split at h
  · rename_i empty
    cases h
    exact ⟨List.isEmpty_iff.1 empty, rfl⟩
  · cases b <;> cases h

theorem emptyRow_of_stepExpression (h : stepExpression s b r l = .error (.emptyRow p)) :
    r.content = [] ∧ r.outer = [] ∧ p = r.start := by
  have token : l.token = .rowEnd := by
    cases blamed_stepExpression s b r l _ h with
    | emptyRow token => exact token
  cases outer : r.outer with
  | nil =>
    have ended := stepExpression_rowEnd (s := s) (b := b) (.ofToken token) outer
    rw [Leaf.lexeme_ofToken, h] at ended
    obtain ⟨content, start⟩ := emptyRow_of_endRow ended.symm
    exact ⟨content, rfl, start⟩
  | cons content outer =>
    simp [stepExpression, token, outer, Token.isStitch, Token.isMarkerAction, unexpected] at h

theorem emptyRow_of_step {sections : List Section} {state : ReaderState} {ls : List Lexeme}
    (spelled : Spelled state ls) (h : step ⟨sections, state⟩ l = .error (.emptyRow p)) :
    p = l.position := by
  have token : l.token = .rowEnd := by
    cases blamed_step ⟨sections, state⟩ l _ h with
    | emptyRow token => exact token
  cases spelled with
  | outside | sectionName | sectionOpen | blockCount | blockOpen =>
    simp [step, require, token, unexpected, Except.map] at h
  | items | blockRows =>
    simp only [step, token, map_eq_error_iff] at h
    exact (emptyRow_of_stepExpression h).2.2
  | row head block row start pending first =>
    simp only [step, map_eq_error_iff] at h
    cases pending with
    | expression =>
      -- the row has begun, so there is something in it
      obtain ⟨content, outer⟩ := row
      obtain ⟨empty, flat, -⟩ := emptyRow_of_stepExpression h
      simp only [RowHead.openRow, List.reverse_eq_nil_iff, List.map_eq_nil_iff] at empty flat
      subst flat
      cases content with
      | nil => cases first
      | cons t ts => cases empty
    | suffix unit =>
      rw [stepRow, if_neg (by rw [token]; decide)] at h
      cases (emptyRow_of_stepExpression h).1
    | count => simp [stepRow, token, unexpected] at h
    | leftover => simp [stepRow, token, unexpected] at h

end EmptyRow

variable {finish : Position} {l : Lexeme} {ls ms taken : List Lexeme} {reader : Reader}

/-- A lexeme that stops the reader is where the error stands. -/
theorem standsAt_of_step {e : ParseError} (traced : Traced reader ms)
    (h : reader.step l = .error e) : e.StandsAt l := by
  cases blamed_step reader l e h with
  | unexpectedToken expected => exact ⟨rfl, by rintro _ _ _ _ ⟨⟩; exact ⟨rfl, rfl⟩⟩
  | emptyRow token start =>
    obtain ⟨sections, state⟩ := reader
    obtain ⟨done, ahead, -, spelled, -⟩ := traced
    have same : start = l.position := emptyRow_of_step spelled h
    exact ⟨same, by rintro _ _ _ _ ⟨⟩⟩
  | _ => exact ⟨rfl, by rintro _ _ _ _ ⟨⟩⟩

theorem readOn_fst (finish : Position) (reader : Reader) (ls taken : List Lexeme) :
    (reader.readOn finish ls taken).1 =
      ((visit step ls reader).bind fun after => after.close finish).mapError .fault := by
  induction ls generalizing reader taken with
  | nil => rfl
  | cons l ls ih =>
    rw [readOn, visit]
    cases reader.step l with
    | error e => rfl
    | ok next => exact ih next (l :: taken)

theorem taken_suffix_readOn (finish : Position) (reader : Reader) (ls taken : List Lexeme) :
    taken <:+ (reader.readOn finish ls taken).2.taken := by
  induction ls generalizing reader taken with
  | nil => exact List.suffix_cons ..
  | cons l ls ih =>
    rw [readOn]
    cases reader.step l with
    | error e => exact List.suffix_cons ..
    | ok next => exact (List.suffix_cons l taken).trans (ih next (l :: taken))

/-- If a reading fails, it fails at the last lexeme that it took. -/
theorem standsAt_of_readOn {b : Breakdown} (traced : Traced reader ms)
    (spelled : ∀ l ∈ ls, l.WellSpelled) (h : (reader.readOn finish ls taken).1 = .error b) :
    ∃ e l rest, b = .fault e ∧ (reader.readOn finish ls taken).2.taken = l :: rest ∧
      taken <:+ rest ∧ e.StandsAt l := by
  induction ls generalizing reader ms taken with
  | nil =>
    rw [readOn, close] at h
    cases missed : missing reader.state with
    | none =>
      rw [missed] at h
      cases h
    | some expected =>
      rw [missed] at h
      cases h
      exact ⟨_, .endAt finish, taken, rfl, rfl, List.suffix_rfl, rfl, by rintro _ _ _ _ ⟨⟩⟩
  | cons l ls ih =>
    rw [List.forall_mem_cons] at spelled
    rw [readOn] at h ⊢
    cases stepped : reader.step l with
    | error e =>
      rw [stepped] at h
      cases h
      exact ⟨e, l, taken, rfl, rfl, List.suffix_rfl, standsAt_of_step traced stepped⟩
    | ok next =>
      rw [stepped] at h
      obtain ⟨e, last, rest, fault, last_eq, longer, stands⟩ :=
        ih (traced_step traced spelled.1 stepped) spelled.2 h
      exact ⟨e, last, rest, fault, last_eq, (List.suffix_cons l taken).trans longer, stands⟩

end Reader

/-- The stream behind its first lexemes. -/
def LexemeStream.drop (n : Nat) (s : LexemeStream) : LexemeStream :=
  { s with lexemes := s.lexemes.drop n }

namespace Intake

variable {t : LexemeStream} {ls taken : List Lexeme} {intake : Intake}

/-- The lexemes taken are the first of the stream, in order, with nothing but the end of input
behind the last of them. The others are ahead, and the slot is empty. -/
structure Follows (t : LexemeStream) (intake : Intake) : Prop where
  ahead : intake = behind t.finish (t.lexemes.drop intake.taken.length) intake.taken
  taken : intake.taken.reverse = t.lexemes.take intake.taken.length ++
    List.replicate (intake.taken.length - t.lexemes.length) (.endAt t.finish)

theorem follows_ofStream (t : LexemeStream) : (ofStream t).Follows t where
  ahead := rfl
  taken := by simp [ofStream]

theorem Follows.pull (h : (behind t.finish ls taken).Follows t) :
    (behind t.finish ls.tail (ls.headD (.endAt t.finish) :: taken)).Follows t := by
  obtain ⟨lexemes, finish⟩ := t
  obtain ⟨ahead, order⟩ := h
  have rest : ls = lexemes.drop taken.length := congrArg (·.stream.lexemes) ahead
  subst rest
  refine ⟨by simp [behind, List.tail_drop], ?_⟩
  simp only [behind, List.reverse_cons, List.length_cons] at order ⊢
  rw [order]
  by_cases more : taken.length < lexemes.length
  · rw [List.drop_eq_getElem_cons more, List.headD_cons, List.take_succ_eq_append_getElem more,
      Nat.sub_eq_zero_of_le (Nat.le_of_lt more), Nat.sub_eq_zero_of_le more]
    simp
  · have all : lexemes.length ≤ taken.length := Nat.le_of_not_lt more
    rw [List.drop_eq_nil_of_le all, List.headD_nil, List.take_of_length_le all,
      List.take_of_length_le (Nat.le_succ_of_le all), Nat.succ_sub all, List.replicate_succ',
      List.append_assoc]

theorem Follows.readOn (reader : Reader) (h : (behind t.finish ls taken).Follows t) :
    (reader.readOn t.finish ls taken).2.Follows t := by
  induction ls generalizing reader taken with
  | nil => exact h.pull
  | cons l ls ih =>
    rw [Reader.readOn]
    cases reader.step l with
    | error e => exact h.pull
    | ok next => exact ih next h.pull

/-- A reading is the reader's, of the lexemes not taken yet. -/
theorem Follows.read_eq (inside : ∀ l ∈ t.lexemes, l.token ≠ .endOfInput) (h : intake.Follows t) :
    intake.read =
      Reader.fresh.readOn t.finish (t.lexemes.drop intake.taken.length) intake.taken := by
  have here := Descent.readPattern_eq t.finish (t.lexemes.drop intake.taken.length) intake.taken
    fun l hl => inside l (List.mem_of_mem_drop (i := intake.taken.length) hl)
  rwa [← h.ahead] at here

theorem follows_afterReadings (inside : ∀ l ∈ t.lexemes, l.token ≠ .endOfInput) (k : Nat) :
    ((ofStream t).afterReadings k).Follows t := by
  induction k with
  | zero => exact follows_ofStream t
  | succ k ih =>
    have last := ih.ahead ▸ ih
    rw [afterReadings, ih.read_eq inside]
    exact Follows.readOn .fresh last

/-- What the next reading finds and what it returns, after any number of readings. -/
structure Resumes (t : LexemeStream) (before : Intake) : Prop where
  slot : before.slot = none
  order : before.taken.reverse = t.lexemes.take before.taken.length ++
    List.replicate (before.taken.length - t.lexemes.length) (.endAt t.finish)
  fresh : before.read.1 = (ofStream (t.drop before.taken.length)).read.1
  sections : before.read.1 = (t.drop before.taken.length).readSections.1.mapError .fault
  stops : ∀ b, before.read.1 = .error b → ∃ e last rest, b = .fault e ∧
    before.read.2.taken = last :: rest ∧ before.taken <:+ rest ∧ e.StandsAt last

theorem Follows.read_fst (inside : ∀ l ∈ t.lexemes, l.token ≠ .endOfInput)
    (h : intake.Follows t) :
    intake.read.1 = (t.drop intake.taken.length).readSections.1.mapError .fault := by
  rw [h.read_eq inside, Reader.readOn_fst, LexemeStream.readSections_fst]
  rfl

theorem Follows.resumes (spelled : ∀ l ∈ t.lexemes, l.WellSpelled) (h : intake.Follows t) :
    intake.Resumes t := by
  have inside : ∀ l ∈ t.lexemes, l.token ≠ .endOfInput := fun l hl => (spelled l hl).ne_endOfInput
  have behind : ∀ l ∈ (t.drop intake.taken.length).lexemes, l.WellSpelled :=
    fun l hl => spelled l (List.mem_of_mem_drop hl)
  refine ⟨congrArg Intake.slot h.ahead, h.taken, ?_, h.read_fst inside, ?_⟩
  · have anew := (follows_ofStream (t.drop intake.taken.length)).read_fst
      fun l hl => (behind l hl).ne_endOfInput
    rw [h.read_fst inside, anew]
    rfl
  · intro b failed
    rw [h.read_eq inside] at failed ⊢
    have untouched : Reader.Traced .fresh [] := ⟨[], [], rfl, .outside, rfl⟩
    exact Reader.standsAt_of_readOn untouched behind failed

theorem taken_suffix_afterReadings (inside : ∀ l ∈ t.lexemes, l.token ≠ .endOfInput) (k j : Nat) :
    ((ofStream t).afterReadings k).taken <:+ ((ofStream t).afterReadings (k + j)).taken := by
  induction j with
  | zero => exact List.suffix_rfl
  | succ j ih =>
    refine ih.trans ?_
    rw [← Nat.add_assoc, afterReadings, (follows_afterReadings inside (k + j)).read_eq inside]
    exact Reader.taken_suffix_readOn ..

/-- If the end of input has been taken, there is nothing left to read. -/
theorem Follows.read_eq_nil (inside : ∀ l ∈ t.lexemes, l.token ≠ .endOfInput)
    (h : intake.Follows t) (ended : ∃ l ∈ intake.taken, l.token = .endOfInput) :
    intake.read.1 = .ok [] := by
  obtain ⟨l, taken, token⟩ := ended
  have all : t.lexemes.length ≤ intake.taken.length := by
    by_contra some
    have first := List.mem_reverse.2 taken
    rw [h.taken, Nat.sub_eq_zero_of_le (Nat.le_of_not_le some), List.replicate_zero,
      List.append_nil] at first
    exact inside l (List.mem_of_mem_take first) token
  rw [h.read_fst inside, LexemeStream.drop, List.drop_eq_nil_of_le all]
  rfl

/-- Whatever the readings before have returned, a reading takes the lexemes up where the last one
left them: none is skipped and none is taken twice, and the sections are those that would be read
from the lexemes ahead alone. It stops at the last lexeme taken or not at all, and never because a
lexeme cannot be put back. Behind the end of input there are no sections any more. -/
theorem readings_resume (source : String) (k : Nat) :
    ((ofSource source).afterReadings k).Resumes (.ofSource source) ∧
      ∀ j, (∃ l ∈ ((ofSource source).afterReadings k).taken, l.token = .endOfInput) →
        ((ofSource source).afterReadings (k + j)).read.1 = .ok [] := by
  have spelled := LexemeStream.wellSpelled_ofSource source
  have inside := fun l hl => (spelled l hl).ne_endOfInput
  refine ⟨(follows_afterReadings inside k).resumes spelled, ?_⟩
  rintro j ⟨l, taken, token⟩
  have kept := (taken_suffix_afterReadings inside k j).mem taken
  exact (follows_afterReadings inside (k + j)).read_eq_nil inside ⟨l, kept, token⟩

end Intake

end Knitting
