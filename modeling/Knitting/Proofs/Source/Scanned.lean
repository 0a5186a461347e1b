import Knitting.Source.Scanner

/-! # Scanning and streams

The lexemes of a scanner are those of the stream. Between two calls the cursor of the scanner may be
behind the pieces that are ahead, by blanks that have not been counted. Had they been, it would
stand where the stream does.
-/
namespace Knitting

@[simp] theorem utf8_append (cs ds : List Char) : utf8 (cs ++ ds) = utf8 cs ++ utf8 ds :=
  List.flatMap_append

theorem toList_toUTF8 (source : String) : source.toUTF8.data.toList = utf8 source.toList := by
  have bytes : (String.ofList source.toList).toUTF8.data.toList = utf8 source.toList := by
    rw [String.toUTF8_eq_toByteArray]
    exact List.toList_data_toByteArray
  rwa [String.ofList_toList] at bytes

theorem countP_utf8EncodeChar (c : Char) : (String.utf8EncodeChar c).countP beginsChar = 1 := by
  have one : ∀ k < 128, beginsChar (.ofNat k) = true := by decide
  have two : ∀ k < 32, beginsChar (.ofNat (k + 0xC0)) = true := by decide
  have three : ∀ k < 16, beginsChar (.ofNat (k + 0xE0)) = true := by decide
  have four : ∀ k < 8, beginsChar (.ofNat (k + 0xF0)) = true := by decide
  have more : ∀ k < 64, beginsChar (.ofNat (k + 0x80)) = false := by decide
  unfold String.utf8EncodeChar
  generalize c.val.toNat = code
  have rest (k : Nat) : k % 64 < 64 := Nat.mod_lt k (by decide)
  dsimp only
  split
  · rename_i ascii
    simp only [List.countP_cons, List.countP_nil, one code (Nat.lt_succ_of_le ascii), if_true]
  · split
    · simp only [List.countP_cons, List.countP_nil, two _ (Nat.mod_lt _ (by decide)),
        more _ (rest _), if_true, Bool.false_eq_true, if_false]
    · split
      · simp only [List.countP_cons, List.countP_nil, three _ (Nat.mod_lt _ (by decide)),
          more _ (rest _), if_true, Bool.false_eq_true, if_false]
      · simp only [List.countP_cons, List.countP_nil, four _ (Nat.mod_lt _ (by decide)),
          more _ (rest _), if_true, Bool.false_eq_true, if_false]

/-- Characters are counted by the bytes that they begin with. -/
theorem countP_utf8 (cs : List Char) : (utf8 cs).countP beginsChar = cs.length := by
  induction cs with
  | nil => rfl
  | cons c cs ih =>
    rw [utf8, List.flatMap_cons, List.countP_append, countP_utf8EncodeChar, ← utf8, ih,
      List.length_cons, Nat.add_comm]

namespace ByteCursor

def behind (counted rest : List Char) (p : Position) : ByteCursor :=
  ⟨utf8 (counted ++ rest), (utf8 counted).length, p⟩

variable (counted passed rest : List Char) (p : Position)

@[simp] theorem source_behind : (behind counted rest p).source = utf8 (counted ++ rest) := rfl

@[simp] theorem position_behind : (behind counted rest p).position = p := rfl

/-- Moving on over characters is moving on by one column for each. -/
theorem advanceTo_behind :
    (behind counted (passed ++ rest) p).advanceTo (utf8 (counted ++ passed)).length =
      behind (counted ++ passed) rest (p.right passed.length) := by
  have bytes : passed.length ≤ (utf8 passed).length := by
    rw [← countP_utf8 passed]
    exact List.countP_le_length
  rw [behind, ← List.append_assoc]
  unfold advanceTo
  split
  · rename_i reached
    have none : passed = [] := by
      rw [utf8_append, List.length_append] at reached
      dsimp only at reached
      exact List.length_eq_zero_iff.1 (by omega)
    rw [none, List.append_nil]
    rfl
  · dsimp only
    rw [utf8_append (counted ++ passed), List.take_left, utf8_append, List.drop_left, countP_utf8,
      ← utf8_append, ← utf8_append, behind]

theorem newLine_behind :
    (behind counted (passed ++ rest) p).newLine (utf8 (counted ++ passed)).length =
      behind (counted ++ passed) rest p.nextLine := by
  rw [behind, behind, List.append_assoc]
  rfl

end ByteCursor

namespace Scanner
open ByteCursor

/-- The scanner that has counted the first characters of a text up to the position `p`, and has the
pieces ahead behind `pending` characters more. -/
def within (counted pending : List Char) (ahead : List Piece) (p : Position) : Scanner where
  ahead := ahead
  start := (utf8 (counted ++ pending)).length
  cursor := .behind counted (pending ++ ahead.flatMap Piece.text) p

theorem ofSource_eq_within (source : String) :
    ofSource source = within [] [] (pieces source.toList) .start := by
  rw [within, flatMap_text_pieces, ofSource, toList_toUTF8]
  rfl

section Piece

variable (counted pending : List Char) {piece : Piece} (rest : List Piece) (p : Position)

theorem next_within_nil :
    (within counted pending [] p).next =
      (.endAt (p.right pending.length),
        within (counted ++ pending) [] [] (p.right pending.length)) := by
  have ended := advanceTo_behind counted pending [] p
  rw [List.append_nil] at ended
  simp only [next, within, nextAmong, List.flatMap_nil, List.append_nil, source_behind, ended,
    position_behind]

/-- Where the pieces begin that follow the first. -/
theorem start_behind :
    (utf8 (counted ++ pending)).length + (utf8 piece.text).length =
      (utf8 (counted ++ pending ++ piece.text)).length := by
  rw [utf8_append (counted ++ pending), List.length_append]

theorem next_within_blank (blank : piece.kind = .blank) :
    (within counted pending (piece :: rest) p).next =
      (within counted (pending ++ piece.text) rest p).next := by
  simp only [next, within, nextAmong, blank, List.flatMap_cons, start_behind, List.append_assoc]

theorem next_within_comment (comment : piece.kind = .comment) :
    (within counted pending (piece :: rest) p).next =
      (within (counted ++ pending ++ piece.text) [] rest p.nextLine).next := by
  simp only [next, within, nextAmong, comment, List.flatMap_cons, start_behind, advanceTo_behind,
    newLine_behind, Position.nextLine_right, List.append_nil, List.nil_append]

theorem next_within_rowEnd (ended : piece.kind = .rowEnd) :
    (within counted pending (piece :: rest) p).next =
      (⟨p.right pending.length, .rowEnd, ";"⟩,
        within (counted ++ pending ++ piece.text) [] rest p.nextLine) := by
  simp only [next, within, nextAmong, ended, List.flatMap_cons, start_behind, advanceTo_behind,
    position_behind, newLine_behind, Position.nextLine_right, List.append_nil, List.nil_append]

theorem next_within_lexeme (blank : piece.kind ≠ .blank) (comment : piece.kind ≠ .comment)
    (ended : piece.kind ≠ .rowEnd) :
    (within counted pending (piece :: rest) p).next =
      (.ofPiece (p.right pending.length) piece,
        within (counted ++ pending ++ piece.text) [] rest
          (p.right (pending.length + piece.text.length))) := by
  simp only [next, within, nextAmong, List.flatMap_cons, start_behind, advanceTo_behind,
    position_behind, Position.right_right, List.append_nil, List.nil_append]

end Piece

/-- The scanner goes on where the stream does, behind characters that it has not counted yet. -/
def Follows (s : Scanner) (t : LexemeStream) : Prop :=
  ∃ counted pending ahead p,
    s = within counted pending ahead p ∧ t = .ofPieces (p.right pending.length) ahead

variable {s : Scanner} {t : LexemeStream} {finish : Position}

theorem follows_within (counted pending : List Char) (ahead : List Piece) (p : Position) :
    (within counted pending ahead p).Follows (.ofPieces (p.right pending.length) ahead) :=
  ⟨counted, pending, ahead, p, rfl, rfl⟩

theorem follows_ofSource (source : String) : (ofSource source).Follows (.ofSource source) :=
  ⟨[], [], pieces source.toList, .start, ofSource_eq_within source, rfl⟩

/-- A call gives the next lexeme of the stream, and leaves the scanner where the stream goes on. -/
theorem Follows.next (h : s.Follows t) : s.next.1 = t.next.1 ∧ s.next.2.Follows t.next.2 := by
  obtain ⟨counted, pending, ahead, p, rfl, rfl⟩ := h
  induction ahead generalizing counted pending p with
  | nil =>
    rw [next_within_nil]
    exact ⟨rfl, follows_within (counted ++ pending) [] [] (p.right pending.length)⟩
  | cons piece rest ih =>
    -- blanks and comments give nothing, so the call goes on to the pieces behind them
    cases kind : piece.kind with
    | blank =>
      have later := ih counted (pending ++ piece.text) p
      rw [List.length_append] at later
      simpa only [next_within_blank counted pending rest p kind, LexemeStream.ofPieces, kind,
        Position.right_right] using later
    | comment =>
      have later := ih (counted ++ pending ++ piece.text) [] p.nextLine
      simpa only [next_within_comment counted pending rest p kind, LexemeStream.ofPieces, kind,
        Position.nextLine_right, List.length_nil, Position.right_zero] using later
    | rowEnd =>
      rw [next_within_rowEnd counted pending rest p kind]
      simp only [LexemeStream.ofPieces, kind, Position.nextLine_right]
      exact ⟨rfl, follows_within (counted ++ pending ++ piece.text) [] rest p.nextLine⟩
    | _ =>
      rw [next_within_lexeme counted pending rest p (by rw [kind]; decide) (by rw [kind]; decide)
        (by rw [kind]; decide)]
      simp only [LexemeStream.ofPieces, kind, Position.right_right]
      exact ⟨rfl, follows_within (counted ++ pending ++ piece.text) [] rest _⟩

theorem Follows.calls_at_end (h : s.Follows ⟨[], finish⟩) (k : Nat) :
    s.calls k = List.replicate k (.endAt finish) := by
  induction k generalizing s with
  | zero => rfl
  | succ k ih =>
    obtain ⟨lexeme, later⟩ := h.next
    rw [calls, lexeme, ih later, List.replicate_succ]
    rfl

/-- Calls give the lexemes of the stream in turn, and behind these the end of input. -/
theorem Follows.calls (h : s.Follows t) (k : Nat) :
    s.calls (t.lexemes.length + k) = t.lexemes ++ List.replicate k (.endAt t.finish) := by
  obtain ⟨ls, finish⟩ := t
  induction ls generalizing s with
  | nil =>
    rw [List.length_nil, Nat.zero_add]
    exact h.calls_at_end k
  | cons l ls ih =>
    obtain ⟨lexeme, later⟩ := h.next
    have first : (l :: ls).length + k = ls.length + k + 1 := by
      rw [List.length_cons]
      omega
    rw [first, Scanner.calls, lexeme, ih later]
    rfl

theorem calls_ofSource (source : String) (k : Nat) :
    (ofSource source).calls ((tokenize source).length + k) =
      tokenize source ++ List.replicate k (.endAt (LexemeStream.ofSource source).finish) := by
  have given := (follows_ofSource source).calls (k + 1)
  have count : (tokenize source).length + k =
      (LexemeStream.ofSource source).lexemes.length + (k + 1) := by
    rw [tokenize, LexemeStream.toList, List.length_append, List.length_singleton]
    omega
  rw [count, given, tokenize, LexemeStream.toList, List.replicate_succ, List.append_assoc]
  rfl

end Scanner

end Knitting
