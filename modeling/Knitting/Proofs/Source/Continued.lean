import Knitting.Proofs.Source.Spaced

/-! # Text that goes on

A source that goes on with another line keeps the lexemes it has. The end of the line ends
whatever stands before it; a comment takes it in. What follows is read as a text of its own, from
the place where the lines are joined.
-/
namespace Knitting
open Text

theorem takeLine_append_of_mem {cs : List Char} (h : '\n' ∈ cs) (rest : List Char) :
    takeLine (cs ++ rest) = ((takeLine cs).1, (takeLine cs).2 ++ rest) := by
  induction cs with
  | nil => cases h
  | cons c cs ih =>
    by_cases line : c = '\n'
    · simp [takeLine, line]
    · have later : '\n' ∈ cs := by simpa [Ne.symm line] using h
      simp [takeLine, line, ih later]

theorem takeLine_append_of_not_mem {cs : List Char} (h : '\n' ∉ cs) (rest : List Char) :
    takeLine (cs ++ rest) = (cs ++ (takeLine rest).1, (takeLine rest).2) := by
  induction cs with
  | nil => rfl
  | cons c cs ih =>
    rw [List.mem_cons, not_or] at h
    simp [takeLine, Ne.symm h.1, ih h.2]

theorem mem_takeLine {cs : List Char} (h : '\n' ∈ cs) : '\n' ∈ (takeLine cs).1 := by
  induction cs with
  | nil => cases h
  | cons c cs ih =>
    by_cases line : c = '\n'
    · simp [takeLine, line]
    · have later : '\n' ∈ cs := by simpa [Ne.symm line] using h
      simp [takeLine, line, ih later]

namespace Piece

def isUnended (piece : Piece) : Bool := piece.kind = .comment ∧ '\n' ∉ piece.text

theorem first_slashes (cs : List Char) :
    first '/' ('/' :: cs) =
      (⟨.comment, '/' :: (takeLine ('/' :: cs)).1⟩, (takeLine ('/' :: cs)).2) := by
  have blank : isBlank '/' = false := by decide
  simp [first, blank, punctuation?]

/-- A text begins with a blank, with a comment, or with a piece that becomes a lexeme. -/
theorem first_blank_or_slashes (c : Char) (cs : List Char) :
    isBlank c = true ∨ (c = '/' ∧ ∃ ds, cs = '/' :: ds) ∨
      (first c cs).1.kind ≠ .blank ∧ (first c cs).1.kind ≠ .comment := by
  cases blank : isBlank c with
  | true => exact .inl rfl
  | false =>
    right
    by_cases slashes : c = '/' ∧ cs.head? = some '/'
    · exact .inl ⟨slashes.1, List.head?_eq_some_iff.1 slashes.2⟩
    · right
      simp only [first, blank, Bool.false_eq_true, if_false, if_neg slashes]
      split
      · rename_i punctuation
        exact (punctuation?_ne punctuation).2
      · split
        · simp
        · split <;> simp

end Piece

/-- The text ends inside of a comment: it holds one that does not end, which can only be its last
piece. -/
def endsInComment (cs : List Char) : Bool := (pieces cs).any Piece.isUnended

theorem endsInComment_cons {c : Char} {cs : List Char}
    (ended : (Piece.first c cs).1.isUnended = false) :
    endsInComment (c :: cs) = endsInComment (Piece.first c cs).2 := by
  rw [endsInComment, pieces, List.any_cons, ended, Bool.false_or, endsInComment]

/-- Where the text behind the end of a line stands, if what precedes it finishes at `finish`. -/
def joint (cs : List Char) (finish : Position) : Position :=
  if endsInComment cs then finish else finish.right 1

theorem isBlank_line : isBlank '\n' = true := by decide

theorem isWordChar_line : isWordChar '\n' = false := by decide +kernel

theorem lineFeed_notMem_word {word : List Char} (h : pieces word = [⟨.word, word⟩]) :
    '\n' ∉ word := by
  cases word with
  | nil => exact List.not_mem_nil
  | cons c cs =>
    rw [pieces] at h
    have first : (Piece.first c cs).1 = ⟨.word, c :: cs⟩ := (List.cons.inj h).1
    rw [List.mem_cons, not_or]
    constructor
    · rintro rfl
      simp [Piece.first, isBlank_line] at first
    · obtain begins | ⟨integer, -⟩ | ⟨noWord, -⟩ := Piece.first_cases c cs
      · rw [begins cs] at first
        have all : cs.takeWhile isWordChar = cs := (List.cons.inj (Piece.mk.inj first).2).2
        intro line
        have wordChar := List.takeWhile_eq_self_iff.1 all _ line
        rw [isWordChar_line] at wordChar
        cases wordChar
      · rw [integer] at first
        cases first
      · exact absurd (congrArg Piece.kind first) noWord

namespace LexemeStream

def append (s t : LexemeStream) : LexemeStream := ⟨s.lexemes ++ t.lexemes, t.finish⟩

theorem ofPieces_cons_append (p : Position) (piece : Piece) {ps qs : List Piece}
    (behind : Position → LexemeStream)
    (h : ∀ p, ofPieces p qs = (ofPieces p ps).append (behind (ofPieces p ps).finish)) :
    ofPieces p (piece :: qs) =
      (ofPieces p (piece :: ps)).append (behind (ofPieces p (piece :: ps)).finish) := by
  cases kind : piece.kind <;> simp only [ofPieces, kind, h] <;> rfl

/-- Behind `a` and the end of the line, `b` is read as a text of its own. -/
def GoesOn (a b : List Char) : Prop :=
  ∀ p, ofText p (a ++ '\n' :: b) = (ofText p a).append (ofText (joint a (ofText p a).finish) b)

theorem goesOn_nil (b : List Char) : GoesOn [] b := by
  intro p
  rw [List.nil_append, ofText_blank isBlank_line]
  simp [ofText, pieces, joint, endsInComment, ofPieces, append]

variable {c : Char} {cs b : List Char}

theorem goesOn_of_blank (blank : isBlank c = true) (rest : GoesOn (Piece.first c cs).2 b) :
    GoesOn (c :: cs) b := by
  intro p
  have first : Piece.first c cs = (⟨.blank, c :: cs.takeWhile isBlank⟩, cs.dropWhile isBlank) := by
    simp [Piece.first, blank]
  have comment : endsInComment (c :: cs) = endsInComment (cs.dropWhile isBlank) := by
    rw [endsInComment_cons (by simp [first, Piece.isUnended]), first]
  have run : ∀ d ∈ c :: cs.takeWhile isBlank, isBlank d = true :=
    List.forall_mem_cons.2 ⟨blank, List.all_eq_true.1 List.all_takeWhile⟩
  have split : c :: cs = (c :: cs.takeWhile isBlank) ++ cs.dropWhile isBlank := by simp
  rw [first] at rest
  rw [joint, comment, split, List.append_assoc, ofText_blanks run, ofText_blanks run, rest, joint]

/-- If the first piece stays as it is, the text behind it decides. -/
theorem goesOn_of_first
    (first : Piece.first c (cs ++ '\n' :: b) =
      ((Piece.first c cs).1, (Piece.first c cs).2 ++ '\n' :: b))
    (ended : (Piece.first c cs).1.isUnended = false) (rest : GoesOn (Piece.first c cs).2 b) :
    GoesOn (c :: cs) b := by
  intro p
  have whole : ofText p (c :: cs) =
      ofPieces p ((Piece.first c cs).1 :: pieces (Piece.first c cs).2) := by
    rw [ofText, pieces]
  rw [joint, endsInComment_cons ended, whole, List.cons_append, ofText, pieces, first]
  exact ofPieces_cons_append p (Piece.first c cs).1
    (fun finish => ofText (joint (Piece.first c cs).2 finish) b) rest

theorem goesOn_of_comment (unended : '\n' ∉ '/' :: cs) : GoesOn ('/' :: '/' :: cs) b := by
  intro p
  have first : Piece.first '/' ('/' :: cs) = (⟨.comment, '/' :: '/' :: cs⟩, []) := by
    have line := takeLine_append_of_not_mem unended []
    rw [List.append_nil] at line
    rw [Piece.first_slashes, line, takeLine, List.append_nil]
  have longer : Piece.first '/' ('/' :: cs ++ '\n' :: b) =
      (⟨.comment, '/' :: ('/' :: cs ++ ['\n'])⟩, b) := by
    rw [List.cons_append, Piece.first_slashes, ← List.cons_append,
      takeLine_append_of_not_mem unended]
    simp [takeLine]
  have comment : endsInComment ('/' :: '/' :: cs) = true := by
    rw [endsInComment, pieces, first]
    simpa [Piece.isUnended, pieces] using unended
  rw [joint, comment, if_pos rfl, List.cons_append, ofText, pieces, longer, ofText, pieces, first]
  simp [ofPieces, pieces, append, ofText]

/-- A text that goes on with another line keeps its lexemes, and those of the line follow. -/
theorem goesOn (a b : List Char) : GoesOn a b := by
  fun_induction pieces a with
  | case1 => exact goesOn_nil b
  | case2 c cs rest =>
    obtain blank | ⟨rfl, ds, rfl⟩ | lexeme := Piece.first_blank_or_slashes c cs
    · exact goesOn_of_blank blank rest
    · by_cases ended : '\n' ∈ '/' :: ds
      · apply goesOn_of_first _ _ rest
        · rw [List.cons_append, Piece.first_slashes, ← List.cons_append,
            takeLine_append_of_mem ended, Piece.first_slashes]
        · simp [Piece.first_slashes, Piece.isUnended, mem_takeLine ended]
      · exact goesOn_of_comment ended
    · apply goesOn_of_first (Piece.first_append_stop lexeme isWordChar_line b) _ rest
      simp [Piece.isUnended, lexeme.2]

theorem ofSource_append_line (a b : String) :
    ofSource (a ++ "\n" ++ b) =
      (ofSource a).append (ofText (joint a.toList (ofSource a).finish) b.toList) := by
  have joined : (a ++ "\n" ++ b).toList = a.toList ++ '\n' :: b.toList := by simp
  have whole := goesOn a.toList b.toList .start
  rwa [← joined] at whole

end LexemeStream

end Knitting
