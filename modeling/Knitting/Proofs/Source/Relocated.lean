import Knitting.Proofs.Source.Continued

/-! # Text in another place

Where a text stands decides nothing about its lexemes but their positions. A text that begins at
another place has the lexemes that it has by itself, moved along with it: its first line goes on
behind that place, and the lines after it follow below.
-/
namespace Knitting

namespace Position

/-- Lines and columns are counted from one. -/
structure Counted (p : Position) : Prop where
  line : 1 ≤ p.line
  column : 1 ≤ p.column

theorem counted_start : start.Counted := ⟨le_refl 1, le_refl 1⟩

theorem Counted.right {p : Position} (h : p.Counted) (n : Nat) : (p.right n).Counted :=
  ⟨h.line, Nat.le_add_right_of_le h.column⟩

theorem Counted.nextLine {p : Position} : p.nextLine.Counted :=
  ⟨Nat.le_add_left 1 p.line, le_refl 1⟩

/-- Where the place `q` of a text is if the text begins at `p`. -/
def shift (p q : Position) : Position :=
  if q.line = 1 then ⟨p.line, p.column + (q.column - 1)⟩ else ⟨p.line + (q.line - 1), q.column⟩

theorem shift_start (p : Position) : p.shift start = p := by simp [shift, start]

theorem right_shift (p : Position) {q : Position} (counted : q.Counted) (n : Nat) :
    (p.shift q).right n = p.shift (q.right n) := by
  have column := counted.column
  by_cases first : q.line = 1
  · have moved : p.column + (q.column - 1) + n = p.column + (q.column + n - 1) := by omega
    simp [shift, Position.right, first, moved]
  · simp [shift, Position.right, first]

theorem nextLine_shift (p : Position) {q : Position} (counted : q.Counted) :
    (p.shift q).nextLine = p.shift q.nextLine := by
  have line := counted.line
  have later : q.line + 1 ≠ 1 := by omega
  by_cases first : q.line = 1
  · simp [shift, Position.nextLine, first]
  · have moved : p.line + (q.line - 1) + 1 = p.line + q.line := by omega
    have below : q.line ≠ 0 := by omega
    simp [shift, Position.nextLine, first, below, moved]

end Position

section Relocate

variable (φ : Position → Position)

def Lexeme.relocate (l : Lexeme) : Lexeme := { l with position := φ l.position }

@[simp] theorem Lexeme.token_relocate (l : Lexeme) : (l.relocate φ).token = l.token := rfl

@[simp] theorem Lexeme.literal_relocate (l : Lexeme) : (l.relocate φ).literal = l.literal := rfl

@[simp] theorem Lexeme.position_relocate (l : Lexeme) :
    (l.relocate φ).position = φ l.position := rfl

def LexemeStream.relocate (s : LexemeStream) : LexemeStream :=
  ⟨s.lexemes.map (Lexeme.relocate φ), φ s.finish⟩

end Relocate

theorem Lexeme.ofPiece_relocate (φ : Position → Position) (p : Position) (piece : Piece) :
    (ofPiece p piece).relocate φ = ofPiece (φ p) piece := by
  obtain ⟨kind, text⟩ := piece
  cases kind <;> rfl

/-- Lexemes that agree but for their places are the same lexemes once these are forgotten. -/
theorem Lexeme.relocate_start_of_bare {ls ms : List Lexeme}
    (same : ls.map bare = ms.map bare) :
    ls.map (relocate fun _ => .start) = ms.map (relocate fun _ => .start) := by
  let placed : Token × String → Lexeme := fun b => ⟨.start, b.1, b.2⟩
  have forgets : (relocate fun _ => .start) = placed ∘ bare := rfl
  rw [forgets, ← List.map_map, same, List.map_map]

namespace LexemeStream

theorem ofPieces_shift (p : Position) {q : Position} (counted : q.Counted) (ps : List Piece) :
    ofPieces (p.shift q) ps = (ofPieces q ps).relocate p.shift := by
  induction ps generalizing q with
  | nil => rfl
  | cons piece ps ih =>
    have onward := ih (counted.right piece.text.length)
    have below := ih (q := q.nextLine) Position.Counted.nextLine
    rw [← p.right_shift counted] at onward
    rw [← p.nextLine_shift counted] at below
    have lexeme := Lexeme.ofPiece_relocate p.shift q piece
    unfold ofPieces
    split
    · exact onward
    · exact below
    · rw [below]
      rfl
    · rw [onward, ← lexeme]
      rfl

/-- A text that begins at `p` has the lexemes that it has as a source, shifted to that place. -/
theorem ofText_shift (p : Position) (source : String) :
    ofText p source.toList = (ofSource source).relocate p.shift := by
  have whole := ofPieces_shift p Position.counted_start (pieces source.toList)
  rwa [Position.shift_start] at whole

end LexemeStream

def jointOf (source : String) : Position :=
  joint source.toList (LexemeStream.ofSource source).finish

/-- The lexemes of a source, then those of the text behind it, shifted to where that stands. -/
theorem LexemeStream.ofSource_append_line_shift (a b : String) :
    ofSource (a ++ "\n" ++ b) = (ofSource a).append ((ofSource b).relocate (jointOf a).shift) := by
  rw [ofSource_append_line, ofText_shift, jointOf]

theorem LexemeStream.wellSpelled_relocate (φ : Position → Position) (source : String) :
    ∀ l ∈ (ofSource source).lexemes.map (Lexeme.relocate φ), l.WellSpelled :=
  List.forall_mem_map.2 (wellSpelled_ofSource source)

/-- A comment that no end of a line ends takes in the rest of the text. -/
theorem Piece.rest_of_isUnended {c : Char} {cs : List Char}
    (unended : (first c cs).1.isUnended = true) : (first c cs).2 = [] := by
  obtain blank | ⟨rfl, ds, rfl⟩ | lexeme := first_blank_or_slashes c cs
  · simp [isUnended, first, blank] at unended
  · rw [first_slashes] at unended ⊢
    have noLine : '\n' ∉ '/' :: ds := by
      intro line
      simp [isUnended, mem_takeLine line] at unended
    have line := takeLine_append_of_not_mem noLine []
    rw [List.append_nil] at line
    rw [line, takeLine]
  · simp [isUnended, lexeme.2] at unended

theorem endsInComment_iff (cs : List Char) :
    endsInComment cs = true ↔
      ∃ text, (pieces cs).getLast? = some ⟨.comment, text⟩ ∧ '\n' ∉ text := by
  fun_induction pieces cs with
  | case1 => simp [endsInComment, pieces]
  | case2 c cs ih =>
    cases unended : (Piece.first c cs).1.isUnended with
    | true =>
      have whole : endsInComment (c :: cs) = true := by
        rw [endsInComment, pieces, List.any_cons, unended, Bool.true_or]
      rw [Piece.rest_of_isUnended unended, pieces, List.getLast?_singleton]
      have comment : (Piece.first c cs).1.kind = .comment ∧ '\n' ∉ (Piece.first c cs).1.text := by
        simpa [Piece.isUnended] using unended
      have same : (Piece.first c cs).1 = ⟨.comment, (Piece.first c cs).1.text⟩ := by
        rw [← comment.1]
      exact iff_of_true whole ⟨_, congrArg some same, comment.2⟩
    | false =>
      rw [endsInComment_cons unended, ih]
      cases later : pieces (Piece.first c cs).2 with
      | cons piece ps => rw [List.getLast?_cons_cons]
      | nil =>
        have ended : ∀ text, (Piece.first c cs).1 = ⟨.comment, text⟩ → '\n' ∈ text := by
          intro text same
          simpa [Piece.isUnended, same] using unended
        simpa using ended

/-- The lexemes of two sources with the end of a line between them are those of the first, without
the end of input, and all of the second, shifted to where its text stands. If the first ends inside
of a comment, that is where the first finishes, since the comment takes in the end of the line;
otherwise it is one place further on. -/
theorem tokenize_append_line (a b : String) :
    ∃ before finish, tokenize a = before ++ [.endAt finish] ∧
      tokenize (a ++ "\n" ++ b) =
        before ++ (tokenize b).map (Lexeme.relocate (joint a.toList finish).shift) ∧
      (endsInComment a.toList = true ↔
        ∃ text, (pieces a.toList).getLast? = some ⟨.comment, text⟩ ∧ '\n' ∉ text) := by
  refine ⟨_, _, rfl, ?_, endsInComment_iff a.toList⟩
  rw [tokenize, LexemeStream.ofSource_append_line_shift, tokenize, LexemeStream.toList,
    LexemeStream.toList, List.map_append, ← List.append_assoc]
  rfl

/-- The text behind a row goes on in the second line, and the end of a line moves it on by one. -/
example : joint "k;".toList ⟨2, 1⟩ = ⟨2, 2⟩ ∧ joint "k // k".toList ⟨2, 1⟩ = ⟨2, 1⟩ ∧
    Position.shift ⟨2, 2⟩ ⟨1, 3⟩ = ⟨2, 4⟩ ∧ Position.shift ⟨2, 2⟩ ⟨3, 3⟩ = ⟨4, 3⟩ := by
  decide +kernel

end Knitting
