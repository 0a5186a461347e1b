import Knitting.Proofs.Source.Literals

/-! # Parts with blanks between them

A blank ends whatever stands before it, comments apart. So the lexemes of parts that are set side
by side with blanks between them are those of the parts, one after another, but for their
positions.
-/
namespace Knitting
open Text

def Lexeme.bare (l : Lexeme) : Token × String := (l.token, l.literal)

/-- What the lexeme of a piece is, if the piece has one. -/
def Piece.bare? (piece : Piece) : Option (Token × String) :=
  match piece.kind with
  | .blank | .comment => none
  | .rowEnd => some (.rowEnd, ";")
  | _ => some (Lexeme.ofPiece .start piece).bare

def bareLexemes (cs : List Char) : List (Token × String) := (pieces cs).filterMap Piece.bare?

namespace LexemeStream

def ofText (p : Position) (cs : List Char) : LexemeStream := ofPieces p (pieces cs)

theorem bare_ofPieces (p : Position) (ps : List Piece) :
    (ofPieces p ps).lexemes.map Lexeme.bare = ps.filterMap Piece.bare? := by
  induction ps generalizing p with
  | nil => rfl
  | cons piece ps ih =>
    obtain ⟨kind, text⟩ := piece
    cases kind <;>
      simp [ofPieces, cons, ih, List.filterMap_cons, Piece.bare?, Lexeme.bare, Lexeme.ofPiece]

theorem bare_ofText (p : Position) (cs : List Char) :
    (ofText p cs).lexemes.map Lexeme.bare = bareLexemes cs :=
  bare_ofPieces p (pieces cs)

theorem bare_ofSource (source : String) :
    (ofSource source).lexemes.map Lexeme.bare = bareLexemes source.toList :=
  bare_ofText .start source.toList

theorem wellSpelled_ofText (p : Position) (cs : List Char) :
    ∀ l ∈ (ofText p cs).lexemes, l.WellSpelled :=
  wellSpelled_ofPieces (fun _ => Piece.wellFormed_of_mem_pieces) p

/-- A blank before a text moves it one place on. -/
theorem ofText_blank {c : Char} (blank : isBlank c = true) (p : Position) (cs : List Char) :
    ofText p (c :: cs) = ofText (p.right 1) cs := by
  have run : ofText p (c :: cs) =
      ofText (p.right ((cs.takeWhile isBlank).length + 1)) (cs.dropWhile isBlank) := by
    simp [ofText, pieces, Piece.first, blank, ofPieces]
  rw [run]
  cases cs with
  | nil => rfl
  | cons d cs =>
    by_cases more : isBlank d = true
    · simp [ofText, pieces, Piece.first, more, ofPieces, Nat.add_comm 1]
    · simp [more]

theorem ofText_blanks {bs : List Char} (blank : ∀ c ∈ bs, isBlank c = true) (p : Position)
    (cs : List Char) : ofText p (bs ++ cs) = ofText (p.right bs.length) cs := by
  induction bs generalizing p with
  | nil => rfl
  | cons b bs ih =>
    have later := ih fun c hc => blank c (List.mem_cons_of_mem b hc)
    rw [List.cons_append, ofText_blank (blank b List.mem_cons_self), later, Position.right_right,
      Nat.add_comm, List.length_cons]

end LexemeStream

theorem pieces_punctuation {c : Char} {kind : PieceKind} (blank : isBlank c = false)
    (h : punctuation? c = some kind) (cs : List Char) :
    pieces (c :: cs) = ⟨kind, [c]⟩ :: pieces cs := by
  rw [pieces, Piece.first]
  simp [blank, h]

theorem isBlank_of_isDigit {d : Char} (h : d.isDigit = true) : isBlank d = false := by
  simp only [Char.isDigit, ge_iff_le, Bool.and_eq_true, decide_eq_true_eq,
    UInt32.le_iff_toNat_le] at h
  have low : 48 ≤ d.toNat := h.1
  have high : d.toNat ≤ 57 := h.2
  rw [Bool.eq_false_iff, ne_eq, isBlank, inRanges_iff]
  rintro ⟨r, hr, above, below⟩
  have apart : ∀ r ∈ blankRanges, r.2 < 48 ∨ 57 < r.1 := by decide
  rcases apart r hr with before | behind <;> omega

theorem punctuation?_of_isDigit {d : Char} (h : d.isDigit = true) : punctuation? d = none := by
  unfold punctuation?
  split <;> first | rfl | cases h

theorem pieces_digits {ds : List Char} (h : IsDigitRun ds) : pieces ds = [⟨.integer, ds⟩] := by
  obtain ⟨nonempty, digits⟩ := h
  cases ds with
  | nil => exact absurd rfl nonempty
  | cons d ds =>
    have all := List.all_eq_true.1 digits
    have digit := all d List.mem_cons_self
    have more : ∀ c ∈ ds, c.isDigit = true := fun c hc => all c (List.mem_cons_of_mem d hc)
    have slash : d ≠ '/' := by
      rintro rfl
      cases digit
    rw [pieces, Piece.first]
    simp [isBlank_of_isDigit digit, punctuation?_of_isDigit digit, slash, digit,
      List.takeWhile_eq_self_iff.2 more, List.dropWhile_eq_nil_iff.2 more, pieces]

def Plain (cs : List Char) : Prop := ∀ p ∈ pieces cs, p.kind ≠ .blank ∧ p.kind ≠ .comment

theorem plain_word {word : List Char} (h : pieces word = [⟨.word, word⟩]) : Plain word := by
  simp [Plain, h]

theorem plain_digits {ds : List Char} (h : IsDigitRun ds) : Plain ds := by
  simp [Plain, pieces_digits h]

theorem plain_nil : Plain [] := by simp [Plain, pieces]

theorem plain_punctuation {c : Char} {kind : PieceKind} (blank : isBlank c = false)
    (h : punctuation? c = some kind) {cs : List Char} (plain : Plain cs) : Plain (c :: cs) := by
  rw [Plain, pieces_punctuation blank h, List.forall_mem_cons]
  exact ⟨(Piece.punctuation?_ne h).2, plain⟩

section Stop

variable {p : Char → Bool} {d : Char} (stop : p d = false) (cs rest : List Char)
include stop

theorem takeWhile_append_stop : (cs ++ d :: rest).takeWhile p = cs.takeWhile p := by
  induction cs with
  | nil => simp [stop]
  | cons c cs ih => cases h : p c <;> simp [h, ih]

theorem dropWhile_append_stop : (cs ++ d :: rest).dropWhile p = cs.dropWhile p ++ d :: rest := by
  induction cs with
  | nil => simp [stop]
  | cons c cs ih => cases h : p c <;> simp [h, ih]

end Stop

theorem isWordChar_blank : isWordChar ' ' = false := by decide +kernel

/-- Behind a text that is neither blank nor a comment, a character that goes on with no word does
not change its first piece. -/
theorem Piece.first_append_stop {c : Char} {cs : List Char}
    (h : (first c cs).1.kind ≠ .blank ∧ (first c cs).1.kind ≠ .comment) {d : Char}
    (stop : isWordChar d = false) (rest : List Char) :
    first c (cs ++ d :: rest) = ((first c cs).1, (first c cs).2 ++ d :: rest) := by
  have noDigit : d.isDigit = false := by
    by_contra digit
    simp [isWordChar, isDecimalDigit_of_isDigit (Bool.of_not_eq_false digit)] at stop
  have noSlash : d ≠ '/' := by
    rintro rfl
    simp [isWordChar] at stop
  have head : (cs ++ d :: rest).head? = some '/' ↔ cs.head? = some '/' := by
    cases cs <;> simp [noSlash]
  cases blank : isBlank c with
  | true => simp [first, blank] at h
  | false =>
    cases punctuation : punctuation? c with
    | some kind => simp [first, blank, punctuation]
    | none =>
      by_cases slashes : c = '/' ∧ cs.head? = some '/'
      · simp only [first, blank, punctuation, if_pos slashes] at h
        simp at h
      · simp only [first, blank, punctuation, head, if_neg slashes,
          takeWhile_append_stop noDigit, dropWhile_append_stop noDigit,
          takeWhile_append_stop stop, dropWhile_append_stop stop]
        cases c.isDigit <;> cases isLetter c <;> rfl

theorem pieces_append_blank {cs : List Char} (h : Plain cs) (rest : List Char) :
    pieces (cs ++ ' ' :: rest) = pieces cs ++ pieces (' ' :: rest) := by
  fun_induction pieces cs with
  | case1 => rfl
  | case2 c cs ih =>
    have here := h (Piece.first c cs).1 (by rw [pieces]; exact List.mem_cons_self)
    have later : Plain (Piece.first c cs).2 := fun p hp =>
      h p (by rw [pieces]; exact List.mem_cons_of_mem _ hp)
    rw [List.cons_append, pieces, Piece.first_append_stop here isWordChar_blank,
      List.cons_append, ih later]

theorem bareLexemes_blank (rest : List Char) : bareLexemes (' ' :: rest) = bareLexemes rest := by
  rw [← LexemeStream.bare_ofText .start, LexemeStream.ofText_blank (by decide),
    LexemeStream.bare_ofText]

theorem bareLexemes_append_blank {cs : List Char} (h : Plain cs) (rest : List Char) :
    bareLexemes (cs ++ ' ' :: rest) = bareLexemes cs ++ bareLexemes rest := by
  rw [← bareLexemes_blank rest, bareLexemes, pieces_append_blank h, List.filterMap_append]
  rfl

/-- The lexemes of parts with blanks between them are those of the parts. -/
theorem bareLexemes_intercalate {parts : List (List Char)} (plain : ∀ p ∈ parts, Plain p) :
    bareLexemes ([' '].intercalate parts) = parts.flatMap bareLexemes := by
  induction parts with
  | nil => simp [bareLexemes, pieces]
  | cons part parts ih =>
    have later := ih fun p hp => plain p (List.mem_cons_of_mem part hp)
    cases parts with
    | nil => simp
    | cons next parts =>
      have split : [' '].intercalate (part :: next :: parts) =
          part ++ ' ' :: [' '].intercalate (next :: parts) := by
        rw [List.intercalate_cons_cons, List.append_assoc, List.singleton_append]
      rw [split, bareLexemes_append_blank (plain part List.mem_cons_self), later]
      simp only [List.flatMap_cons]

end Knitting
