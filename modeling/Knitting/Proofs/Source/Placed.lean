import Knitting.Proofs.Source.Continued
import Knitting.Proofs.Source.Scanned
import Mathlib.Data.List.Induction

/-! # Exact positions

The position of a character can be told from the source at once, without going over it: the line by
how many rows and comments have ended before the character, and the column by how many characters
stand between it and the last of these ends. So every lexeme has a position of its own, further on
than those before it.
-/
namespace Knitting

namespace Piece

def lexeme? (p : Position) (piece : Piece) : Option Lexeme :=
  match piece.kind with
  | .blank | .comment => none
  | .rowEnd => some ⟨p, .rowEnd, ";"⟩
  | _ => some (.ofPiece p piece)

/-- The next line begins behind the end of a row and behind a comment. -/
def endsLine (piece : Piece) : Bool := piece.kind = .rowEnd ∨ piece.kind = .comment

/-- The position behind a piece that begins at `p`. -/
def positionBehind (p : Position) (piece : Piece) : Position :=
  if piece.endsLine then p.nextLine else p.right piece.text.length

theorem position_of_lexeme? {p : Position} {piece : Piece} {l : Lexeme}
    (h : piece.lexeme? p = some l) : l.position = p := by
  obtain ⟨kind, text⟩ := piece
  cases kind <;> cases h <;> rfl

theorem text_ne_nil_of_mem_pieces {cs : List Char} {piece : Piece} (h : piece ∈ pieces cs) :
    piece.text ≠ [] := by
  fun_induction pieces cs with
  | case1 => cases h
  | case2 c cs ih =>
    rcases List.mem_cons.1 h with rfl | h
    · exact first_text_ne_nil c cs
    · exact ih h

end Piece

namespace LexemeStream

theorem ofPieces_cons (p : Position) (piece : Piece) (ps : List Piece) :
    ofPieces p (piece :: ps) =
      ⟨(piece.lexeme? p).toList ++ (ofPieces (piece.positionBehind p) ps).lexemes,
        (ofPieces (piece.positionBehind p) ps).finish⟩ := by
  cases kind : piece.kind <;>
    simp only [ofPieces, Piece.lexeme?, Piece.positionBehind, Piece.endsLine, kind] <;> rfl

theorem ofPieces_append (p : Position) (ps qs : List Piece) :
    ofPieces p (ps ++ qs) = (ofPieces p ps).append (ofPieces (ofPieces p ps).finish qs) := by
  induction ps generalizing p with
  | nil => rfl
  | cons piece ps ih => exact ofPieces_cons_append p piece (fun p => ofPieces p qs) ih

theorem finish_concat (p : Position) (ps : List Piece) (piece : Piece) :
    (ofPieces p (ps ++ [piece])).finish = piece.positionBehind (ofPieces p ps).finish := by
  rw [ofPieces_append, ofPieces_cons]
  rfl

end LexemeStream

/-- A piece of a source, and the index of its first character. -/
structure PlacedPiece where
  index : Nat
  piece : Piece
  deriving DecidableEq, Repr

namespace PlacedPiece

def stop (x : PlacedPiece) : Nat := x.index + x.piece.text.length

end PlacedPiece

def placedFrom : Nat → List Piece → List PlacedPiece
  | _, [] => []
  | i, piece :: ps => ⟨i, piece⟩ :: placedFrom (i + piece.text.length) ps

def lineEnds (xs : List PlacedPiece) : List Nat :=
  (xs.filter fun x => x.piece.endsLine).map PlacedPiece.stop

/-- The position of the character at index `i`. The line counts the ends of lines up to there, and
the column begins behind the last of them. -/
def positionAt (cs : List Char) (i : Nat) : Position :=
  let ends := (lineEnds (placedFrom 0 (pieces cs))).filter (· ≤ i)
  ⟨1 + ends.length, 1 + i - ends.getLastD 0⟩

/-- The lexeme of a piece where it stands in a source, if the piece has one. -/
def PlacedPiece.lexeme? (cs : List Char) (x : PlacedPiece) : Option Lexeme :=
  x.piece.lexeme? (positionAt cs x.index)

theorem placedFrom_append (i : Nat) (ps qs : List Piece) :
    placedFrom i (ps ++ qs) =
      placedFrom i ps ++ placedFrom (i + (ps.flatMap Piece.text).length) qs := by
  induction ps generalizing i with
  | nil => rfl
  | cons piece ps ih =>
    rw [List.cons_append, placedFrom, ih, placedFrom, List.flatMap_cons, List.length_append,
      Nat.add_assoc]
    rfl

theorem lineEnds_append (xs ys : List PlacedPiece) :
    lineEnds (xs ++ ys) = lineEnds xs ++ lineEnds ys := by
  rw [lineEnds, List.filter_append, List.map_append]
  rfl

theorem text_prefix_drop_index (before : List Char) {ps : List Piece} {x : PlacedPiece}
    (h : x ∈ placedFrom before.length ps) :
    x.piece.text <+: (before ++ ps.flatMap Piece.text).drop x.index := by
  induction ps generalizing before with
  | nil => cases h
  | cons piece ps ih =>
    rw [List.flatMap_cons]
    rcases List.mem_cons.1 h with rfl | h
    · rw [List.drop_left]
      exact List.prefix_append piece.text _
    · rw [← List.length_append] at h
      rw [← List.append_assoc]
      exact ih (before ++ piece.text) h

theorem map_piece_placedFrom (i : Nat) (ps : List Piece) :
    (placedFrom i ps).map PlacedPiece.piece = ps := by
  induction ps generalizing i with
  | nil => rfl
  | cons piece ps ih => rw [placedFrom, List.map_cons, ih]

theorem placed_bounds {i : Nat} {ps : List Piece} {x : PlacedPiece} (h : x ∈ placedFrom i ps) :
    i ≤ x.index ∧ x.stop ≤ i + (ps.flatMap Piece.text).length := by
  induction ps generalizing i with
  | nil => cases h
  | cons piece ps ih =>
    rw [List.flatMap_cons, List.length_append]
    rcases List.mem_cons.1 h with rfl | later
    · rw [PlacedPiece.stop]
      dsimp only
      omega
    · have bounds := ih later
      omega

theorem index_lt_stop {i : Nat} {ps : List Piece} (texts : ∀ p ∈ ps, p.text ≠ [])
    {x : PlacedPiece} (h : x ∈ placedFrom i ps) : x.index < x.stop := by
  have piece := List.mem_map_of_mem (f := PlacedPiece.piece) h
  rw [map_piece_placedFrom] at piece
  exact Nat.lt_add_of_pos_right (List.length_pos_iff.2 (texts x.piece piece))

/-- A piece ends behind the index that the first begins at, and within the text of all. -/
theorem stop_bounds {i : Nat} {ps : List Piece} (texts : ∀ p ∈ ps, p.text ≠ []) {x : PlacedPiece}
    (h : x ∈ placedFrom i ps) : i < x.stop ∧ x.stop ≤ i + (ps.flatMap Piece.text).length := by
  have bounds := placed_bounds h
  have long := index_lt_stop texts h
  omega

theorem bounds_of_mem_lineEnds {i e : Nat} {ps : List Piece} (texts : ∀ p ∈ ps, p.text ≠ [])
    (h : e ∈ lineEnds (placedFrom i ps)) : i < e ∧ e ≤ i + (ps.flatMap Piece.text).length := by
  obtain ⟨x, ends, rfl⟩ := List.mem_map.1 h
  exact stop_bounds texts (List.mem_filter.1 ends).1

theorem lastEnd_le {ps : List Piece} (texts : ∀ p ∈ ps, p.text ≠ []) :
    (lineEnds (placedFrom 0 ps)).getLastD 0 ≤ (ps.flatMap Piece.text).length := by
  rw [List.getLastD_eq_getLast?]
  cases last : (lineEnds (placedFrom 0 ps)).getLast? with
  | none => exact Nat.zero_le _
  | some e =>
    have bounds := bounds_of_mem_lineEnds texts (List.mem_of_getLast? last)
    rw [Option.getD_some]
    omega

theorem finish_eq_of_texts {ps : List Piece} (texts : ∀ p ∈ ps, p.text ≠ []) :
    (LexemeStream.ofPieces .start ps).finish =
      ⟨1 + (lineEnds (placedFrom 0 ps)).length,
        1 + (ps.flatMap Piece.text).length - (lineEnds (placedFrom 0 ps)).getLastD 0⟩ := by
  induction ps using List.reverseRecOn with
  | nil => rfl
  | append_singleton ps piece ih =>
    have earlier : ∀ p ∈ ps, p.text ≠ [] := fun p hp => texts p (List.mem_append_left [piece] hp)
    have last := lastEnd_le earlier
    rw [LexemeStream.finish_concat, ih earlier, placedFrom_append, lineEnds_append,
      List.flatMap_append, List.flatMap_singleton, Piece.positionBehind]
    by_cases ends : piece.endsLine = true
    · have one : lineEnds (placedFrom (0 + (ps.flatMap Piece.text).length) [piece]) =
          [(ps.flatMap Piece.text).length + piece.text.length] := by
        simp [lineEnds, placedFrom, PlacedPiece.stop, ends]
      rw [if_pos ends, one, List.length_append, List.length_append, List.getLastD_concat,
        Nat.add_sub_cancel]
      rfl
    · have none : lineEnds (placedFrom (0 + (ps.flatMap Piece.text).length) [piece]) = [] := by
        simp [lineEnds, placedFrom, ends]
      have column : 1 + (ps.flatMap Piece.text).length -
          (lineEnds (placedFrom 0 ps)).getLastD 0 + piece.text.length =
            1 + ((ps.flatMap Piece.text).length + piece.text.length) -
              (lineEnds (placedFrom 0 ps)).getLastD 0 := by omega
      rw [if_neg ends, none, List.append_nil, List.length_append, Position.right, column]

/-- The position behind the first pieces of a source is that of the character there. -/
theorem finish_eq_positionAt {cs : List Char} (done rest : List Piece)
    (split : pieces cs = done ++ rest) :
    (LexemeStream.ofPieces .start done).finish =
      positionAt cs (done.flatMap Piece.text).length := by
  have texts : ∀ p ∈ done ++ rest, p.text ≠ [] := by
    rw [← split]
    exact fun p => Piece.text_ne_nil_of_mem_pieces
  rw [List.forall_mem_append] at texts
  have behind : (lineEnds (placedFrom 0 (pieces cs))).filter
      (· ≤ (done.flatMap Piece.text).length) = lineEnds (placedFrom 0 done) := by
    rw [split, placedFrom_append, lineEnds_append, List.filter_append]
    have first : ∀ e ∈ lineEnds (placedFrom 0 done),
        decide (e ≤ (done.flatMap Piece.text).length) = true := by
      intro e he
      have bounds := bounds_of_mem_lineEnds texts.1 he
      rw [decide_eq_true_iff]
      omega
    have later : ∀ e ∈ lineEnds (placedFrom (0 + (done.flatMap Piece.text).length) rest),
        ¬decide (e ≤ (done.flatMap Piece.text).length) = true := by
      intro e he
      have bounds := bounds_of_mem_lineEnds texts.2 he
      rw [decide_eq_true_iff]
      omega
    rw [List.filter_eq_self.2 first, List.filter_eq_nil_iff.2 later, List.append_nil]
  rw [finish_eq_of_texts texts.1, positionAt, behind]

/-- The lexemes of the pieces that are left are those of the pieces where they stand. -/
theorem ofPieces_eq_placed {cs : List Char} (done rest : List Piece)
    (split : pieces cs = done ++ rest) :
    LexemeStream.ofPieces (LexemeStream.ofPieces .start done).finish rest =
      ⟨(placedFrom (done.flatMap Piece.text).length rest).filterMap (PlacedPiece.lexeme? cs),
        positionAt cs cs.length⟩ := by
  induction rest generalizing done with
  | nil =>
    rw [List.append_nil] at split
    have whole := finish_eq_positionAt done [] (split.trans done.append_nil.symm)
    rw [← split, flatMap_text_pieces, split] at whole
    rw [whole]
    rfl
  | cons piece rest ih =>
    have here := finish_eq_positionAt done (piece :: rest) split
    have onward := ih (done ++ [piece]) (by rw [split, List.append_assoc]; rfl)
    rw [LexemeStream.finish_concat, here, List.flatMap_append, List.flatMap_singleton,
      List.length_append] at onward
    rw [here, LexemeStream.ofPieces_cons, onward, placedFrom, List.filterMap_cons,
      PlacedPiece.lexeme?]
    cases piece.lexeme? (positionAt cs (done.flatMap Piece.text).length) <;> rfl

namespace Position

/-- The position is in a line above the other, or before it in the same line. -/
def Before (p q : Position) : Prop := p.line < q.line ∨ p.line = q.line ∧ p.column < q.column

theorem Before.trans {p q r : Position} (h : p.Before q) (h' : q.Before r) : p.Before r := by
  unfold Before at *
  omega

theorem before_right (p : Position) {n : Nat} (moves : 0 < n) : p.Before (p.right n) :=
  .inr ⟨rfl, Nat.lt_add_of_pos_right moves⟩

theorem before_nextLine (p : Position) : p.Before p.nextLine := .inl (Nat.lt_succ_self p.line)

end Position

theorem Piece.before_positionBehind (p : Position) {piece : Piece} (text : piece.text ≠ []) :
    p.Before (piece.positionBehind p) := by
  unfold positionBehind
  split
  · exact p.before_nextLine
  · exact p.before_right (List.length_pos_iff.2 text)

/-- From a position on, the lexemes of pieces stand further and further on. -/
theorem rising_ofPieces {ps : List Piece} (texts : ∀ p ∈ ps, p.text ≠ []) (p : Position) :
    (∀ q ∈ (LexemeStream.ofPieces p ps).toList.map Lexeme.position, p = q ∨ p.Before q) ∧
      ((LexemeStream.ofPieces p ps).toList.map Lexeme.position).Pairwise Position.Before := by
  induction ps generalizing p with
  | nil => simp [LexemeStream.ofPieces, LexemeStream.toList, Lexeme.endAt]
  | cons piece ps ih =>
    rw [List.forall_mem_cons] at texts
    have moved := piece.before_positionBehind p texts.1
    obtain ⟨above, rising⟩ := ih texts.2 (piece.positionBehind p)
    have beyond : ∀ q ∈ (LexemeStream.ofPieces (piece.positionBehind p) ps).toList.map
        Lexeme.position, p.Before q := by
      intro q hq
      rcases above q hq with rfl | later
      · exact moved
      · exact moved.trans later
    rw [LexemeStream.toList, LexemeStream.ofPieces_cons]
    cases found : piece.lexeme? p with
    | none => exact ⟨fun q hq => .inr (beyond q hq), rising⟩
    | some l =>
      have first := Piece.position_of_lexeme? found
      rw [Option.toList_some, List.append_assoc, List.singleton_append, List.map_cons,
        List.forall_mem_cons, List.pairwise_cons, first]
      exact ⟨⟨.inl rfl, fun q hq => .inr (beyond q hq)⟩, beyond, rising⟩

/-- Positions are exact. A lexeme whose text begins at index `i` of the source, and the end of input
behind its last character, are in the line that the rows and comments ended up to there come to, and
in the column that the characters behind the last of these ends come to. So positions rise from
lexeme to lexeme. A scanner that counts them byte by byte gives just these lexemes, and the same end
of input again whenever it is called behind it. -/
theorem positions_are_exact (source : String) :
    tokenize source =
      (placedFrom 0 (pieces source.toList)).filterMap (PlacedPiece.lexeme? source.toList) ++
        [.endAt (positionAt source.toList source.length)] ∧
    (∀ x ∈ placedFrom 0 (pieces source.toList),
      x.piece.text <+: source.toList.drop x.index) ∧
    ((tokenize source).map Lexeme.position).Pairwise Position.Before ∧
    ∀ k, (Scanner.ofSource source).calls ((tokenize source).length + k) =
      tokenize source ++
        List.replicate k (.endAt (positionAt source.toList source.length)) := by
  have placed : LexemeStream.ofSource source =
      ⟨(placedFrom 0 (pieces source.toList)).filterMap (PlacedPiece.lexeme? source.toList),
        positionAt source.toList source.length⟩ := by
    rw [← String.length_toList]
    exact ofPieces_eq_placed [] (pieces source.toList) rfl
  refine ⟨?_, ?_, ?_, ?_⟩
  · rw [tokenize, placed]
    rfl
  · intro x hx
    have text := text_prefix_drop_index [] hx
    rwa [List.nil_append, flatMap_text_pieces] at text
  · exact (rising_ofPieces (fun p => Piece.text_ne_nil_of_mem_pieces) .start).2
  · intro k
    rw [Scanner.calls_ofSource, placed]

/-- A row and a comment have ended before the last word, which is the second in its line. -/
example : positionAt "k;// \nñ p".toList 8 = ⟨3, 3⟩ := by decide +kernel

end Knitting
