import Knitting.Proofs.Pattern.Language
import Knitting.Proofs.Source.Placed

/-! # Rows and lines

A line ends behind a row and behind a comment. The ends of rows that are counted are just those of
the rows of the pattern, as nothing else in a pattern is closed by one.
-/
namespace Knitting

def Item.rows : Item → List Row
  | .row r => [r]
  | .block b => b.rows

def Section.rows (s : Section) : List Row := s.content.flatMap Item.rows

def ItemTree.rows : ItemTree → List RowTree
  | .row t => [t]
  | .block t => t.rows

def SectionTree.rows (t : SectionTree) : List RowTree := t.content.flatMap ItemTree.rows

def Derivation.rows {ls : List Lexeme} (d : Derivation ls) : List RowTree :=
  d.sections.flatMap SectionTree.rows

theorem ItemTree.map_meaning_rows (t : ItemTree) : t.rows.map RowTree.meaning = t.meaning.rows := by
  cases t <;> rfl

theorem SectionTree.map_meaning_rows (t : SectionTree) :
    t.rows.map RowTree.meaning = t.meaning.rows := by
  simp only [rows, meaning, Section.rows, List.map_flatMap, List.flatMap_map,
    ItemTree.map_meaning_rows]

theorem Derivation.map_meaning_rows {ls : List Lexeme} (d : Derivation ls) :
    d.rows.map RowTree.meaning = d.pattern.flatMap Section.rows := by
  simp only [rows, pattern, List.map_flatMap, List.flatMap_map, SectionTree.map_meaning_rows]

def Lexeme.endsRow (l : Lexeme) : Bool := l.token = .rowEnd

/-- The rows stand among the lexemes one after the other, and no other lexeme ends a row. -/
inductive RowsAmong : List Lexeme → List RowTree → Prop where
  | nil : RowsAmong [] []
  | other {l : Lexeme} {ls : List Lexeme} {ts : List RowTree} (inside : l.endsRow = false)
    (rest : RowsAmong ls ts) : RowsAmong (l :: ls) ts
  | row {ls : List Lexeme} {ts : List RowTree} (t : RowTree) (rest : RowsAmong ls ts) :
    RowsAmong (t.lexemes ++ ls) (t :: ts)

section Among

variable {ls ms : List Lexeme} {ts us : List RowTree}

theorem RowsAmong.append (h : RowsAmong ls ts) (h' : RowsAmong ms us) :
    RowsAmong (ls ++ ms) (ts ++ us) := by
  induction h with
  | nil => exact h'
  | other inside _ ih => exact .other inside ih
  | row t _ ih =>
    rw [List.append_assoc]
    exact .row t ih

theorem RowsAmong.flatMap {α : Type} {f : α → List Lexeme} {g : α → List RowTree} {xs : List α}
    (h : ∀ x ∈ xs, RowsAmong (f x) (g x)) : RowsAmong (xs.flatMap f) (xs.flatMap g) := by
  induction xs with
  | nil => exact .nil
  | cons x xs ih =>
    rw [List.forall_mem_cons] at h
    exact h.1.append (ih h.2)

theorem endsRow_fixed {t : Token} (leaf : Fixed t) (h : t ≠ .rowEnd) :
    leaf.lexeme.endsRow = false := by
  rw [Lexeme.endsRow, Lexeme.fixed?_eq_some_iff.1 leaf.means]
  exact decide_eq_false h

theorem endsRow_count (leaf : Leaf Lexeme.count?) : leaf.lexeme.endsRow = false := by
  rw [Lexeme.endsRow, (Lexeme.count?_eq_some_iff.1 leaf.means).1]
  rfl

theorem endsRow_name (leaf : Leaf Lexeme.name?) : leaf.lexeme.endsRow = false := by
  rw [Lexeme.endsRow, (Lexeme.name?_eq_some_iff.1 leaf.means).1]
  rfl

theorem endsRow_unit (leaf : Leaf Lexeme.unit?) : leaf.lexeme.endsRow = false := by
  have stitch := Lexeme.isStitch_of_unit? leaf.means
  refine decide_eq_false fun token => ?_
  rw [token] at stitch
  cases stitch

theorem endsRow_action (leaf : Leaf Lexeme.action?) : leaf.lexeme.endsRow = false := by
  have action := Lexeme.isMarkerAction_of_action? leaf.means
  refine decide_eq_false fun token => ?_
  rw [token] at action
  cases action

theorem endsRow_suffix (suffix : Option SuffixTree) :
    ∀ l ∈ suffixLexemes suffix, l.endsRow = false := by
  obtain _ | ⟨star, count⟩ | ⟨star, minus, count⟩ := suffix <;>
    simp [suffixLexemes, SuffixTree.lexemes, endsRow_fixed, endsRow_count]

theorem ExprTree.endsRow_of_mem (t : ExprTree) : ∀ l ∈ t.lexemes, l.endsRow = false := by
  induction t with
  | stitch leaf suffix =>
    rw [lexemes, UnitTree.lexemes, List.forall_mem_append, List.forall_mem_singleton]
    exact ⟨endsRow_unit leaf, endsRow_suffix suffix⟩
  | group opening content closing suffix ih =>
    have inner : ∀ l ∈ lexemesAll content, l.endsRow = false := by
      rw [lexemesAll_eq_flatMap, List.forall_mem_flatMap]
      exact ih
    rw [lexemes, UnitTree.lexemes]
    have here : ∀ l ∈ opening.lexeme :: lexemesAll content ++ [closing.lexeme],
        l.endsRow = false := by
      rw [List.forall_mem_append, List.forall_mem_cons, List.forall_mem_singleton]
      exact ⟨⟨endsRow_fixed opening (by decide), inner⟩, endsRow_fixed closing (by decide)⟩
    exact List.forall_mem_append.2 ⟨here, endsRow_suffix suffix⟩
  | marker leaf =>
    rw [lexemes, List.forall_mem_singleton]
    exact endsRow_action leaf

theorem RowTree.countP_endsRow (t : RowTree) : t.lexemes.countP Lexeme.endsRow = 1 := by
  have content : (ExprTree.lexemesAll t.content).countP Lexeme.endsRow = 0 := by
    rw [List.countP_eq_zero, ExprTree.lexemesAll_eq_flatMap, List.forall_mem_flatMap]
    intro e _ l hl
    rw [e.endsRow_of_mem l hl]
    decide
  have closing : t.closing.lexeme.endsRow = true :=
    decide_eq_true (Lexeme.fixed?_eq_some_iff.1 t.closing.means)
  rw [lexemes, List.countP_append, content, List.countP_singleton, if_pos closing]

theorem rowsAmong_rows (ts : List RowTree) : RowsAmong (ts.flatMap RowTree.lexemes) ts := by
  induction ts with
  | nil => exact .nil
  | cons t ts ih => exact .row t ih

theorem ItemTree.rowsAmong (t : ItemTree) : RowsAmong t.lexemes t.rows := by
  cases t with
  | row t =>
    have alone := rowsAmong_rows [t]
    rwa [List.flatMap_singleton] at alone
  | block t =>
    have inner := (rowsAmong_rows t.rows).append
      (.other (endsRow_fixed t.closing (by decide)) .nil)
    rw [List.append_nil] at inner
    exact .other (endsRow_fixed t.keyword (by decide)) (.other (endsRow_count t.count)
      (.other (endsRow_fixed t.opening (by decide)) inner))

theorem SectionTree.rowsAmong (t : SectionTree) : RowsAmong t.lexemes t.rows := by
  have inner := (RowsAmong.flatMap fun item (_ : item ∈ t.content) => item.rowsAmong).append
    (.other (endsRow_fixed t.closing (by decide)) .nil)
  rw [List.append_nil] at inner
  exact .other (endsRow_fixed t.keyword (by decide)) (.other (endsRow_name t.name)
    (.other (endsRow_fixed t.opening (by decide)) inner))

theorem Derivation.rowsAmong (d : Derivation ls) : RowsAmong ls d.rows := by
  have each := RowsAmong.flatMap fun t (_ : t ∈ d.sections) => t.rowsAmong
  rwa [d.spells] at each

/-- Before a row just as many rows have ended as stand before it. -/
theorem RowsAmong.exists_split (h : RowsAmong ls ts) {k : Nat} {t : RowTree}
    (ht : ts[k]? = some t) :
    ∃ before after, ls = before ++ t.lexemes ++ after ∧ before.countP Lexeme.endsRow = k := by
  induction h generalizing k with
  | nil => cases ht
  | @other l _ _ inside _ ih =>
    obtain ⟨before, after, rfl, count⟩ := ih ht
    exact ⟨l :: before, after, rfl, by simp [inside, count]⟩
  | row u rest ih =>
    cases k with
    | zero =>
      cases ht
      exact ⟨[], _, rfl, rfl⟩
    | succ k =>
      obtain ⟨before, after, rfl, count⟩ := ih ht
      refine ⟨u.lexemes ++ before, after, by simp only [List.append_assoc], ?_⟩
      rw [List.countP_append, u.countP_endsRow, count, Nat.add_comm]

end Among

namespace Piece

def endsRow (piece : Piece) : Bool := piece.kind = .rowEnd

def isComment (piece : Piece) : Bool := piece.kind = .comment

theorem classify_ne_rowEnd (word : List Char) : (classify word).1 ≠ .rowEnd := by
  cases found : classIn WordClass.all word with
  | some result =>
    obtain ⟨t, literal⟩ := result
    obtain ⟨k, -, -, rfl⟩ := classIn_eq_some found
    rw [classify, found]
    intro ended
    cases k <;> cases ended
  | none =>
    have bare := classify_mem_of_classIn_eq_none found
    intro ended
    rw [ended] at bare
    exact absurd bare (by decide)

theorem endsRow_of_lexeme? {p : Position} {piece : Piece} {l : Lexeme}
    (h : piece.lexeme? p = some l) : l.endsRow = piece.endsRow := by
  obtain ⟨kind, text⟩ := piece
  cases kind with
  | word =>
    cases h
    exact decide_eq_false (classify_ne_rowEnd text)
  | blank | comment => cases h
  | _ =>
    cases h
    rfl

theorem endsRow_of_lexeme?_eq_none {p : Position} {piece : Piece} (h : piece.lexeme? p = none) :
    piece.endsRow = false := by
  obtain ⟨kind, text⟩ := piece
  cases kind <;> first | rfl | cases h

end Piece

namespace LexemeStream

theorem countP_endsRow (p : Position) (ps : List Piece) :
    (ofPieces p ps).lexemes.countP Lexeme.endsRow = ps.countP Piece.endsRow := by
  induction ps generalizing p with
  | nil => rfl
  | cons piece ps ih =>
    rw [ofPieces_cons, List.countP_append, ih, List.countP_cons, Nat.add_comm]
    congr 1
    cases found : piece.lexeme? p with
    | none => rw [Piece.endsRow_of_lexeme?_eq_none found]; rfl
    | some l => rw [← Piece.endsRow_of_lexeme? found]; exact List.countP_singleton

/-- The line behind pieces counts the ends of rows and the comments among them. -/
theorem line_finish (p : Position) (ps : List Piece) :
    (ofPieces p ps).finish.line =
      p.line + (ps.countP Piece.endsRow + ps.countP Piece.isComment) := by
  induction ps generalizing p with
  | nil => rfl
  | cons piece ps ih =>
    obtain ⟨kind, text⟩ := piece
    rw [ofPieces_cons, ih, List.countP_cons, List.countP_cons]
    cases kind <;>
      simp [Piece.positionBehind, Piece.endsLine, Piece.endsRow, Piece.isComment,
        Position.nextLine, Position.right] <;> omega

/-- Behind every lexeme of pieces there is the piece that it is the lexeme of. -/
theorem exists_piece {p : Position} {ps : List Piece} {before after : List Lexeme} {l : Lexeme}
    (h : (ofPieces p ps).lexemes = before ++ l :: after) :
    ∃ done piece rest, ps = done ++ piece :: rest ∧ (ofPieces p done).lexemes = before ∧
      piece.lexeme? (ofPieces p done).finish = some l := by
  induction ps generalizing p before with
  | nil => cases before <;> cases h
  | cons piece ps ih =>
    rw [ofPieces_cons] at h
    cases found : piece.lexeme? p with
    | none =>
      rw [found] at h
      obtain ⟨done, last, rest, rfl, lexemes, lexeme⟩ := ih h
      exact ⟨piece :: done, last, rest, rfl, by simp [ofPieces_cons, found, lexemes],
        by rwa [ofPieces_cons]⟩
    | some m =>
      rw [found] at h
      cases before with
      | nil =>
        cases h
        exact ⟨[], piece, ps, rfl, rfl, found⟩
      | cons m' before =>
        obtain ⟨rfl, later⟩ := List.cons.inj h
        obtain ⟨done, last, rest, rfl, lexemes, lexeme⟩ := ih later
        exact ⟨piece :: done, last, rest, rfl, by simp [ofPieces_cons, found, lexemes],
          by rwa [ofPieces_cons]⟩

end LexemeStream

/-- How many comments of a source begin before the index. -/
def commentsBefore (cs : List Char) (i : Nat) : Nat :=
  (placedFrom 0 (pieces cs)).countP fun x => x.piece.isComment && x.index < i

/-- Before a piece begin the comments among the pieces before it. -/
theorem commentsBefore_eq {cs : List Char} {done rest : List Piece}
    (split : pieces cs = done ++ rest) :
    commentsBefore cs (done.flatMap Piece.text).length = done.countP Piece.isComment := by
  have texts : ∀ p ∈ done ++ rest, p.text ≠ [] :=
    split ▸ fun p => Piece.text_ne_nil_of_mem_pieces
  rw [List.forall_mem_append] at texts
  have first : ∀ x ∈ placedFrom 0 done,
      (x.piece.isComment && decide (x.index < (done.flatMap Piece.text).length)) = true ↔
        x.piece.isComment = true := by
    intro x hx
    have begins : x.index < (done.flatMap Piece.text).length := by
      have bounds := placed_bounds hx
      have long := index_lt_stop texts.1 hx
      omega
    simp only [begins, decide_true, Bool.and_true]
  have later : ∀ x ∈ placedFrom (0 + (done.flatMap Piece.text).length) rest,
      ¬ (x.piece.isComment && decide (x.index < (done.flatMap Piece.text).length)) = true := by
    intro x hx
    have bounds := placed_bounds hx
    rw [Bool.and_eq_true, decide_eq_true_iff]
    omega
  rw [commentsBefore, split, placedFrom_append, List.countP_append, List.countP_congr first,
    List.countP_eq_zero.2 later, Nat.add_zero]
  conv_rhs => rw [← map_piece_placedFrom 0 done, List.countP_map]
  rfl

section Lines

variable {source : String} {t : RowTree} {k : Nat}

/-- What comes before the first lexeme of a row. -/
theorem Derivation.exists_piece (d : Derivation (LexemeStream.ofSource source).lexemes)
    (ht : d.rows[k]? = some t) :
    ∃ done piece rest, pieces source.toList = done ++ piece :: rest ∧
      piece.lexeme? (LexemeStream.ofPieces .start done).finish = some t.first.start ∧
        done.countP Piece.endsRow = k := by
  obtain ⟨before, after, split, count⟩ := d.rowsAmong.exists_split ht
  obtain ⟨more, first⟩ := t.first.lexemes_eq_start_cons
  rw [RowTree.lexemes, RowTree.content, ExprTree.lexemesAll, first] at split
  simp only [List.append_assoc, List.cons_append] at split
  obtain ⟨done, piece, rest, cut, lexemes, lexeme⟩ := LexemeStream.exists_piece split
  refine ⟨done, piece, rest, cut, lexeme, ?_⟩
  rw [← LexemeStream.countP_endsRow .start, lexemes, count]

theorem RowTree.line_eq {done : List Piece} {piece : Piece}
    (lexeme : piece.lexeme? (LexemeStream.ofPieces .start done).finish = some t.first.start) :
    t.meaning.position.line =
      1 + (done.countP Piece.endsRow + done.countP Piece.isComment) := by
  rw [RowTree.meaning, Piece.position_of_lexeme? lexeme, LexemeStream.line_finish]
  rfl

/-- Of two rows the one written later is in a later line. -/
theorem Derivation.line_lt (d : Derivation (LexemeStream.ofSource source).lexemes) {k k' : Nat}
    {t t' : RowTree} (ht : d.rows[k]? = some t) (ht' : d.rows[k']? = some t') (h : k < k') :
    t.meaning.position.line < t'.meaning.position.line := by
  obtain ⟨done, piece, rest, split, lexeme, rfl⟩ := d.exists_piece ht
  obtain ⟨done', piece', rest', split', lexeme', rfl⟩ := d.exists_piece ht'
  have shorter : done <+: done' := by
    have prefixes := List.prefix_or_prefix_of_prefix (split ▸ List.prefix_append done _)
      (split' ▸ List.prefix_append done' _)
    refine prefixes.resolve_right fun longer => ?_
    exact absurd (longer.sublist.countP_le (p := Piece.endsRow)) (Nat.not_le.2 h)
  have comments := shorter.sublist.countP_le (p := Piece.isComment)
  rw [RowTree.line_eq lexeme, RowTree.line_eq lexeme']
  omega

end Lines

/-- Rows count the lines. The row with so many rows before it is in the line that these rows and the
comments beginning before its first lexeme come to. So every row is in a later line than those
before it, and without comments the first row is in the first line, the second row in the second,
and so on. -/
theorem rows_count_lines {source : String} {pattern : List Section}
    (parsed : parse source = .ok pattern) :
    (∃ d : Derivation (LexemeStream.ofSource source).lexemes, d.pattern = pattern ∧
      d.rows.map RowTree.meaning = pattern.flatMap Section.rows ∧
        ∀ k t, d.rows[k]? = some t → ∃ x ∈ placedFrom 0 (pieces source.toList),
          x.lexeme? source.toList = some t.first.start ∧
            t.meaning.position.line = k + 1 + commentsBefore source.toList x.index) ∧
    ((pattern.flatMap Section.rows).map fun row => row.position.line).Pairwise (· < ·) ∧
    ((∀ p ∈ pieces source.toList, p.kind ≠ .comment) →
      ∀ k row, (pattern.flatMap Section.rows)[k]? = some row → row.position.line = k + 1) := by
  obtain ⟨d, rfl⟩ := parse_eq_ok_iff.1 parsed
  rw [← d.map_meaning_rows]
  refine ⟨⟨d, rfl, rfl, ?_⟩, ?_, ?_⟩
  · intro k t ht
    obtain ⟨done, piece, rest, split, lexeme, rfl⟩ := d.exists_piece ht
    refine ⟨⟨(done.flatMap Piece.text).length, piece⟩, ?_, ?_, ?_⟩
    · rw [split, placedFrom_append, placedFrom, Nat.zero_add]
      exact List.mem_append_right _ List.mem_cons_self
    · rw [PlacedPiece.lexeme?, ← finish_eq_positionAt done _ split]
      exact lexeme
    · rw [RowTree.line_eq lexeme, commentsBefore_eq split]
      omega
  · rw [List.map_map, List.pairwise_map, List.pairwise_iff_getElem]
    intro k k' hk hk' before
    exact d.line_lt (List.getElem?_eq_getElem hk) (List.getElem?_eq_getElem hk') before
  · intro plain k row hrow
    rw [List.getElem?_map] at hrow
    obtain ⟨t, ht, rfl⟩ := Option.map_eq_some_iff.1 hrow
    obtain ⟨done, piece, rest, split, lexeme, rfl⟩ := d.exists_piece ht
    have none : done.countP Piece.isComment = 0 := by
      rw [List.countP_eq_zero]
      intro p hp
      rw [Piece.isComment, decide_eq_true_iff]
      exact plain p (split ▸ List.mem_append_left _ hp)
    rw [RowTree.line_eq lexeme, none, Nat.add_zero, Nat.add_comm]

/-- The line of the first row counts a comment, that of the second one the first row as well. -/
theorem rows_count_lines_rib :
    let source := "section s \x7b // rib\nk; repeat 2 \x7b p; \x7d \x7d"
    let pattern : List Section := [⟨"s", [.row ⟨[.stitch .knit], ⟨2, 1⟩⟩,
      .block ⟨[⟨[.stitch .purl], ⟨3, 13⟩⟩], 2⟩]⟩]
    parse source = .ok pattern ∧
    ∃ d : Derivation (LexemeStream.ofSource source).lexemes, d.pattern = pattern ∧
      d.rows.map RowTree.meaning = [⟨[.stitch .knit], ⟨2, 1⟩⟩, ⟨[.stitch .purl], ⟨3, 13⟩⟩] ∧
        ∀ k t, d.rows[k]? = some t → ∃ x ∈ placedFrom 0 (pieces source.toList),
          x.lexeme? source.toList = some t.first.start ∧
            t.meaning.position.line = k + 1 + commentsBefore source.toList x.index := by
  have lexemes : LexemeStream.ofSource "section s \x7b // rib\nk; repeat 2 \x7b p; \x7d \x7d" =
      ⟨[⟨⟨1, 1⟩, .sectionWord, "section"⟩, ⟨⟨1, 9⟩, .identifier, "s"⟩,
        ⟨⟨1, 11⟩, .blockOpen, "\x7b"⟩, ⟨⟨2, 1⟩, .knit, "k"⟩, ⟨⟨2, 2⟩, .rowEnd, ";"⟩,
        ⟨⟨3, 2⟩, .repeatWord, "repeat"⟩, ⟨⟨3, 9⟩, .integer, "2"⟩, ⟨⟨3, 11⟩, .blockOpen, "\x7b"⟩,
        ⟨⟨3, 13⟩, .purl, "p"⟩, ⟨⟨3, 14⟩, .rowEnd, ";"⟩, ⟨⟨4, 2⟩, .blockClose, "\x7d"⟩,
        ⟨⟨4, 4⟩, .blockClose, "\x7d"⟩], ⟨4, 5⟩⟩ := by decide +kernel
  have read : parse "section s \x7b // rib\nk; repeat 2 \x7b p; \x7d \x7d" =
      .ok [⟨"s", [.row ⟨[.stitch .knit], ⟨2, 1⟩⟩,
        .block ⟨[⟨[.stitch .purl], ⟨3, 13⟩⟩], 2⟩]⟩] := by
    rw [parse, lexemes]
    rfl
  exact ⟨read, (rows_count_lines read).1⟩

end Knitting
