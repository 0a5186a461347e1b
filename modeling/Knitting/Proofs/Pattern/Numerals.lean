import Knitting.Proofs.Pattern.Blame
import Knitting.Proofs.Source.Classes

/-! # Counts as they are written

The counts of a pattern are the numbers that stand in its source, in the same order and none of them
lost. A number is written as a run of digits, leading zeros and all; a cable with a single run has
it for both of its counts.
-/
namespace Knitting
open Text

def Stitch.counts : Stitch → List UInt32
  | .knitTogether n | .purlTogether n | .castOn n | .bindOff n => [n]
  | .cable _ front back => [front, back]
  | _ => []

namespace Expr

mutual

def counts : Expr → List UInt32
  | .stitch s => s.counts
  | .group es => countsAll es
  | .times e n | .leaving e n => e.counts ++ [n]
  | .marker _ => []

def countsAll : List Expr → List UInt32
  | [] => []
  | e :: es => e.counts ++ countsAll es

end

theorem countsAll_eq_flatMap (es : List Expr) : countsAll es = es.flatMap counts := by
  induction es with
  | nil => rfl
  | cons e es ih => rw [countsAll, ih, List.flatMap_cons]

end Expr

def Row.counts (r : Row) : List UInt32 := r.content.flatMap Expr.counts

def Block.counts (b : Block) : List UInt32 := b.count :: b.rows.flatMap Row.counts

def Item.counts : Item → List UInt32
  | .row r => r.counts
  | .block b => b.counts

def Section.counts (s : Section) : List UInt32 := s.content.flatMap Item.counts

/-- The runs of digits in a word, as long as they can be. -/
def digitRuns (word : List Char) : List (List Char) :=
  (word.splitOnP fun c => !c.isDigit).filter (· ≠ [])

/-- The runs of digits in a piece of source that stand for counts. A single run in a cable stands
for both of its counts. -/
def Piece.numerals (p : Piece) : List (List Char) :=
  match p.kind with
  | .integer => [p.text]
  | .word =>
    match (classify p.text).1 with
    | .cable _ =>
      match digitRuns p.text with
      | [run] => [run, run]
      | runs => runs
    | .knitTogether | .purlTogether | .castOn | .bindOff | .knitRun | .purlRun => digitRuns p.text
    | _ => []
  | _ => []

def Lexeme.numbers (l : Lexeme) : List Nat :=
  match l.token with
  | .cable _ => [l.front, l.back]
  | .integer | .knitTogether | .purlTogether | .castOn | .bindOff | .knitRun | .purlRun =>
    [l.number]
  | _ => []

section Leaf

variable {l : Lexeme}

theorem counts_of_unit? {u : Expr} (h : l.unit? = some u) :
    u.counts.map UInt32.toNat = l.numbers := by
  unfold Lexeme.unit? at h
  unfold Lexeme.numbers
  cases token : l.token with
  | knit | purl | slipSlipKnit | yarnOver =>
    rw [token] at h
    cases h
    rfl
  | knitTogether | purlTogether | castOn | bindOff | knitRun | purlRun =>
    rw [token] at h
    rcases Option.map_eq_some_iff.1 h with ⟨n, number, rfl⟩
    rw [count32?_eq_some_iff.1 number]
    rfl
  | cable crossing =>
    rw [token] at h
    rcases Option.bind_eq_some_iff.1 h with ⟨f, front, h⟩
    rcases Option.map_eq_some_iff.1 h with ⟨b, back, rfl⟩
    rw [count32?_eq_some_iff.1 front, count32?_eq_some_iff.1 back]
    rfl
  | _ =>
    rw [token] at h
    cases h

theorem numbers_of_count? {n : UInt32} (h : l.count? = some n) : l.numbers = [n.toNat] := by
  rcases Lexeme.count?_eq_some_iff.1 h with ⟨token, number⟩
  rw [Lexeme.numbers, token, count32?_eq_some_iff.1 number]

theorem numbers_of_action? {a : MarkerAction} (h : l.action? = some a) : l.numbers = [] := by
  unfold Lexeme.action? at h
  unfold Lexeme.numbers
  cases token : l.token <;> rw [token] at h <;> first | rfl | cases h

theorem numbers_of_name? {name : String} (h : l.name? = some name) : l.numbers = [] := by
  rw [Lexeme.numbers, (Lexeme.name?_eq_some_iff.1 h).1]

theorem numbers_of_fixed {t : Token} (leaf : Fixed t)
    (bare : ∀ p text, Lexeme.numbers ⟨p, t, text⟩ = []) : leaf.lexeme.numbers = [] := by
  rcases leaf with ⟨⟨p, token, text⟩, -, means⟩
  cases Lexeme.fixed?_eq_some_iff.1 means
  exact bare p text

end Leaf

/-- A tree has the numbers of its leaves. -/
theorem counts_suffixed (content : Expr) (suffix : Option SuffixTree) :
    (suffixed content suffix).counts.map UInt32.toNat =
      content.counts.map UInt32.toNat ++ (suffixLexemes suffix).flatMap Lexeme.numbers := by
  have star (leaf : Fixed .repeatSuffix) := numbers_of_fixed leaf fun _ _ => rfl
  have minus (leaf : Fixed .minus) := numbers_of_fixed leaf fun _ _ => rfl
  cases suffix with
  | none => simp [suffixed, suffixLexemes]
  | some suffix =>
    cases suffix with
    | times s count =>
      simp [suffixed, suffixLexemes, SuffixTree.meaning, SuffixTree.lexemes, Expr.counts, star,
        numbers_of_count? count.means]
    | leaving s m count =>
      simp [suffixed, suffixLexemes, SuffixTree.meaning, SuffixTree.lexemes, Expr.counts, star,
        minus, numbers_of_count? count.means]

theorem counts_meanings {ts : List ExprTree}
    (each : ∀ t ∈ ts, t.meaning.counts.map UInt32.toNat = t.lexemes.flatMap Lexeme.numbers) :
    (Expr.countsAll (ExprTree.meanings ts)).map UInt32.toNat =
      (ExprTree.lexemesAll ts).flatMap Lexeme.numbers := by
  induction ts with
  | nil => rfl
  | cons t ts ih =>
    rw [List.forall_mem_cons] at each
    rw [ExprTree.meanings, Expr.countsAll, ExprTree.lexemesAll, List.map_append,
      List.flatMap_append, each.1, ih each.2]

theorem counts_meaning (t : ExprTree) :
    t.meaning.counts.map UInt32.toNat = t.lexemes.flatMap Lexeme.numbers := by
  induction t with
  | stitch leaf suffix =>
    rw [ExprTree.meaning, counts_suffixed, UnitTree.meaning, ExprTree.lexemes, UnitTree.lexemes,
      counts_of_unit? leaf.means, List.flatMap_append, List.flatMap_singleton]
  | group opening content closing suffix each =>
    have parenthesis := numbers_of_fixed opening fun _ _ => rfl
    have closed := numbers_of_fixed closing fun _ _ => rfl
    rw [ExprTree.meaning, counts_suffixed, UnitTree.meaning, ExprTree.lexemes, UnitTree.lexemes,
      Expr.counts, counts_meanings each, List.flatMap_append, List.flatMap_append,
      List.flatMap_cons, List.flatMap_singleton, parenthesis, closed, List.nil_append,
      List.append_nil]
  | marker leaf =>
    rw [ExprTree.meaning, ExprTree.lexemes, List.flatMap_singleton, numbers_of_action? leaf.means]
    rfl

theorem counts_row (t : RowTree) :
    t.meaning.counts.map UInt32.toNat = t.lexemes.flatMap Lexeme.numbers := by
  have closed := numbers_of_fixed t.closing fun _ _ => rfl
  rw [RowTree.meaning, Row.counts, ← Expr.countsAll_eq_flatMap, RowTree.lexemes,
    counts_meanings fun t _ => counts_meaning t, List.flatMap_append, List.flatMap_singleton,
    closed, List.append_nil]

theorem counts_flatMap {α β : Type} {meaning : α → β} {counts : β → List UInt32}
    {lexemes : α → List Lexeme}
    (each : ∀ t, (counts (meaning t)).map UInt32.toNat = (lexemes t).flatMap Lexeme.numbers)
    (ts : List α) :
    ((ts.map meaning).flatMap counts).map UInt32.toNat =
      (ts.flatMap lexemes).flatMap Lexeme.numbers := by
  rw [List.flatMap_map, List.map_flatMap, List.flatMap_assoc]
  simp only [each]

theorem counts_item (t : ItemTree) :
    t.meaning.counts.map UInt32.toNat = t.lexemes.flatMap Lexeme.numbers := by
  cases t with
  | row t => exact counts_row t
  | block t =>
    have keyword := numbers_of_fixed t.keyword fun _ _ => rfl
    have opened := numbers_of_fixed t.opening fun _ _ => rfl
    have closed := numbers_of_fixed t.closing fun _ _ => rfl
    have rows := counts_flatMap counts_row t.rows
    simp only [ItemTree.meaning, ItemTree.lexemes, Item.counts, Block.counts, BlockTree.meaning,
      BlockTree.lexemes, BlockHead.lexemes, List.map_cons, rows, List.flatMap_append,
      List.flatMap_cons, List.flatMap_nil, keyword, opened, closed, numbers_of_count? t.count.means,
      List.nil_append, List.append_nil, List.singleton_append]

theorem counts_section (t : SectionTree) :
    t.meaning.counts.map UInt32.toNat = t.lexemes.flatMap Lexeme.numbers := by
  have keyword := numbers_of_fixed t.keyword fun _ _ => rfl
  have opened := numbers_of_fixed t.opening fun _ _ => rfl
  have closed := numbers_of_fixed t.closing fun _ _ => rfl
  have items := counts_flatMap counts_item t.content
  simp only [SectionTree.meaning, SectionTree.lexemes, SectionHead.lexemes, Section.counts, items,
    List.flatMap_append, List.flatMap_cons, List.flatMap_nil, keyword, opened, closed,
    numbers_of_name? t.name.means, List.nil_append, List.append_nil]

theorem counts_of_parse {source : String} {pattern : List Section}
    (read : parse source = .ok pattern) :
    (pattern.flatMap Section.counts).map UInt32.toNat =
      (LexemeStream.ofSource source).lexemes.flatMap Lexeme.numbers := by
  rcases parse_eq_ok_iff.1 read with ⟨d, rfl⟩
  rw [Derivation.pattern, counts_flatMap counts_section, d.spells]

theorem digitRuns_append_cons (before after : List Char) {c : Char} (letter : c.isDigit = false) :
    digitRuns (before ++ c :: after) = digitRuns before ++ digitRuns after := by
  rw [digitRuns, List.splitOnP_append_cons before after (by simp [letter]), List.filter_append]
  rfl

theorem digitRuns_of_isDigitRun {ds : List Char} (h : IsDigitRun ds) : digitRuns ds = [ds] := by
  have whole : ∀ c ∈ ds, (!c.isDigit) = false := by
    intro c hc
    rw [List.all_eq_true.1 h.2 c hc]
    rfl
  rw [digitRuns, List.splitOnP_eq_singleton whole]
  simp [h.1]

theorem digitRuns_behind {letters : List Char} (bare : ∀ c ∈ letters, c.isDigit = false)
    (word : List Char) : digitRuns (letters ++ word) = digitRuns word := by
  induction letters with
  | nil => rfl
  | cons c letters ih =>
    rw [List.forall_mem_cons] at bare
    rw [List.cons_append, ← ih bare.2]
    exact digitRuns_append_cons [] _ bare.1

theorem digitRuns_before {letters : List Char} (bare : ∀ c ∈ letters, c.isDigit = false)
    (word : List Char) : digitRuns (word ++ letters) = digitRuns word := by
  cases letters with
  | nil => rw [List.append_nil]
  | cons c letters =>
    rw [List.forall_mem_cons] at bare
    have none := digitRuns_behind bare.2 []
    rw [List.append_nil] at none
    rw [digitRuns_append_cons word letters bare.1, none]
    exact List.append_nil _

/-- Folding the case makes no letter of a digit. -/
theorem isDigit_of_toLower {c d : Char} (folded : c.toLower = d) (letter : d.isDigit = false) :
    c.isDigit = false := by
  by_contra digit
  rw [Bool.not_eq_false] at digit
  have high : c.val ≤ '9'.val := (of_decide_eq_true (Bool.and_eq_true_iff.1 digit).2 : _)
  have small : ¬(c.val ≥ 'A'.val ∧ c.val ≤ 'Z'.val) := by
    rintro ⟨low, -⟩
    exact absurd (UInt32.le_trans low high) (by decide)
  have kept : c.toLower = c := dif_neg small
  rw [← folded, kept, digit] at letter
  cases letter

theorem digitRuns_of_digitsBetween? {head tail word ds : List Char}
    (before : ∀ c ∈ head, c.isDigit = false) (behind : ∀ c ∈ tail, c.isDigit = false)
    (h : digitsBetween? head tail word = some ds) : digitRuns word = [ds] := by
  rcases digitsBetween?_eq_some_iff.1 h with ⟨rfl, run⟩
  rw [digitRuns_before behind, digitRuns_behind before, digitRuns_of_isDigitRun run]

theorem digitRuns_of_foldedDigits? {a b : Char} {word ds : List Char} (first : a.isDigit = false)
    (second : b.isDigit = false) (h : WordClass.foldedDigits? a b word = some ds) :
    digitRuns word = [ds] := by
  rcases foldedDigits?_eq_some_iff.1 h with ⟨c, d, hc, hd, rfl, run⟩
  have letters : ∀ x ∈ [c, d], x.isDigit = false := by
    simp [isDigit_of_toLower hc first, isDigit_of_toLower hd second]
  rw [← digitRuns_of_isDigitRun run]
  exact digitRuns_behind letters ds

/-- A cable is written with both of its numbers, or with one for both. -/
theorem digitRuns_of_cableLiteral? {first last : Char} {word literal : List Char}
    (before : first.isDigit = false) (behind : last.isDigit = false)
    (h : WordClass.cableLiteral? first last word = some literal) :
    ∃ front back, IsDigitRun front ∧ literal = front ++ ',' :: back ∧
      (digitRuns word = [front, back] ∨ digitRuns word = [front] ∧ back = front) := by
  have head : ∀ c ∈ [first], c.isDigit = false := by simp [before]
  have tail : ∀ c ∈ [last], c.isDigit = false := by simp [behind]
  rcases cableLiteral?_eq_some_iff.1 h with ⟨front, back, hf, hb, rfl, ⟨rfl, rfl⟩ | rfl⟩
  · refine ⟨back, back, hf, rfl, .inr ⟨?_, rfl⟩⟩
    rw [digitRuns_before tail, ← digitRuns_of_isDigitRun hf]
    exact digitRuns_behind head back
  · refine ⟨front, back, hf, rfl, .inl ?_⟩
    have inner := digitRuns_append_cons front back (c := '/') rfl
    rw [digitRuns_of_isDigitRun hf, digitRuns_of_isDigitRun hb] at inner
    rw [digitRuns_before tail]
    exact (digitRuns_behind head _).trans inner

/-- What stands in a word of a class are the numbers of its lexeme. -/
theorem numerals_of_literal? {k : WordClass} {word literal : List Char}
    (h : k.literal? word = some literal) (p : Position) :
    (Piece.mk .word word).numerals.map decimalValue =
      Lexeme.numbers ⟨p, k.token, String.ofList literal⟩ := by
  simp only [Piece.numerals, classify_of_literal? h]
  cases k with
  | cable crossing =>
    have cable : ∃ front back, IsDigitRun front ∧ literal = front ++ ',' :: back ∧
        (digitRuns word = [front, back] ∨ digitRuns word = [front] ∧ back = front) := by
      cases crossing <;> exact digitRuns_of_cableLiteral? rfl rfl h
    rcases cable with ⟨front, back, hf, rfl, runs⟩
    have numbers := Lexeme.front_back_eq (l := ⟨p, .cable crossing, .ofList (front ++ ',' :: back)⟩)
      hf String.toList_ofList
    simp only [WordClass.token, Lexeme.numbers, numbers]
    rcases runs with runs | ⟨runs, rfl⟩ <;> rw [runs] <;> rfl
  | knitTogether | purlTogether | knitRun | purlRun =>
    have runs := digitRuns_of_digitsBetween? (by simp) (by simp) h
    simp [WordClass.token, Lexeme.numbers, Lexeme.number, runs]
  | castOn | bindOff =>
    have runs := digitRuns_of_foldedDigits? rfl rfl h
    simp [WordClass.token, Lexeme.numbers, Lexeme.number, runs]
  | placeMarker | removeMarker => rfl

theorem numerals_ofPiece (p : Position) (piece : Piece) :
    piece.numerals.map decimalValue = (Lexeme.ofPiece p piece).numbers := by
  rcases piece with ⟨kind, text⟩
  cases kind with
  | integer => simp [Piece.numerals, Lexeme.ofPiece, Lexeme.numbers, Lexeme.number]
  | word =>
    cases found : classIn WordClass.all text with
    | some result =>
      rcases result with ⟨t, literal⟩
      rcases classIn_eq_some found with ⟨k, -, h, rfl⟩
      rw [numerals_of_literal? h p, Lexeme.ofPiece, classify_of_literal? h]
    | none =>
      -- neither a keyword nor a name has a number
      have bare := classify_mem_of_classIn_eq_none found
      simp only [Piece.numerals, Lexeme.ofPiece, Lexeme.numbers]
      generalize (classify text).1 = token at bare ⊢
      simp only [keywords, List.map_cons, List.map_nil, List.mem_cons, List.not_mem_nil,
        or_false] at bare
      rcases bare with rfl | rfl | rfl | rfl | rfl | rfl | rfl <;> rfl
  | _ => rfl

theorem numerals_ofPieces (p : Position) (ps : List Piece) :
    (ps.flatMap Piece.numerals).map decimalValue =
      (LexemeStream.ofPieces p ps).lexemes.flatMap Lexeme.numbers := by
  induction ps generalizing p with
  | nil => rfl
  | cons piece ps ih =>
    rw [List.flatMap_cons, List.map_append, LexemeStream.ofPieces]
    split
    · rename_i blank
      rw [Piece.numerals, blank, ← ih]
      rfl
    · rename_i comment
      rw [Piece.numerals, comment, ← ih]
      rfl
    · rename_i ended
      rw [Piece.numerals, ended, ih p.nextLine]
      rfl
    · rw [numerals_ofPiece p, ih (p.right piece.text.length)]
      rfl

/-- Reading fails at a number only where it does not fit into 32 bits, and never at the name of a
marker. A count that cannot be read is a run of digits of a value above 2^32 - 1; a cable that
cannot be read has two such runs with a comma between, and one of them is above. In every pattern
that can be read the counts are the values of the numbers that stand in the source, in the same
order. -/
theorem numbers_read_as_written (source : String) :
    (∀ p literal, parse source ≠ .error (.invalidMarkerName p literal)) ∧
    (∀ p literal, parse source = .error (.invalidCount p literal) →
      ∃ l ∈ tokenize source, l.position = p ∧ l.literal = literal ∧
        IsDigitRun literal.toList ∧ 2 ^ 32 - 1 < decimalValue literal.toList) ∧
    (∀ p literal, parse source = .error (.invalidCable p literal) →
      ∃ l ∈ tokenize source, ∃ crossing front back, l = ⟨p, .cable crossing, literal⟩ ∧
        literal.toList = front ++ ',' :: back ∧ IsDigitRun front ∧ IsDigitRun back ∧
        (2 ^ 32 - 1 < decimalValue front ∨ 2 ^ 32 - 1 < decimalValue back)) ∧
    ∀ pattern, parse source = .ok pattern →
      (pattern.flatMap Section.counts).map UInt32.toNat =
        ((pieces source.toList).flatMap Piece.numerals).map decimalValue := by
  have spelled := LexemeStream.wellSpelled_ofSource source
  refine ⟨?_, ?_, ?_, ?_⟩
  · intro p literal failed
    rcases exists_blames_or_unfinished failed with ⟨l, hl, blames⟩ | ⟨expected, ended⟩
    · exact not_blames_markerName (spelled l hl) blames
    · cases ended
  · intro p literal failed
    rcases exists_blames_or_unfinished failed with ⟨l, hl, blames⟩ | ⟨expected, ended⟩
    · exact ⟨l, List.mem_append_left _ hl, large_of_blames_count (spelled l hl) blames⟩
    · cases ended
  · intro p literal failed
    rcases exists_blames_or_unfinished failed with ⟨l, hl, blames⟩ | ⟨expected, ended⟩
    · exact ⟨l, List.mem_append_left _ hl, large_of_blames_cable (spelled l hl) blames⟩
    · cases ended
  · intro pattern read
    rw [counts_of_parse read, LexemeStream.ofSource, numerals_ofPieces .start]

/-- Leading zeros, a cable with one number and a cable with two. -/
def braidText : String := "section s \x7b repeat 007 \x7b c04r p2/03l; \x7d k2tog*-01; \x7d"

def braid : List Section :=
  [⟨"s", [.block ⟨[⟨[.stitch (.cable .knitForward 4 4), .stitch (.cable .purlBackward 2 3)],
      ⟨1, 26⟩⟩], 7⟩, .row ⟨[.leaving (.stitch (.knitTogether 2)) 1], ⟨2, 4⟩⟩]⟩]

/-- A pattern that can be read, a count that is too large and a cable that is. -/
theorem numbers_read_as_written_braid :
    (parse braidText = .ok braid ∧
      (braid.flatMap Section.counts).map UInt32.toNat =
        ((pieces braidText.toList).flatMap Piece.numerals).map decimalValue ∧
      (pieces braidText.toList).flatMap Piece.numerals =
        [['0', '0', '7'], ['0', '4'], ['0', '4'], ['2'], ['0', '3'], ['2'], ['0', '1']]) ∧
    (parse "section s \x7b k4294967296" = .error (.invalidCount ⟨1, 13⟩ "4294967296") ∧
      2 ^ 32 - 1 < decimalValue "4294967296".toList) ∧
    (parse "section s \x7b c1/4294967296r" = .error (.invalidCable ⟨1, 13⟩ "1,4294967296") ∧
      ∃ front back, "1,4294967296".toList = front ++ ',' :: back ∧
        (2 ^ 32 - 1 < decimalValue front ∨ 2 ^ 32 - 1 < decimalValue back)) := by
  have lexemes : LexemeStream.ofSource braidText =
      ⟨[⟨⟨1, 1⟩, .sectionWord, "section"⟩, ⟨⟨1, 9⟩, .identifier, "s"⟩,
        ⟨⟨1, 11⟩, .blockOpen, "\x7b"⟩, ⟨⟨1, 13⟩, .repeatWord, "repeat"⟩,
        ⟨⟨1, 20⟩, .integer, "007"⟩, ⟨⟨1, 24⟩, .blockOpen, "\x7b"⟩,
        ⟨⟨1, 26⟩, .cable .knitForward, "04,04"⟩, ⟨⟨1, 31⟩, .cable .purlBackward, "2,03"⟩,
        ⟨⟨1, 37⟩, .rowEnd, ";"⟩, ⟨⟨2, 2⟩, .blockClose, "\x7d"⟩, ⟨⟨2, 4⟩, .knitTogether, "2"⟩,
        ⟨⟨2, 9⟩, .repeatSuffix, "*"⟩, ⟨⟨2, 10⟩, .minus, "-"⟩, ⟨⟨2, 11⟩, .integer, "01"⟩,
        ⟨⟨2, 13⟩, .rowEnd, ";"⟩, ⟨⟨3, 2⟩, .blockClose, "\x7d"⟩], ⟨3, 3⟩⟩ := by decide +kernel
  have run : LexemeStream.ofSource "section s \x7b k4294967296" =
      ⟨[⟨⟨1, 1⟩, .sectionWord, "section"⟩, ⟨⟨1, 9⟩, .identifier, "s"⟩,
        ⟨⟨1, 11⟩, .blockOpen, "\x7b"⟩, ⟨⟨1, 13⟩, .knitRun, "4294967296"⟩], ⟨1, 24⟩⟩ := by
    decide +kernel
  have cable : LexemeStream.ofSource "section s \x7b c1/4294967296r" =
      ⟨[⟨⟨1, 1⟩, .sectionWord, "section"⟩, ⟨⟨1, 9⟩, .identifier, "s"⟩,
        ⟨⟨1, 11⟩, .blockOpen, "\x7b"⟩, ⟨⟨1, 13⟩, .cable .knitForward, "1,4294967296"⟩],
        ⟨1, 27⟩⟩ := by decide +kernel
  have read : parse braidText = .ok braid := by
    rw [parse, lexemes]
    rfl
  have misread : parse "section s \x7b k4294967296" =
      .error (.invalidCount ⟨1, 13⟩ "4294967296") := by
    rw [parse, run]
    rfl
  have mistaken : parse "section s \x7b c1/4294967296r" =
      .error (.invalidCable ⟨1, 13⟩ "1,4294967296") := by
    rw [parse, cable]
    rfl
  rcases numbers_read_as_written braidText with ⟨-, -, -, counts⟩
  rcases (numbers_read_as_written "section s \x7b k4294967296").2.1 _ _ misread with
    ⟨l, -, -, -, -, large⟩
  rcases (numbers_read_as_written "section s \x7b c1/4294967296r").2.2.1 _ _ mistaken with
    ⟨l', -, -, front, back, -, halves, -, -, above⟩
  exact ⟨⟨read, counts braid read, by decide +kernel⟩, ⟨misread, large⟩, mistaken, front, back,
    halves, above⟩

end Knitting
