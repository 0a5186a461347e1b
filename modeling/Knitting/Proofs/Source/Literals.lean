import Knitting.Source.Lexeme
import Mathlib.Data.List.TakeDrop
import Mathlib.Data.List.TakeWhile

/-! # Literals of lexemes

What the literal of a lexeme can be follows from its token: a run of digits where a count belongs,
two such runs joined by a comma for a cable, a capital letter for a marker, a whole word for a
name.
-/
namespace Knitting
open Text

def IsDigitRun (cs : List Char) : Prop := cs ≠ [] ∧ cs.all Char.isDigit

/-- A text that is one word, and a word that is neither a keyword nor carries a parameter. -/
def IsName (text : String) : Prop :=
  pieces text.toList = [⟨.word, text.toList⟩] ∧ (classify text.toList).1 = .identifier

theorem digitRun?_eq_some_iff {cs ds : List Char} :
    digitRun? cs = some ds ↔ cs = ds ∧ IsDigitRun ds := digitRun?_eq_some

theorem digitsBetween?_eq_some_iff {head tail word ds : List Char} :
    digitsBetween? head tail word = some ds ↔ word = head ++ ds ++ tail ∧ IsDigitRun ds := by
  simp only [digitsBetween?, Option.bind_eq_some_iff, afterHead?_eq_some, beforeTail?_eq_some,
    digitRun?_eq_some_iff]
  constructor
  · rintro ⟨inner, ⟨rest, rfl, rfl⟩, rfl, h⟩
    exact ⟨by simp, h⟩
  · rintro ⟨rfl, h⟩
    exact ⟨ds, ⟨ds ++ tail, by simp, rfl⟩, rfl, h⟩

theorem isDigitRun_span {cs : List Char} (h : IsDigitRun cs) (rest : List Char)
    (hrest : ∀ c ∈ rest.head?, c.isDigit = false) :
    (cs ++ rest).span Char.isDigit = (cs, rest) := by
  have all : ∀ c ∈ cs, c.isDigit = true := List.all_eq_true.1 h.2
  rw [List.span_eq_takeWhile_dropWhile, List.takeWhile_append_of_pos all,
    List.dropWhile_append_of_pos all]
  cases rest with
  | nil => simp
  | cons c rest => simp [hrest c rfl]

/-- The counts of a cable are written as one run of digits, or as two with a slash between. -/
theorem cableCounts?_eq_some_iff {cs front back : List Char} :
    cableCounts? cs = some (front, back) ↔
      IsDigitRun front ∧ IsDigitRun back ∧
        ((cs = front ∧ back = front) ∨ cs = front ++ '/' :: back) := by
  constructor
  · intro h
    have split := List.takeWhile_append_dropWhile (p := Char.isDigit) (l := cs)
    rw [cableCounts?, List.span_eq_takeWhile_dropWhile] at h
    cases hrest : cs.dropWhile Char.isDigit with
    | nil =>
      rw [hrest, List.append_nil] at split
      simp only [hrest, Option.map_eq_some_iff, digitRun?_eq_some_iff, Prod.mk.injEq] at h
      obtain ⟨f, ⟨rfl, hf⟩, rfl, rfl⟩ := h
      exact ⟨hf, hf, .inl ⟨split.symm, rfl⟩⟩
    | cons c rest =>
      rw [hrest] at split
      simp only [hrest] at h
      split at h
      · rename_i slash
        subst slash
        simp only [Option.bind_eq_some_iff, Option.map_eq_some_iff, digitRun?_eq_some_iff,
          Prod.mk.injEq] at h
        obtain ⟨f, ⟨rfl, hf⟩, b, ⟨rfl, hb⟩, rfl, rfl⟩ := h
        exact ⟨hf, hb, .inr split.symm⟩
      · cases h
  · rintro ⟨hf, hb, ⟨rfl, rfl⟩ | rfl⟩
    · have whole := isDigitRun_span hf [] (by simp)
      rw [List.append_nil] at whole
      rw [cableCounts?, whole]
      simp [digitRun?_eq_some_iff.2 ⟨rfl, hf⟩]
    · have first := isDigitRun_span hf ('/' :: back) (by simp)
      rw [cableCounts?, first]
      simp [digitRun?_eq_some_iff.2 ⟨rfl, hf⟩, digitRun?_eq_some_iff.2 ⟨rfl, hb⟩]

theorem cableLiteral?_eq_some_iff {first last : Char} {word literal : List Char} :
    WordClass.cableLiteral? first last word = some literal ↔
      ∃ front back, IsDigitRun front ∧ IsDigitRun back ∧ literal = front ++ ',' :: back ∧
        (word = first :: front ++ [last] ∧ back = front ∨
          word = first :: front ++ '/' :: back ++ [last]) := by
  simp only [WordClass.cableLiteral?, Option.map_eq_some_iff, Option.bind_eq_some_iff,
    afterHead?_eq_some, beforeTail?_eq_some, Prod.exists, cableCounts?_eq_some_iff]
  constructor
  · rintro ⟨front, back, ⟨inner, ⟨rest, rfl, rfl⟩, hf, hb, ⟨rfl, rfl⟩ | rfl⟩, rfl⟩
    · exact ⟨_, _, hf, hb, rfl, .inl ⟨by simp, rfl⟩⟩
    · exact ⟨_, _, hf, hb, rfl, .inr (by simp)⟩
  · rintro ⟨front, back, hf, hb, rfl, ⟨rfl, rfl⟩ | rfl⟩
    · exact ⟨_, _, ⟨_, ⟨_, rfl, rfl⟩, hf, hb, .inl ⟨rfl, rfl⟩⟩, rfl⟩
    · exact ⟨front, back, ⟨front ++ '/' :: back, ⟨front ++ '/' :: back ++ [last], by simp, rfl⟩,
        hf, hb, .inr rfl⟩, rfl⟩

theorem foldedDigits?_eq_some_iff {a b : Char} {word ds : List Char} :
    WordClass.foldedDigits? a b word = some ds ↔
      ∃ c d, c.toLower = a ∧ d.toLower = b ∧ word = c :: d :: ds ∧ IsDigitRun ds := by
  constructor
  · intro h
    unfold WordClass.foldedDigits? at h
    split at h
    · rename_i c d rest
      split at h
      · rename_i folded
        obtain ⟨rfl, hds⟩ := digitRun?_eq_some_iff.1 h
        exact ⟨c, d, folded.1, folded.2, rfl, hds⟩
      · cases h
    · cases h
  · rintro ⟨c, d, hc, hd, rfl, hds⟩
    simp [WordClass.foldedDigits?, hc, hd, digitRun?_eq_some_iff.2 ⟨rfl, hds⟩]

theorem capitalAfter?_eq_some_iff {head word literal : List Char} :
    WordClass.capitalAfter? head word = some literal ↔
      ∃ c : Char, c.isUpper ∧ literal = [c] ∧ word = head ++ [c] := by
  constructor
  · intro h
    unfold WordClass.capitalAfter? at h
    split at h
    · rename_i c hword
      split at h
      · rename_i upper
        cases h
        exact ⟨c, upper, rfl, afterHead?_eq_some.1 hword⟩
      · cases h
    · cases h
  · rintro ⟨c, upper, rfl, rfl⟩
    simp [WordClass.capitalAfter?, afterHead?_eq_some.2 rfl, upper]

namespace Token

/-- What a literal of the token looks like. -/
def Literal (text : String) : Token → Prop
  | .integer | .knitTogether | .purlTogether | .castOn | .bindOff | .knitRun | .purlRun =>
    IsDigitRun text.toList
  | .cable _ =>
    ∃ front back, IsDigitRun front ∧ IsDigitRun back ∧ text.toList = front ++ ',' :: back
  | .placeMarker | .removeMarker => ∃ c : Char, c.isUpper ∧ text.toList = [c]
  | .identifier => IsName text
  | .endOfInput => False
  | _ => True

end Token

def Lexeme.WellSpelled (l : Lexeme) : Prop := l.token.Literal l.literal

theorem Lexeme.WellSpelled.ne_endOfInput {l : Lexeme} (h : l.WellSpelled) :
    l.token ≠ .endOfInput := by
  intro finish
  rw [WellSpelled, finish] at h
  exact h

theorem WordClass.literal_token {k : WordClass} {word literal : List Char}
    (h : k.literal? word = some literal) : k.token.Literal (String.ofList literal) := by
  cases k with
  | cable crossing =>
    have h' : ∃ first last, cableLiteral? first last word = some literal := by
      cases crossing <;> exact ⟨_, _, h⟩
    obtain ⟨first, last, h'⟩ := h'
    obtain ⟨front, back, hf, hb, rfl, -⟩ := cableLiteral?_eq_some_iff.1 h'
    exact ⟨front, back, hf, hb, by simp⟩
  | knitTogether | purlTogether | knitRun | purlRun =>
    obtain ⟨-, hds⟩ := digitsBetween?_eq_some_iff.1 h
    simpa [token, Token.Literal] using hds
  | castOn | bindOff =>
    obtain ⟨c, d, -, -, -, hds⟩ := foldedDigits?_eq_some_iff.1 h
    simpa [token, Token.Literal] using hds
  | placeMarker | removeMarker =>
    obtain ⟨c, upper, rfl, -⟩ := capitalAfter?_eq_some_iff.1 h
    exact ⟨c, upper, by simp⟩

theorem classIn_eq_some {classes : List WordClass} {word : List Char} {t : Token}
    {literal : List Char} (h : classIn classes word = some (t, literal)) :
    ∃ k ∈ classes, k.literal? word = some literal ∧ t = k.token := by
  obtain ⟨k, hk, hl⟩ := List.exists_of_findSome?_eq_some h
  obtain ⟨l, hl, heq⟩ := Option.map_eq_some_iff.1 hl
  cases heq
  exact ⟨k, hk, hl, rfl⟩

theorem mem_of_lookup_keywords {text : String} {t : Token} (h : keywords.lookup text = some t) :
    t ∈ keywords.map Prod.snd := by
  obtain ⟨before, after, hk, -⟩ := List.lookup_eq_some_iff.1 h
  rw [hk]
  simp

/-- A word that is in no class is a keyword or a name. -/
theorem classify_mem_of_classIn_eq_none {word : List Char} (h : classIn WordClass.all word = none) :
    (classify word).1 ∈ Token.identifier :: keywords.map Prod.snd := by
  rw [classify, h]
  cases known : keywords.lookup (String.ofList word) with
  | none => exact List.mem_cons_self
  | some t => exact List.mem_cons_of_mem _ (mem_of_lookup_keywords known)

theorem wellSpelled_word {word : List Char} (h : pieces word = [⟨.word, word⟩]) :
    (classify word).1.Literal (classify word).2 := by
  unfold classify
  split
  · rename_i t literal hclass
    obtain ⟨k, -, hl, rfl⟩ := classIn_eq_some hclass
    exact k.literal_token hl
  · rename_i hclass
    cases hkey : keywords.lookup (String.ofList word) with
    | none =>
      have name : (classify word).1 = .identifier := by simp [classify, hclass, hkey]
      exact ⟨by simpa using h, by simpa using name⟩
    | some t =>
      have known := mem_of_lookup_keywords hkey
      simp only [keywords, List.map_cons, List.map_nil, List.mem_cons, List.not_mem_nil,
        or_false] at known
      rcases known with rfl | rfl | rfl | rfl | rfl | rfl <;> trivial

namespace Piece

def BeginsWord (c : Char) : Prop :=
  ∀ cs, first c cs = (⟨.word, c :: cs.takeWhile isWordChar⟩, cs.dropWhile isWordChar)

theorem punctuation?_ne {c : Char} {kind : PieceKind} (h : punctuation? c = some kind) :
    (kind ≠ .word ∧ kind ≠ .integer) ∧ kind ≠ .blank ∧ kind ≠ .comment := by
  unfold punctuation? at h
  split at h <;> cases h <;> decide

theorem beginsWord_of {c : Char} (blank : isBlank c = false) (punctuation : punctuation? c = none)
    (digit : c.isDigit = false) (letter : isLetter c = true) : BeginsWord c := by
  intro cs
  have slash : c ≠ '/' := by
    rintro rfl
    exact absurd letter (by decide +kernel)
  simp [first, blank, punctuation, digit, letter, slash]

/-- A piece that is a word or a number begins with a letter or a digit. -/
theorem first_cases (c : Char) (cs : List Char) :
    BeginsWord c ∨ (first c cs).1 = ⟨.integer, c :: cs.takeWhile Char.isDigit⟩ ∧ c.isDigit ∨
      (first c cs).1.kind ≠ .word ∧ (first c cs).1.kind ≠ .integer := by
  cases blank : isBlank c with
  | true => exact .inr (.inr (by simp [first, blank]))
  | false =>
    cases punctuation : punctuation? c with
    | some kind =>
      right; right
      simpa [first, blank, punctuation] using (punctuation?_ne punctuation).1
    | none =>
      by_cases slashes : c = '/' ∧ cs.head? = some '/'
      · have comment : first c cs = (⟨.comment, c :: (takeLine cs).1⟩, (takeLine cs).2) := by
          simp only [first, blank, Bool.false_eq_true, if_false, punctuation, if_pos slashes]
        exact .inr (.inr (by simp [comment]))
      · cases digit : c.isDigit with
        | true => exact .inr (.inl (by simp [first, blank, punctuation, slashes, digit]))
        | false =>
          cases letter : isLetter c with
          | true => exact .inl (beginsWord_of blank punctuation digit letter)
          | false =>
            exact .inr (.inr (by simp [first, blank, punctuation, slashes, digit, letter]))

theorem pieces_word {c : Char} {cs : List Char} (h : BeginsWord c)
    (all : ∀ d ∈ cs, isWordChar d = true) : pieces (c :: cs) = [⟨.word, c :: cs⟩] := by
  rw [pieces, h, List.takeWhile_eq_self_iff.2 all, List.dropWhile_eq_nil_iff.2 all, pieces]

/-- A word that a piece of a source holds is one word by itself. -/
theorem pieces_of_beginsWord {c : Char} (h : BeginsWord c) (cs : List Char) :
    pieces (c :: cs.takeWhile isWordChar) = [⟨.word, c :: cs.takeWhile isWordChar⟩] :=
  pieces_word h (List.all_eq_true.1 List.all_takeWhile)

/-- The text of a number is digits, and the text of a word is one word. -/
def WellFormed (p : Piece) : Prop :=
  (p.kind = .integer → IsDigitRun p.text) ∧ (p.kind = .word → pieces p.text = [⟨.word, p.text⟩])

theorem wellFormed_first (c : Char) (cs : List Char) : (first c cs).1.WellFormed := by
  obtain begins | ⟨integer, digit⟩ | ⟨noWord, noInteger⟩ := first_cases c cs
  · rw [begins cs]
    exact ⟨nofun, fun _ => pieces_of_beginsWord begins cs⟩
  · rw [integer]
    exact ⟨fun _ => ⟨by simp, by simp [digit]⟩, nofun⟩
  · exact ⟨fun h => absurd h noInteger, fun h => absurd h noWord⟩

theorem wellFormed_of_mem_pieces {cs : List Char} {p : Piece} (h : p ∈ pieces cs) :
    p.WellFormed := by
  fun_induction pieces cs with
  | case1 => cases h
  | case2 c cs ih =>
    rcases List.mem_cons.1 h with rfl | h
    · exact wellFormed_first c cs
    · exact ih h

end Piece

theorem Lexeme.wellSpelled_ofPiece {piece : Piece} (h : piece.WellFormed) (p : Position) :
    (ofPiece p piece).WellSpelled := by
  obtain ⟨kind, text⟩ := piece
  obtain ⟨integer, word⟩ := h
  cases kind with
  | integer => simpa [WellSpelled, ofPiece, Token.Literal] using integer rfl
  | word => exact wellSpelled_word (word rfl)
  | _ => trivial

theorem LexemeStream.wellSpelled_ofPieces {ps : List Piece} (formed : ∀ p ∈ ps, p.WellFormed)
    (p : Position) : ∀ l ∈ (ofPieces p ps).lexemes, l.WellSpelled := by
  induction ps generalizing p with
  | nil => simp [ofPieces]
  | cons piece ps ih =>
    have here := formed piece List.mem_cons_self
    have later := ih fun q hq => formed q (List.mem_cons_of_mem piece hq)
    unfold ofPieces
    split
    · exact later _
    · exact later _
    · intro l hl
      rcases List.mem_cons.1 hl with rfl | hl
      · trivial
      · exact later _ l hl
    · intro l hl
      rcases List.mem_cons.1 hl with rfl | hl
      · exact Lexeme.wellSpelled_ofPiece here p
      · exact later _ l hl

theorem LexemeStream.wellSpelled_ofSource (source : String) :
    ∀ l ∈ (ofSource source).lexemes, l.WellSpelled :=
  wellSpelled_ofPieces (fun _ => Piece.wellFormed_of_mem_pieces) .start

/-- The lexemes before the first end of input are all the lexemes of the source. -/
theorem tokenize_takeWhile (source : String) :
    (tokenize source).takeWhile (·.token ≠ .endOfInput) =
      (LexemeStream.ofSource source).lexemes := by
  have before : ∀ l ∈ (LexemeStream.ofSource source).lexemes,
      decide (l.token ≠ .endOfInput) = true := by
    intro l hl
    rw [decide_eq_true_iff]
    exact (LexemeStream.wellSpelled_ofSource source l hl).ne_endOfInput
  rw [tokenize, LexemeStream.toList, List.takeWhile_append_of_pos before]
  simp [Lexeme.endAt]

end Knitting
