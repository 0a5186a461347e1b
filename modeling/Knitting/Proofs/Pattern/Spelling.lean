import Knitting.Proofs.Source.Classes
import Knitting.Proofs.Source.Spaced
import Knitting.Proofs.Pattern.Writable

/-! # Canonical spelling

A pattern is written down part by part, with a blank between any two parts. A part is a word, a
bracket, the end of a row, or a repeat suffix with its count.
-/
namespace Knitting
open Text

def digits (n : UInt32) : List Char := Nat.toDigits 10 n.toNat

def Stitch.word : Stitch → List Char
  | .knit => ['k']
  | .purl => ['p']
  | .slipSlipKnit => ['s', 's', 'k']
  | .yarnOver => ['y', 'o']
  | .knitTogether n => 'k' :: digits n ++ ['t', 'o', 'g']
  | .purlTogether n => 'p' :: digits n ++ ['t', 'o', 'g']
  | .castOn n => 'c' :: 'o' :: digits n
  | .bindOff n => 'b' :: 'o' :: digits n
  | .cable .knitForward front back => 'c' :: digits front ++ '/' :: digits back ++ ['r']
  | .cable .knitBackward front back => 'c' :: digits front ++ '/' :: digits back ++ ['l']
  | .cable .purlForward front back => 'p' :: digits front ++ '/' :: digits back ++ ['r']
  | .cable .purlBackward front back => 'p' :: digits front ++ '/' :: digits back ++ ['l']

def MarkerAction.word : MarkerAction → List Char
  | .place name => ['m', name]
  | .remove name => ['r', 'm', name]

namespace Expr

mutual

def parts : Expr → List (List Char)
  | .stitch s => [s.word]
  | .group es => ['('] :: partsAll es ++ [[')']]
  | .times content n =>
    match content.runLetter? with
    | some letter => [letter :: digits n]
    | none => content.parts ++ ['*' :: digits n]
  | .leaving content n => content.parts ++ ['*' :: '-' :: digits n]
  | .marker action => [action.word]

def partsAll : List Expr → List (List Char)
  | [] => []
  | e :: es => e.parts ++ partsAll es

end

end Expr

def Row.parts (r : Row) : List (List Char) := Expr.partsAll r.content ++ [[';']]

/-- A word, what is said with it, and parts in braces. -/
def braced (word : String) (label : List Char) (inside : List (List Char)) : List (List Char) :=
  word.toList :: label :: ['{'] :: (inside ++ [['}']])

def Block.parts (b : Block) : List (List Char) :=
  braced "repeat" (digits b.count) (b.rows.flatMap Row.parts)

def Item.parts : Item → List (List Char)
  | .row r => r.parts
  | .block b => b.parts

def Section.parts (s : Section) : List (List Char) :=
  braced "section" s.name.toList (s.content.flatMap Item.parts)

def spelling (pattern : List Section) : String :=
  String.ofList ([' '].intercalate (pattern.flatMap Section.parts))

theorem isDigitRun_digits (n : UInt32) : IsDigitRun (digits n) := by
  refine ⟨Nat.toDigits_ne_nil, List.all_eq_true.2 ?_⟩
  exact fun d hd => Nat.isDigit_of_mem_toDigits (by decide) (by decide) hd

theorem decimalValue_digits (n : UInt32) : decimalValue (digits n) = n.toNat :=
  Nat.ofDigitChars_toDigits (by decide) (by decide)

/-- The letters that the words of the spelling begin with. -/
def initials : List Char := ['b', 'c', 'k', 'm', 'p', 'r', 's', 'y']

theorem beginsWord_of_mem {c : Char} (h : c ∈ initials) : Piece.BeginsWord c := by
  simp only [initials, List.mem_cons, List.not_mem_nil, or_false] at h
  rcases h with rfl | rfl | rfl | rfl | rfl | rfl | rfl | rfl <;>
    exact Piece.beginsWord_of (by decide) rfl (by decide) (isLetter_of_isAlpha (by decide))

/-- The ASCII characters that go on with a word. -/
def isPlainLetter (c : Char) : Bool := c.isAlpha || c.isDigit || c == '/'

theorem isWordChar_of_isPlainLetter {c : Char} (h : isPlainLetter c = true) :
    isWordChar c = true := by
  rw [isPlainLetter, Bool.or_eq_true, Bool.or_eq_true, beq_iff_eq] at h
  rcases h with (letter | digit) | rfl
  · simp [isWordChar, isLetter_of_isAlpha letter]
  · simp [isWordChar, isDecimalDigit_of_isDigit digit]
  · simp [isWordChar]

theorem all_isPlainLetter_digits (n : UInt32) : (digits n).all isPlainLetter = true := by
  have all := List.all_eq_true.1 (isDigitRun_digits n).2
  exact List.all_eq_true.2 fun d hd => by simp [isPlainLetter, all d hd]

theorem pieces_of_letters {word : List Char} {c : Char} (head : word.head? = some c)
    (first : c ∈ initials) (all : word.all isPlainLetter = true) :
    pieces word = [⟨.word, word⟩] := by
  cases word with
  | nil => cases head
  | cons c cs =>
    cases head
    have letters := List.all_eq_true.1 all
    exact Piece.pieces_word (beginsWord_of_mem first) fun d hd =>
      isWordChar_of_isPlainLetter (letters d (List.mem_cons_of_mem c hd))

namespace Stitch

theorem letters_word (s : Stitch) : s.word.all isPlainLetter = true := by
  have run := all_isPlainLetter_digits
  cases s with
  | cable crossing front back =>
    cases crossing <;>
      simp only [word, List.cons_append, List.all_cons, List.all_append, run] <;> rfl
  | knitTogether n | purlTogether n | castOn n | bindOff n =>
    simp only [word, List.cons_append, List.all_cons, List.all_append, run]
    rfl
  | _ => rfl

theorem pieces_word (s : Stitch) : pieces s.word = [⟨.word, s.word⟩] := by
  have head : ∃ c, c ∈ initials ∧ s.word.head? = some c := by
    cases s with
    | cable crossing front back => cases crossing <;> exact ⟨_, by decide, rfl⟩
    | _ => exact ⟨_, by decide, rfl⟩
  obtain ⟨c, first, head⟩ := head
  exact pieces_of_letters head first s.letters_word

end Stitch

theorem pieces_run {e : Expr} {letter : Char} (h : e.runLetter? = some letter) {ds : List Char}
    (run : IsDigitRun ds) : pieces (letter :: ds) = [⟨.word, letter :: ds⟩] := by
  have first : letter ∈ initials := by
    unfold Expr.runLetter? at h
    split at h <;> cases h <;> decide
  have digits := List.all_eq_true.1 run.2
  exact Piece.pieces_word (beginsWord_of_mem first) fun d hd => by
    simp [isWordChar, isDecimalDigit_of_isDigit (digits d hd)]

theorem MarkerAction.pieces_word {a : MarkerAction} (h : a.name.isUpper) :
    pieces a.word = [⟨.word, a.word⟩] := by
  have letter : isPlainLetter a.name = true := by simp [isPlainLetter, isAlpha_of_isUpper h]
  cases a with
  | place name =>
    have letter : isPlainLetter name = true := letter
    exact pieces_of_letters (c := 'm') rfl (by decide)
      (by rw [word, List.all_cons, List.all_cons, letter]; rfl)
  | remove name =>
    have letter : isPlainLetter name = true := letter
    exact pieces_of_letters (c := 'r') rfl (by decide)
      (by rw [word, List.all_cons, List.all_cons, List.all_cons, letter]; rfl)

namespace Lexeme

variable {l : Lexeme}

theorem eq_of_bare {t : Token} {literal : String} (h : l.bare = (t, literal)) :
    l.token = t ∧ l.literal = literal := Prod.mk.inj h

theorem number_of_class {k : WordClass} {word ds : List Char} {n : UInt32}
    (h : k.literal? word = some ds) (value : decimalValue ds = n.toNat)
    (bare : l.bare = classify word) : l.token = k.token ∧ count32? l.number = some n := by
  rw [classify_of_literal? h] at bare
  obtain ⟨token, literal⟩ := eq_of_bare bare
  refine ⟨token, ?_⟩
  rw [number, literal, String.toList_ofList, value]
  exact count32?_eq_some_iff.2 rfl

theorem halves_of_class {c : Crossing} {word : List Char} {f b : UInt32}
    (h : (WordClass.cable c).literal? word = some (digits f ++ ',' :: digits b))
    (bare : l.bare = classify word) :
    l.token = .cable c ∧ count32? l.front = some f ∧ count32? l.back = some b := by
  rw [classify_of_literal? h] at bare
  obtain ⟨token, literal⟩ := eq_of_bare bare
  rw [← String.toList_inj, String.toList_ofList] at literal
  obtain ⟨before, behind⟩ := halves (isDigitRun_digits f) literal
  rw [front, back, before, behind, List.drop_one, List.tail_cons, decimalValue_digits,
    decimalValue_digits]
  exact ⟨token, count32?_eq_some_iff.2 rfl, count32?_eq_some_iff.2 rfl⟩

theorem literal?_cable (c : Crossing) (f b : UInt32) :
    (WordClass.cable c).literal? (Stitch.cable c f b).word =
      some (digits f ++ ',' :: digits b) := by
  have run := isDigitRun_digits
  cases c <;>
    exact cableLiteral?_eq_some_iff.2 ⟨_, _, run f, run b, rfl, .inr (by simp [Stitch.word])⟩

/-- The word of a stitch stands for that stitch. -/
theorem unit?_of_word {s : Stitch} (bare : l.bare = classify s.word) :
    l.unit? = some (.stitch s) := by
  have run := isDigitRun_digits
  cases s with
  | knit | purl | slipSlipKnit | yarnOver =>
    have token : l.token = _ := congrArg Prod.fst bare
    unfold unit?
    rw [token]
    rfl
  | knitTogether n =>
    obtain ⟨token, count⟩ := number_of_class (k := .knitTogether)
      (digitsBetween?_eq_some_iff.2 ⟨rfl, run n⟩) (decimalValue_digits n) bare
    simp [unit?, token, WordClass.token, count]
  | purlTogether n =>
    obtain ⟨token, count⟩ := number_of_class (k := .purlTogether)
      (digitsBetween?_eq_some_iff.2 ⟨rfl, run n⟩) (decimalValue_digits n) bare
    simp [unit?, token, WordClass.token, count]
  | castOn n =>
    obtain ⟨token, count⟩ := number_of_class (k := .castOn)
      (foldedDigits?_eq_some_iff.2 ⟨'c', 'o', by decide, by decide, rfl, run n⟩)
      (decimalValue_digits n) bare
    simp [unit?, token, WordClass.token, count]
  | bindOff n =>
    obtain ⟨token, count⟩ := number_of_class (k := .bindOff)
      (foldedDigits?_eq_some_iff.2 ⟨'b', 'o', by decide, by decide, rfl, run n⟩)
      (decimalValue_digits n) bare
    simp [unit?, token, WordClass.token, count]
  | cable c f b =>
    obtain ⟨token, front, back⟩ := halves_of_class (literal?_cable c f b) bare
    simp [unit?, token, front, back]

/-- A run stands for an exact repeat. -/
theorem unit?_of_run {e : Expr} {letter : Char} (h : e.runLetter? = some letter)
    {ds : List Char} (run : IsDigitRun ds) {n : UInt32} (value : decimalValue ds = n.toNat)
    (bare : l.bare = classify (letter :: ds)) : l.unit? = some (.times e n) := by
  unfold Expr.runLetter? at h
  split at h
  · cases h
    obtain ⟨token, count⟩ := number_of_class (k := .knitRun)
      (digitsBetween?_eq_some_iff.2 ⟨by simp, run⟩) value bare
    simp [unit?, token, WordClass.token, count]
  · cases h
    obtain ⟨token, count⟩ := number_of_class (k := .purlRun)
      (digitsBetween?_eq_some_iff.2 ⟨by simp, run⟩) value bare
    simp [unit?, token, WordClass.token, count]
  · cases h

theorem action?_of_word {a : MarkerAction} (upper : a.name.isUpper)
    (bare : l.bare = classify a.word) : l.action? = some a := by
  cases a with
  | place name =>
    have literal : WordClass.placeMarker.literal? ['m', name] = some [name] := by
      simpa [WordClass.literal?, capitalAfter?_eq_some_iff, MarkerAction.name] using upper
    rw [MarkerAction.word, classify_of_literal? literal] at bare
    obtain ⟨token, literal⟩ := eq_of_bare bare
    simp [action?, token, WordClass.token, literal]
  | remove name =>
    have literal : WordClass.removeMarker.literal? ['r', 'm', name] = some [name] := by
      simpa [WordClass.literal?, capitalAfter?_eq_some_iff, MarkerAction.name] using upper
    rw [MarkerAction.word, classify_of_literal? literal] at bare
    obtain ⟨token, literal⟩ := eq_of_bare bare
    simp [action?, token, WordClass.token, literal]

theorem name?_of_isName {name : String} (h : IsName name)
    (bare : l.bare = classify name.toList) : l.name? = some name := by
  rw [classify_of_identifier h.2, String.ofList_toList] at bare
  exact name?_eq_some_iff.2 (eq_of_bare bare)

theorem count?_of_digits {n : UInt32} (bare : l.bare = (.integer, String.ofList (digits n))) :
    l.count? = some n := by
  obtain ⟨token, literal⟩ := eq_of_bare bare
  refine count?_eq_some_iff.2 ⟨token, ?_⟩
  rw [number, literal, String.toList_ofList, decimalValue_digits]
  exact count32?_eq_some_iff.2 rfl

end Lexeme

end Knitting
