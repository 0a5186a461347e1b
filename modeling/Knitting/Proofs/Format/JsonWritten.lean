import Knitting.Format.Document
import Knitting.Format.JsonToken
import Mathlib.Data.Nat.Digits.Defs

/-! # JSON cut into tokens again

A text that was written between quotes, and a natural number of 64 bits that was written in decimal,
are each one token when they are read again: escapes come back as the characters they stand for, and
a number of that size is far from the range of double precision.
-/
namespace Knitting
open Text

theorem head?_toDigits_ne_zero {n : Nat} (h : 10 ≤ n) : (Nat.toDigits 10 n).head? ≠ some '0' := by
  induction n using Nat.strong_induction_on with
  | _ n ih =>
    have front : (Nat.toDigits 10 n).head? = (Nat.toDigits 10 (n / 10)).head? := by
      rw [Nat.toDigits_of_base_le (by decide) h, List.head?_append]
      cases digits : Nat.toDigits 10 (n / 10) with
      | nil => exact absurd digits Nat.toDigits_ne_nil
      | cons d ds => rfl
    rw [front]
    by_cases more : 10 ≤ n / 10
    · exact ih (n / 10) (by omega) more
    · have digit : ∀ d : Fin 10, d.val ≠ 0 → d.val.digitChar ≠ '0' := by decide
      have small : n / 10 < 10 := by omega
      rw [Nat.toDigits_of_lt_base small, List.head?_cons, ne_eq, Option.some.injEq]
      apply digit ⟨n / 10, small⟩
      dsimp only
      omega

namespace Double

theorem exponentOf_one_le {n k : Nat} (positive : n ≠ 0) (h : n < 2 ^ k) :
    exponentOf n 1 ≤ k := by
  have bits := (Nat.log2_lt positive).2 h
  have one : Nat.log2 1 = 0 := by decide
  simp only [exponentOf, one, mantissaBits, minExponent]
  split <;> omega

theorem ofRatio_one_ne_infinite {n : Nat} (positive : n ≠ 0) (h : n < 2 ^ 64) (negative : Bool) :
    ofRatio negative n 1 ≠ .infinite negative := by
  have exponent := exponentOf_one_le positive h
  have here : ¬maxExponent < exponentOf n 1 := by
    rw [maxExponent]
    omega
  have next : ¬maxExponent < exponentOf n 1 + 1 := by
    rw [maxExponent]
    omega
  rw [ofRatio]
  dsimp only
  by_cases full : roundHalfEven (scaled n 1 (exponentOf n 1)).1 (scaled n 1 (exponentOf n 1)).2 =
      powerOfTwo mantissaBits
  · simp [full, next]
  · simp [full, here]

/-- A number of 64 bits is in the range of double precision. -/
theorem ofDecimal_ne_infinite {n : Nat} (h : n < 2 ^ 64) (negative : Bool) :
    ofDecimal ⟨negative, n, 0⟩ ≠ .infinite negative := by
  have digits : Decimal.digitCount n ≤ 20 :=
    Nat.toDigits_length 10 n 20 (by decide) (Nat.lt_trans h (by decide))
  have short : ¬(310 : Int) < (⟨negative, n, 0⟩ : Decimal).size := by
    simp only [Decimal.size]
    omega
  by_cases zero : n = 0
  · simp [ofDecimal, zero]
  · have long : ¬(⟨negative, n, 0⟩ : Decimal).size < -330 := by
      simp only [Decimal.size]
      omega
    have ratio := ofRatio_one_ne_infinite zero h negative
    simpa [ofDecimal, zero, short, long, Decimal.powerOfTen] using ratio

end Double

namespace Json

namespace TextUnit

theorem hexNumber?_control {n : Nat} (h : n < 0x20) :
    hexNumber? ['0', '0', hexDigit (n / 16), hexDigit n] = some n := by
  have all : ∀ k : Fin 0x20, hexNumber? ['0', '0', hexDigit (k.val / 16), hexDigit k.val] =
      some k.val := by decide
  exact all ⟨n, h⟩

/-- A character that was escaped is read as itself. -/
theorem scan_escapeChar (c : Char) (cs : List Char) :
    scan (escapeChar c ++ cs) = (.char c :: (scan cs).1, (scan cs).2) := by
  unfold escapeChar
  split_ifs with quote backslash line carriage tab back feed control
  · subst quote
    rfl
  · subst backslash
    rfl
  · subst line
    rfl
  · subst carriage
    rfl
  · subst tab
    rfl
  · subst back
    rfl
  · subst feed
    rfl
  · have small : ¬(0xD800 ≤ c.toNat ∧ c.toNat ≤ 0xDFFF) := by omega
    simp only [List.cons_append, List.nil_append]
    rw [scan, hexNumber?_control control]
    simp [ofNat, small]
  · simp only [List.singleton_append]
    rw [scan]
    · simp [control]
    all_goals simp_all

theorem scan_escaped (s rest : List Char) :
    scan (s.flatMap escapeChar ++ '"' :: rest) = (s.map .char, .ok rest) := by
  induction s with
  | nil => simp [scan]
  | cons c s ih => rw [List.flatMap_cons, List.append_assoc, scan_escapeChar, ih, List.map_cons]

theorem join_chars (s : List Char) : join none (s.map .char) = .ok s := by
  induction s with
  | nil => rfl
  | cons c s ih => rw [List.map_cons, join, ih, Except.map]

end TextUnit

theorem tokens_quote (s : String) (rest : List Char) :
    tokens ((quote s).toList ++ rest) = .text (.ok s) none :: tokens rest := by
  have scanned := TextUnit.scan_escaped s.toList rest
  have first : Token.first '"' (s.toList.flatMap escapeChar ++ '"' :: rest) =
      (.text (.ok s) none, rest) := by
    simp [Token.first, takeText, scanned, TextUnit.join_chars, Except.map]
  rw [quote, String.toList_ofList, List.cons_append, List.append_assoc, List.singleton_append,
    tokens, if_neg (by decide), first]

def isMark (c : Char) : Bool := c ∈ [',', ':', '[', ']', '\x7b', '\x7d']

theorem tokens_mark {c : Char} (h : isMark c) (rest : List Char) :
    tokens (c :: rest) = .mark c :: tokens rest := by
  have all : ∀ c ∈ [',', ':', '[', ']', '\x7b', '\x7d'],
      isSpace c = false ∧ Token.first c rest = (.mark c, rest) := by
    simp only [List.forall_mem_cons]
    exact ⟨⟨rfl, rfl⟩, ⟨rfl, rfl⟩, ⟨rfl, rfl⟩, ⟨rfl, rfl⟩, ⟨rfl, rfl⟩, ⟨rfl, rfl⟩, nofun⟩
  obtain ⟨notSpace, first⟩ := all c (of_decide_eq_true h)
  rw [tokens, notSpace, first]
  rfl

theorem ends_of_isMark {c : Char} (h : isMark c) :
    c.isDigit = false ∧ c ≠ '.' ∧ c ≠ 'e' ∧ c ≠ 'E' := by
  have mem : c ∈ [',', ':', '[', ']', '\x7b', '\x7d'] := of_decide_eq_true h
  simp only [List.mem_cons, List.not_mem_nil, or_false] at mem
  rcases mem with rfl | rfl | rfl | rfl | rfl | rfl <;> decide

theorem token_natural {n : Nat} (h : n < 2 ^ 64) :
    Numeral.token ⟨false, Nat.toDigits 10 n, [], none⟩ = .number (.ok (some n)) none := by
  have value : decimalValue (Nat.toDigits 10 n) = n :=
    Nat.ofDigitChars_toDigits (by decide) (by decide)
  have finite := Double.ofDecimal_ne_infinite h false
  have size : ¬UInt64.size ≤ n := Nat.not_le.2 h
  simp [Numeral.token, Numeral.toDouble, Decimal.ofParts, Numeral.natural?, value, finite, size]

theorem takeFraction_mark (n : Numeral) {c : Char} (h : isMark c) (rest : List Char) :
    takeFraction n (c :: rest) = (n.token, c :: rest) := by
  obtain ⟨-, point, power, power'⟩ := ends_of_isMark h
  rw [takeFraction, takePower]
  all_goals simp_all

/-- The digits of a number are not taken for a number with a leading zero. -/
theorem takeNumber_natural {n : Nat} (h : n < 2 ^ 64) {c : Char} (mark : isMark c)
    (rest : List Char) :
    takeNumber false (Nat.toDigits 10 n ++ c :: rest) =
      (.number (.ok (some n)) none, c :: rest) := by
  have digits : ∀ d ∈ Nat.toDigits 10 n, d.isDigit = true :=
    fun d hd => Nat.isDigit_of_mem_toDigits (by decide) (by decide) hd
  have stop := (ends_of_isMark mark).1
  have whole : (Nat.toDigits 10 n ++ c :: rest).takeWhile Char.isDigit = Nat.toDigits 10 n := by
    rw [List.takeWhile_append_of_pos digits, List.takeWhile_cons_of_neg (by simp [stop]),
      List.append_nil]
  have behind : (Nat.toDigits 10 n ++ c :: rest).dropWhile Char.isDigit = c :: rest := by
    rw [List.dropWhile_append_of_pos digits, List.dropWhile_cons_of_neg (by simp [stop])]
  have leading : ¬((Nat.toDigits 10 n).head? = some '0' ∧ 1 < (Nat.toDigits 10 n).length) := by
    rintro ⟨zero, long⟩
    by_cases one : n < 10
    · rw [Nat.toDigits_of_lt_base one] at long
      exact absurd long (by simp)
    · exact head?_toDigits_ne_zero (Nat.le_of_not_lt one) zero
  rw [takeNumber, whole, behind, if_neg (by simp [Nat.toDigits_ne_nil]), if_neg leading,
    takeFraction_mark _ mark, token_natural h]

theorem tokens_natural {n : Nat} (h : n < 2 ^ 64) {c : Char} (mark : isMark c)
    (rest : List Char) :
    tokens ((toString n).toList ++ c :: rest) =
      .number (.ok (some n)) none :: .mark c :: tokens rest := by
  have taken := takeNumber_natural h mark rest
  have digits : (toString n).toList = Nat.toDigits 10 n := Nat.toList_repr
  rw [digits]
  cases written : Nat.toDigits 10 n with
  | nil => exact absurd written Nat.toDigits_ne_nil
  | cons d ds =>
    have digit : d.isDigit = true :=
      Nat.isDigit_of_mem_toDigits (by decide) (by decide) (written ▸ List.mem_cons_self)
    have other : ∀ e : Char, e.isDigit = false → d ≠ e := by
      rintro e none rfl
      rw [digit] at none
      contradiction
    have notSpace : isSpace d = false := by
      simp [isSpace, other ' ' rfl, other '\n' rfl, other '\t' rfl, other '\r' rfl]
    have first : Token.first d (ds ++ c :: rest) = (.number (.ok (some n)) none, c :: rest) := by
      rw [written, List.cons_append] at taken
      rw [Token.first, if_neg (other '"' rfl), if_neg (other '-' rfl), if_pos digit, taken]
    rw [List.cons_append, tokens, notSpace, first]
    simp [tokens_mark mark]

/-- The text is cut into these tokens wherever a mark follows it. -/
def Writes (s : String) (ts : List Token) : Prop :=
  ∀ c rest, isMark c → tokens (s.toList ++ c :: rest) = ts ++ .mark c :: tokens rest

theorem writes_quote (s : String) : Writes (quote s) [.text (.ok s) none] := by
  intro c rest mark
  rw [tokens_quote, tokens_mark mark]
  rfl

theorem writes_natural {n : Nat} (h : n < 2 ^ 64) :
    Writes (toString n) [.number (.ok (some n)) none] :=
  fun _ rest mark => tokens_natural h mark rest

section Joined

variable {s s' : String} {ts ts' : List Token}

theorem Writes.append {between : String} {c : Char} (only : between.toList = [c])
    (mark : isMark c) (h : Writes s ts) (h' : Writes s' ts') :
    Writes (s ++ between ++ s') (ts ++ .mark c :: ts') := by
  intro e rest ending
  simp only [String.toList_append, only, List.append_assoc, List.cons_append, List.nil_append]
  rw [h c _ mark, h' e _ ending]

theorem Writes.comma (h : Writes s ts) (h' : Writes s' ts') :
    Writes (s ++ "," ++ s') (ts ++ .mark ',' :: ts') := h.append rfl (by decide) h'

theorem Writes.field (name : String) (h : Writes s ts) :
    Writes (quote name ++ ":" ++ s) (.text (.ok name) none :: .mark ':' :: ts) :=
  (writes_quote name).append rfl (by decide) h

theorem tokens_record (h : Writes s ts) (rest : List Char) :
    tokens ((openBrace ++ s ++ closeBrace).toList ++ rest) =
      .mark '\x7b' :: (ts ++ .mark '\x7d' :: tokens rest) := by
  simp only [String.toList_append, openBrace, closeBrace, String.reduceToList, List.append_assoc,
    List.cons_append, List.nil_append]
  rw [tokens_mark (by decide), h _ _ (by decide)]

theorem Writes.record (h : Writes s ts) :
    Writes (openBrace ++ s ++ closeBrace) (.mark '\x7b' :: (ts ++ [.mark '\x7d'])) := by
  intro c rest mark
  rw [tokens_record h, tokens_mark mark]
  simp

end Joined

end Json
end Knitting
