import Knitting.Decimal.Double
import Knitting.Text.Hexadecimal

/-! # Tokens of JSON

A text is cut into tokens up to its first flaw, which stays in the token that has it. What
counts as a flaw depends on whether the value is wanted: a value that is passed over may escape
half of a surrogate pair, and may be a number of any size.
-/
namespace Knitting.Json
open Text

/-- Why a text does not give the value it should: it ends too early, it is not JSON, or it is
JSON of something else. -/
inductive Flaw where
  | unfinished
  | malformed
  | unsuitable
  deriving DecidableEq, Repr

/-- A token. A number gives its value if it is a natural number of 64 bits. The last argument is
the flaw that also counts where the value is not wanted. -/
inductive Token where
  | mark (c : Char)
  | word (flaw : Option Flaw)
  | number (value : Except Flaw (Option Nat)) (flaw : Option Flaw)
  | text (value : Except Flaw String) (flaw : Option Flaw)
  deriving Repr

inductive TextUnit where
  | char (c : Char)
  | surrogate (n : Nat)
  deriving DecidableEq, Repr

namespace TextUnit

def ofNat (n : Nat) : TextUnit :=
  if 0xD800 ≤ n ∧ n ≤ 0xDFFF then .surrogate n else .char (Char.ofNat n)

/-- The character that follows a backslash stands for. -/
def escaped? : Char → Option Char
  | '"' => some '"'
  | '\\' => some '\\'
  | '/' => some '/'
  | 'b' => some '\x08'
  | 'f' => some '\x0c'
  | 'n' => some '\n'
  | 'r' => some '\r'
  | 't' => some '\t'
  | _ => none

/-- The units of a quoted text whose opening quote has been taken, with what follows its closing
quote or its first flaw. -/
def scan : List Char → List TextUnit × Except Flaw (List Char)
  | [] => ([], .error .unfinished)
  | '"' :: cs => ([], .ok cs)
  | ['\\'] => ([], .error .unfinished)
  | '\\' :: 'u' :: a :: b :: c :: d :: cs =>
    match hexNumber? [a, b, c, d] with
    | some n => (ofNat n :: (scan cs).1, (scan cs).2)
    | none => ([], .error .malformed)
  | '\\' :: 'u' :: cs =>
    ([], .error (if (String.ofList cs).utf8ByteSize < 4 then .unfinished else .malformed))
  | '\\' :: e :: cs =>
    match escaped? e with
    | some c => (.char c :: (scan cs).1, (scan cs).2)
    | none => ([], .error .malformed)
  | c :: cs =>
    if c.toNat < 0x20 then ([], .error .malformed) else (.char c :: (scan cs).1, (scan cs).2)

theorem scan_rest_lt {cs rest : List Char} (h : (scan cs).2 = .ok rest) :
    rest.length < cs.length := by
  fun_induction scan cs <;> simp_all <;> omega

def isHigh (n : Nat) : Bool := n < 0xDC00

def joinPair (high low : Nat) : Char :=
  Char.ofNat (0x10000 + (high - 0xD800) * 0x400 + (low - 0xDC00))

/-- The characters of units: the halves of a pair stand side by side. A high half at the very
end fails as the text does, `flaw` being the flaw that follows. -/
def join (flaw : Option Flaw) : List TextUnit → Except Flaw (List Char)
  | [] => flaw.elim (.ok []) .error
  | .char c :: us => (join flaw us).map (c :: ·)
  | [.surrogate n] => .error (if isHigh n then flaw.getD .malformed else .malformed)
  | .surrogate high :: .surrogate low :: us =>
    if isHigh high ∧ ¬isHigh low then (join flaw us).map (joinPair high low :: ·)
    else .error .malformed
  | .surrogate _ :: .char _ :: _ => .error .malformed

end TextUnit

def takeText (cs : List Char) : Token × List Char :=
  match TextUnit.scan cs with
  | (us, .ok rest) => (.text ((TextUnit.join none us).map String.ofList) none, rest)
  | (us, .error f) => (.text ((TextUnit.join (some f) us).map String.ofList) (some f), [])

theorem takeText_rest_le (cs : List Char) : (takeText cs).2.length ≤ cs.length := by
  unfold takeText
  split
  · rename_i h
    exact Nat.le_of_lt (TextUnit.scan_rest_lt (congrArg Prod.snd h))
  · simp

structure Numeral where
  negative : Bool
  whole : List Char
  fraction : List Char
  exponent : Option Int
  deriving DecidableEq, Repr

namespace Numeral

def toDouble (n : Numeral) : Double :=
  .ofDecimal (.ofParts n.negative n.whole n.fraction (n.exponent.getD 0))

/-- The number, if it is written as a natural number and fits into 64 bits. -/
def natural? (n : Numeral) : Option Nat :=
  if n.negative ∨ n.fraction ≠ [] ∨ n.exponent.isSome ∨ UInt64.size ≤ decimalValue n.whole then none
  else some (decimalValue n.whole)

/-- The token of a number. It is flawed if it exceeds the range of double precision. -/
def token (n : Numeral) : Token :=
  .number (if n.toDouble = .infinite n.negative then .error .malformed else .ok n.natural?) none

end Numeral

/-- A number that misses a digit before `rest`. -/
def digitMissing (rest : List Char) : Token × List Char :=
  (.number (.error (if rest.isEmpty then .unfinished else .malformed)) (some .malformed), [])

/-- The power of ten of a number, whose `e` has been taken, and what follows it. -/
def takeExponent (n : Numeral) (cs : List Char) : Token × List Char :=
  let unsigned := match cs with
    | '+' :: r | '-' :: r => r
    | _ => cs
  let digits := unsigned.takeWhile Char.isDigit
  let value : Int := decimalValue digits
  if digits.isEmpty then digitMissing unsigned
  else
    (Numeral.token { n with exponent := some (if cs.head? = some '-' then -value else value) },
      unsigned.dropWhile Char.isDigit)

def takePower (n : Numeral) : List Char → Token × List Char
  | 'e' :: cs | 'E' :: cs => takeExponent n cs
  | cs => (n.token, cs)

def takeFraction (n : Numeral) : List Char → Token × List Char
  | '.' :: cs =>
    let digits := cs.takeWhile Char.isDigit
    if digits.isEmpty then digitMissing cs
    else takePower { n with fraction := digits } (cs.dropWhile Char.isDigit)
  | cs => takePower n cs

/-- A number without its sign. No digit follows a leading zero. -/
def takeNumber (negative : Bool) (cs : List Char) : Token × List Char :=
  let digits := cs.takeWhile Char.isDigit
  if digits.isEmpty then digitMissing cs
  else if digits.head? = some '0' ∧ 1 < digits.length then
    (.number (.error .malformed) (some .malformed), [])
  else takeFraction ⟨negative, digits, [], none⟩ (cs.dropWhile Char.isDigit)

theorem length_dropWhile_le (p : Char → Bool) (cs : List Char) :
    (cs.dropWhile p).length ≤ cs.length := (List.dropWhile_sublist p).length_le

theorem takeExponent_rest_le (n : Numeral) (cs : List Char) :
    (takeExponent n cs).2.length ≤ cs.length := by
  have unsigned_le : ∀ r : List Char, r.length ≤ cs.length →
      (r.dropWhile Char.isDigit).length ≤ cs.length :=
    fun r h => Nat.le_trans (length_dropWhile_le _ _) h
  unfold takeExponent
  split <;> dsimp only <;> split <;> simp_all [digitMissing]

theorem takePower_rest_le (n : Numeral) (cs : List Char) :
    (takePower n cs).2.length ≤ cs.length := by
  unfold takePower
  split
  · exact Nat.le_trans (takeExponent_rest_le _ _) (by simp)
  · exact Nat.le_trans (takeExponent_rest_le _ _) (by simp)
  · exact Nat.le_refl _

theorem takeFraction_rest_le (n : Numeral) (cs : List Char) :
    (takeFraction n cs).2.length ≤ cs.length := by
  unfold takeFraction
  split
  · rename_i cs
    dsimp only
    split
    · simp [digitMissing]
    · exact Nat.le_trans (takePower_rest_le _ _)
        (Nat.le_trans (length_dropWhile_le _ _) (by simp))
  · exact takePower_rest_le _ _

theorem takeNumber_rest_le (negative : Bool) (cs : List Char) :
    (takeNumber negative cs).2.length ≤ (cs.dropWhile Char.isDigit).length := by
  unfold takeNumber
  dsimp only
  split
  · simp [digitMissing]
  · split
    · simp
    · exact takeFraction_rest_le _ _

def takeWord : List Char → List Char → Token × List Char
  | [], cs => (.word none, cs)
  | _ :: _, [] => (.word (some .unfinished), [])
  | w :: ws, c :: cs => if w = c then takeWord ws cs else (.word (some .malformed), [])

theorem takeWord_rest_le (ws cs : List Char) : (takeWord ws cs).2.length ≤ cs.length := by
  fun_induction takeWord ws cs <;> grind

namespace Token

/-- The token that begins with `c`, and what follows it; nothing follows a flaw. -/
def first (c : Char) (cs : List Char) : Token × List Char :=
  if c = '"' then takeText cs
  else if c = '-' then takeNumber true cs
  else if c.isDigit then takeNumber false (c :: cs)
  else if c = 'n' then takeWord ['u', 'l', 'l'] cs
  else if c = 't' then takeWord ['r', 'u', 'e'] cs
  else if c = 'f' then takeWord ['a', 'l', 's', 'e'] cs
  else (.mark c, cs)

theorem first_rest_le (c : Char) (cs : List Char) : (first c cs).2.length ≤ cs.length := by
  unfold first
  split
  · exact takeText_rest_le cs
  split
  · exact Nat.le_trans (takeNumber_rest_le _ _) (length_dropWhile_le _ _)
  split
  · rename_i digit
    refine Nat.le_trans (takeNumber_rest_le _ _) ?_
    rw [List.dropWhile_cons_of_pos digit]
    exact length_dropWhile_le _ _
  repeat (split; exact takeWord_rest_le _ _)
  exact Nat.le_refl _

end Token

def isSpace (c : Char) : Bool := c == ' ' || c == '\n' || c == '\t' || c == '\r'

def tokens : List Char → List Token
  | [] => []
  | c :: cs =>
    if isSpace c then tokens cs
    else (Token.first c cs).1 :: tokens (Token.first c cs).2
termination_by cs => cs.length
decreasing_by
  · simp
  · exact Nat.lt_succ_of_le (Token.first_rest_le c cs)

end Knitting.Json
