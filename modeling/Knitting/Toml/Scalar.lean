import Knitting.Settings.Setting
import Knitting.Text.Hexadecimal

/-! # Values without quotes

Flags, numbers and points in time as TOML writes them. A point in time becomes its text.
-/
namespace Knitting.Toml
open Text (decimalValue hexValue?)

def splitAt (sep : Char) : List Char → List (List Char)
  | [] => [[]]
  | c :: cs =>
    if c = sep then [] :: splitAt sep cs
    else
      match splitAt sep cs with
      | [] => [[c]]
      | part :: parts => (c :: part) :: parts

/-- Digits among which underscores may stand, one between two of them. -/
def plainDigits? (isDigit : Char → Bool) (cs : List Char) : Option (List Char) :=
  let parts := splitAt '_' cs
  if parts.all fun part => !part.isEmpty && part.all isDigit then some parts.flatten else none

/-- The digits of a whole number, which has no zero in front. -/
def wholeDigits? (cs : List Char) : Option (List Char) :=
  if cs.head? = some '0' ∧ 1 < cs.length then none else plainDigits? Char.isDigit cs

/-- An optional sign and what follows it. -/
def takeSign : List Char → Option Bool × List Char
  | '+' :: cs => (some false, cs)
  | '-' :: cs => (some true, cs)
  | cs => (none, cs)

/-- A whole number of 64 bits with sign. -/
def integerOf? (n : Int) : Option Setting :=
  if Int64.minValue.toInt ≤ n ∧ n ≤ Int64.maxValue.toInt then some (.integer n) else none

def radixNumber? (base : Nat) (cs : List Char) : Option Setting :=
  let isDigit (c : Char) : Bool := (hexValue? c).any (· < base)
  (plainDigits? isDigit cs).bind fun ds =>
    integerOf? (ds.foldl (fun n d => base * n + (hexValue? d).getD 0) 0 : Nat)

def integer? (cs : List Char) : Option Setting :=
  match cs with
  | '0' :: 'x' :: ds => radixNumber? 16 ds
  | '0' :: 'o' :: ds => radixNumber? 8 ds
  | '0' :: 'b' :: ds => radixNumber? 2 ds
  | _ =>
    let (sign, unsigned) := takeSign cs
    (wholeDigits? unsigned).bind fun ds =>
      let n : Int := decimalValue ds
      integerOf? (if sign = some true then -n else n)

/-- The power of ten behind `e`. -/
def exponent? (cs : List Char) : Option Int :=
  let (sign, unsigned) := takeSign cs
  (plainDigits? Char.isDigit unsigned).map fun ds =>
    let n : Int := decimalValue ds
    if sign = some true then -n else n

/-- A number with a point, a power of ten or both. A number that is too large is refused if it is
positive. -/
def float? (cs : List Char) : Option Setting := do
  let (sign, unsigned) := takeSign cs
  let isMark (c : Char) : Bool := c == '.' || c == 'e' || c == 'E'
  let whole ← wholeDigits? (unsigned.takeWhile (!isMark ·))
  let rest := unsigned.dropWhile (!isMark ·)
  let (fraction, rest) ←
    match rest with
    | '.' :: r => do
      let ds ← plainDigits? Char.isDigit (r.takeWhile (!isMark ·))
      pure (ds, r.dropWhile (!isMark ·))
    | _ => pure ([], rest)
  let power ←
    match rest with
    | [] => if fraction.isEmpty then none else pure 0
    | c :: r => if c = '.' then none else exponent? r
  let x := Double.ofDecimal (.ofParts (sign = some true) whole fraction power)
  if x = .infinite false then none else pure (.float x)

def specialFloat? (cs : List Char) : Option Setting :=
  let (sign, unsigned) := takeSign cs
  match String.ofList unsigned with
  | "inf" => some (.float (.infinite (sign = some true)))
  | "nan" => some (.float .nan)
  | _ => none

def takeDigits (n : Nat) (cs : List Char) : Option (Nat × List Char) :=
  let ds := cs.take n
  if ds.length = n ∧ ds.all Char.isDigit then some (decimalValue ds, cs.drop n) else none

def takeMark (c : Char) : List Char → Option (List Char)
  | d :: cs => if c = d then some cs else none
  | [] => none

/-- A number with zeros in front. -/
def padded (width n : Nat) : String :=
  let ds := (toString n).toList
  String.ofList (List.replicate (width - ds.length) '0' ++ ds)

def daysIn (year month : Nat) : Nat :=
  if month = 2 then
    if year % 4 = 0 ∧ (year % 100 ≠ 0 ∨ year % 400 = 0) then 29 else 28
  else if month ∈ [4, 6, 9, 11] then 30
  else 31

/-- A date, as it is written again, and what follows it. -/
def takeDate (cs : List Char) : Option (String × List Char) := do
  let (year, cs) ← takeDigits 4 cs
  let (month, cs) ← takeDigits 2 (← takeMark '-' cs)
  let (day, cs) ← takeDigits 2 (← takeMark '-' cs)
  if 1 ≤ month ∧ month ≤ 12 ∧ 1 ≤ day ∧ day ≤ daysIn year month then
    return (padded 4 year ++ "-" ++ padded 2 month ++ "-" ++ padded 2 day, cs)
  else none

/-- Parts of a second, of which nine digits are kept, without zeros at the end. -/
def secondParts (ds : List Char) : String :=
  let kept := ((ds.take 9).reverse.dropWhile (· = '0')).reverse
  if kept.isEmpty then "" else String.ofList ('.' :: kept)

/-- A time of day, as it is written again, and what follows it. -/
def takeTime (cs : List Char) : Option (String × List Char) := do
  let (hour, cs) ← takeDigits 2 cs
  let (minute, cs) ← takeDigits 2 (← takeMark ':' cs)
  let (second, cs) ← takeDigits 2 (← takeMark ':' cs)
  let (parts, cs) ←
    match cs with
    | '.' :: r =>
      let ds := r.takeWhile Char.isDigit
      if ds.isEmpty then none else some (secondParts ds, r.dropWhile Char.isDigit)
    | _ => some ("", cs)
  if hour ≤ 23 ∧ minute ≤ 59 ∧ second ≤ 60 then
    return (padded 2 hour ++ ":" ++ padded 2 minute ++ ":" ++ padded 2 second ++ parts, cs)
  else none

/-- The offset of a time zone, as it is written again. -/
def offset? : List Char → Option String
  | [] => some ""
  | ['Z'] | ['z'] => some "Z"
  | cs => do
    let (sign, cs) := takeSign cs
    let negative ← sign
    let (hour, cs) ← takeDigits 2 cs
    let (minute, cs) ← takeDigits 2 (← takeMark ':' cs)
    if cs.isEmpty ∧ hour ≤ 23 ∧ minute ≤ 59 then
      let mark := if negative ∧ (hour, minute) ≠ (0, 0) then "-" else "+"
      return mark ++ padded 2 hour ++ ":" ++ padded 2 minute
    else none

def moment? (cs : List Char) : Option String :=
  match takeDate cs with
  | some (date, []) => some date
  | some (date, c :: rest) =>
    if c = 'T' ∨ c = 't' ∨ c = ' ' then do
      let (time, rest) ← takeTime rest
      return date ++ "T" ++ time ++ (← offset? rest)
    else none
  | none =>
    match takeTime cs with
    | some (time, []) => some time
    | _ => none

/-- A value that is written without quotes or brackets. -/
def scalar? (cs : List Char) : Option Setting :=
  match String.ofList cs with
  | "true" => some (.flag true)
  | "false" => some (.flag false)
  | _ => integer? cs <|> float? cs <|> specialFloat? cs <|> (moment? cs).map .text

end Knitting.Toml
