import Knitting.Text.Hexadecimal

/-! # Tokens of TOML

Quoted texts are read as they are met; comments only have to be without control characters.
Blanks and line ends stay, because they matter in some places.
-/
namespace Knitting.Toml
open Text (hexNumber?)

/-- A token. A text in three quotes may hold several lines. -/
inductive Token where
  | lineEnd
  | blank (cs : List Char)
  | mark (c : Char)
  | bare (cs : List Char)
  | quoted (lines : Bool) (s : String)
  deriving DecidableEq, Repr

def isBlank (c : Char) : Bool := c == ' ' || c == '\t'

/-- Control characters, of which only the tabulator may stand in a text or comment. -/
def isControl (c : Char) : Bool := (c.toNat < 0x20 && c != '\t') || c.toNat == 0x7f

def isBare (c : Char) : Bool := c.isAlphanum || c == '_' || c == '-' || c == '+' || c == ':'

def isMark (c : Char) : Bool :=
  c == '=' || c == ',' || c == '.' || c == '[' || c == ']' || c == '\x7b' || c == '\x7d'

/-- The character that follows a backslash stands for. -/
def escaped? : Char → Option Char
  | '"' => some '"'
  | '\\' => some '\\'
  | 'b' => some '\x08'
  | 'f' => some '\x0c'
  | 'n' => some '\n'
  | 'r' => some '\r'
  | 't' => some '\t'
  | _ => none

def codePoint? (ds : List Char) : Option Char :=
  (hexNumber? ds).bind fun n => if n.isValidChar then some (Char.ofNat n) else none

/-- Whether nothing but blanks stands before the end of the line. -/
def lineEndsAt (cs : List Char) : Bool :=
  match cs.dropWhile isBlank with
  | '\n' :: _ => true
  | '\r' :: '\n' :: _ => true
  | _ => false

/-- What has been read of a text, and what follows the text. -/
abbrev Scan := Option (List Char × List Char)

def Scan.cons (c : Char) : Scan → Scan := Option.map fun (s, rest) => (c :: s, rest)

/-- The end of a text in three quotes: of up to five quotes the last three. `cs` follows the
first. -/
def closing? (quote : Char) (cs : List Char) : Scan :=
  let extra := (cs.takeWhile (· = quote)).length
  if extra < 2 then none
  else some (List.replicate (min extra 4 - 2) quote, cs.drop (min extra 4))

/-- A text in double quotes. `skip` tells that a backslash has ended the line, so that all blanks
and line ends are passed over. -/
def scanBasic (lines : Bool) (skip : Bool) : List Char → Scan
  | [] => none
  | '"' :: cs =>
    if lines then
      match closing? '"' cs with
      | some result => some result
      | none => (scanBasic lines false cs).cons '"'
    else some ([], cs)
  | '\\' :: 'u' :: a :: b :: c :: d :: cs =>
    (codePoint? [a, b, c, d]).bind fun x => (scanBasic lines false cs).cons x
  | '\\' :: 'U' :: a :: b :: c :: d :: e :: f :: g :: h :: cs =>
    (codePoint? [a, b, c, d, e, f, g, h]).bind fun x => (scanBasic lines false cs).cons x
  | '\\' :: e :: cs =>
    match escaped? e with
    | some x => (scanBasic lines false cs).cons x
    | none => if lines ∧ lineEndsAt (e :: cs) then scanBasic lines true (e :: cs) else none
  | '\r' :: '\n' :: cs =>
    if !lines then none
    else if skip then scanBasic lines skip cs
    else (scanBasic lines skip cs).cons '\n'
  | c :: cs =>
    if c = '\n' ∧ ¬lines then none
    else if c ≠ '\n' ∧ isControl c then none
    else if skip ∧ (isBlank c ∨ c = '\n') then scanBasic lines skip cs
    else (scanBasic lines false cs).cons c

/-- A text in single quotes. -/
def scanLiteral (lines : Bool) : List Char → Scan
  | [] => none
  | '\'' :: cs =>
    if lines then
      match closing? '\'' cs with
      | some result => some result
      | none => (scanLiteral lines cs).cons '\''
    else some ([], cs)
  | '\r' :: '\n' :: cs => if lines then (scanLiteral lines cs).cons '\n' else none
  | c :: cs =>
    if c = '\n' ∧ ¬lines then none
    else if c ≠ '\n' ∧ isControl c then none
    else (scanLiteral lines cs).cons c

namespace Scan

/-- Whatever has been read, fewer than `n` characters follow it. -/
def Within (scan : Scan) (n : Nat) : Prop := ∀ s rest, scan = some (s, rest) → rest.length < n

theorem Within.none {n : Nat} : Within none n := fun _ _ h => nomatch h

theorem Within.some {s rest : List Char} {n : Nat} (h : rest.length < n) :
    Within (some (s, rest)) n := by
  rintro _ _ ⟨⟩
  exact h

theorem Within.mono {scan : Scan} {m n : Nat} (h : scan.Within m) (le : m ≤ n) : scan.Within n :=
  fun s rest eq => Nat.lt_of_lt_of_le (h s rest eq) le

theorem Within.cons {scan : Scan} {n : Nat} (h : scan.Within n) (c : Char) :
    (scan.cons c).Within n := by
  intro s rest eq
  obtain ⟨⟨t, r⟩, ht, he⟩ := Option.map_eq_some_iff.1 eq
  cases he
  exact h t rest ht

theorem Within.bind {α : Type} {o : Option α} {f : α → Scan} {n : Nat}
    (h : ∀ x, (f x).Within n) : Within (o.bind f) n := by
  intro s rest eq
  obtain ⟨x, _, hx⟩ := Option.bind_eq_some_iff.1 eq
  exact h x s rest hx

end Scan

theorem closing?_within (quote : Char) (cs : List Char) :
    (closing? quote cs).Within (cs.length + 1) := by
  unfold closing?
  dsimp only
  split
  · exact .none
  · exact .some (by rw [List.length_drop]; omega)

theorem scanBasic_within (lines skip : Bool) (cs : List Char) :
    (scanBasic lines skip cs).Within cs.length := by
  fun_induction scanBasic lines skip cs with
  | case1 | case9 | case10 | case13 | case14 => exact .none
  | case2 skip cs _ _ h => exact h ▸ closing?_within '"' cs
  | case3 _ _ _ _ ih | case16 _ _ _ _ _ _ _ _ _ _ _ ih => exact (ih.mono (by simp)).cons _
  | case7 _ _ _ _ _ _ _ ih | case12 _ _ _ _ ih =>
    exact (ih.mono (by simp only [List.length_cons]; omega)).cons _
  | case4 => exact .some (by simp)
  | case5 _ _ _ _ _ _ ih | case6 _ _ _ _ _ _ _ _ _ _ ih =>
    exact .bind fun x => (ih.mono (by simp only [List.length_cons]; omega)).cons x
  | case8 _ _ _ _ _ _ _ ih | case15 _ _ _ _ _ _ _ _ _ _ _ ih => exact ih.mono (by simp)
  | case11 _ _ ih => exact ih.mono (by simp only [List.length_cons]; omega)

theorem scanLiteral_within (lines : Bool) (cs : List Char) :
    (scanLiteral lines cs).Within cs.length := by
  fun_induction scanLiteral lines cs with
  | case1 | case6 | case7 | case8 => exact .none
  | case2 cs _ _ h => exact h ▸ closing?_within '\'' cs
  | case3 _ _ _ ih | case9 _ _ _ _ _ _ ih => exact (ih.mono (by simp)).cons _
  | case5 _ _ ih => exact (ih.mono (by simp only [List.length_cons]; omega)).cons _
  | case4 => exact .some (by simp)

/-- A text without the line end it begins with. -/
def dropLineEnd : List Char → List Char
  | '\n' :: cs => cs
  | '\r' :: '\n' :: cs => cs
  | cs => cs

theorem dropLineEnd_length_le (cs : List Char) : (dropLineEnd cs).length ≤ cs.length := by
  unfold dropLineEnd
  split <;> grind

def scanQuoted (quote : Char) (lines : Bool) (cs : List Char) : Scan :=
  if quote = '"' then scanBasic lines false cs else scanLiteral lines cs

theorem scanQuoted_within (quote : Char) (lines : Bool) (cs : List Char) :
    (scanQuoted quote lines cs).Within cs.length := by
  unfold scanQuoted
  split
  · exact scanBasic_within lines false cs
  · exact scanLiteral_within lines cs

/-- The text whose first quote is `quote`, whether it may hold several lines; `cs` follows that
quote. -/
def takeQuoted (quote : Char) (cs : List Char) : Bool × Scan :=
  match cs with
  | a :: b :: rest =>
    if a = quote ∧ b = quote then (true, scanQuoted quote true (dropLineEnd rest))
    else (false, scanQuoted quote false cs)
  | _ => (false, scanQuoted quote false cs)

theorem takeQuoted_within (quote : Char) (cs : List Char) :
    (takeQuoted quote cs).2.Within cs.length := by
  unfold takeQuoted
  split
  · split
    · refine (scanQuoted_within _ _ _).mono (Nat.le_trans (dropLineEnd_length_le _) ?_)
      simp only [List.length_cons]
      omega
    · exact scanQuoted_within _ _ _
  · exact scanQuoted_within _ _ _

/-- The token that `c` begins, and what follows it; a comment is none. -/
def takeToken (c : Char) (cs : List Char) : Option (Option Token × List Char) :=
  if c = '\n' then some (some .lineEnd, cs)
  else if c = '\r' then
    match cs with
    | '\n' :: rest => some (some .lineEnd, rest)
    | _ => none
  else if isBlank c then
    some (some (.blank (c :: cs.takeWhile isBlank)), cs.dropWhile isBlank)
  else if c = '#' then some (none, cs.dropWhile fun d => !isControl d)
  else if isMark c then some (some (.mark c), cs)
  else if isBare c then some (some (.bare (c :: cs.takeWhile isBare)), cs.dropWhile isBare)
  else if c = '"' ∨ c = '\'' then
    (takeQuoted c cs).2.map fun (s, rest) =>
      (some (.quoted (takeQuoted c cs).1 (String.ofList s)), rest)
  else none

theorem length_dropWhile_le (p : Char → Bool) (cs : List Char) :
    (cs.dropWhile p).length ≤ cs.length := (List.dropWhile_sublist p).length_le

theorem takeToken_rest_le {c : Char} {cs rest : List Char} {t : Option Token}
    (h : takeToken c cs = some (t, rest)) : rest.length ≤ cs.length := by
  unfold takeToken at h
  split at h
  · cases h
    exact Nat.le_refl _
  split at h
  · split at h
    · cases h
      simp
    · cases h
  split at h
  · cases h
    exact length_dropWhile_le _ _
  split at h
  · cases h
    exact length_dropWhile_le _ _
  split at h
  · cases h
    exact Nat.le_refl _
  split at h
  · cases h
    exact length_dropWhile_le _ _
  split at h
  · obtain ⟨⟨s, r⟩, hs, he⟩ := Option.map_eq_some_iff.1 h
    cases he
    exact Nat.le_of_lt (takeQuoted_within c cs s _ hs)
  · cases h

def tokens? : List Char → Option (List Token)
  | [] => some []
  | c :: cs =>
    match _h : takeToken c cs with
    | none => none
    | some (t, rest) => (tokens? rest).map (t.toList ++ ·)
termination_by cs => cs.length
decreasing_by exact Nat.lt_succ_of_le (takeToken_rest_le _h)

end Knitting.Toml
