import Knitting.Format.JsonToken

/-! # Reading values out of JSON

A decoder takes one value off the front of a list of tokens, so that fewer tokens are left. The
first flaw it meets ends it, whether the text is no JSON there or is JSON of something else.
-/
namespace Knitting.Json

/-- A value, and the tokens behind it. -/
structure Decoded (α : Type) (ts : List Token) where
  value : α
  rest : List Token
  shorter : rest.length < ts.length

abbrev Decoder (α : Type) := (ts : List Token) → Except Flaw (Decoded α ts)

variable {α β : Type}

namespace Decoded

/-- The same value behind one more token. -/
def behind {t : Token} {ts : List Token} (d : Decoded α ts) : Decoded α (t :: ts) :=
  ⟨d.value, d.rest, Nat.lt_succ_of_lt d.shorter⟩

end Decoded

namespace Decoder

def fail (f : Flaw) : Decoder α := fun _ => .error f

def bind (d : Decoder α) (next : α → Decoder β) : Decoder β := fun ts =>
  match d ts with
  | .error f => .error f
  | .ok a =>
    match next a.value a.rest with
    | .error f => .error f
    | .ok b => .ok ⟨b.value, b.rest, Nat.lt_trans b.shorter a.shorter⟩

def check (d : Decoder α) (f : α → Except Flaw β) : Decoder β := fun ts =>
  match d ts with
  | .error e => .error e
  | .ok a =>
    match f a.value with
    | .error e => .error e
    | .ok b => .ok ⟨b, a.rest, a.shorter⟩

def map (d : Decoder α) (f : α → β) : Decoder β := d.check fun a => .ok (f a)

end Decoder

/-- The flaw of a token that stands where a value of another kind should begin. -/
def Token.mismatch : Token → Flaw
  | .mark c => if c = '[' ∨ c = '\x7b' then .unsuitable else .malformed
  | .word flaw => flaw.getD .unsuitable
  | .number (.error f) _ => f
  | .number (.ok _) _ => .unsuitable
  | .text (.error f) _ => f
  | .text (.ok _) _ => .unsuitable

def Token.isMark (c : Char) : Token → Bool
  | .mark d => d = c
  | _ => false

def natural (bound : Nat) : Decoder Nat
  | [] => .error .unfinished
  | .number (.ok (some n)) _ :: rest =>
    if n < bound then .ok ⟨n, rest, by simp⟩ else .error .unsuitable
  | t :: _ => .error t.mismatch

def text : Decoder String
  | [] => .error .unfinished
  | .text (.ok s) _ :: rest => .ok ⟨s, rest, by simp⟩
  | t :: _ => .error t.mismatch

def expect (c : Char) : Decoder Unit
  | [] => .error .unfinished
  | .mark d :: rest => if c = d then .ok ⟨(), rest, by simp⟩ else .error .malformed
  | _ :: _ => .error .malformed

/-- What may come next while a value is passed over. -/
inductive Skipping where
  | value
  | opened
  | name
  | colon
  | more
  deriving DecidableEq, Repr

namespace Skipping

def stepValue (closing : List Char) : Token → Except Flaw (Skipping × List Char)
  | .mark m =>
    if m = '[' then .ok (.opened, ']' :: closing)
    else if m = '\x7b' then .ok (.opened, '\x7d' :: closing)
    else .error .malformed
  | .word flaw | .number _ flaw | .text _ flaw => flaw.elim (.ok (.more, closing)) .error

def stepName (closing : List Char) : Token → Except Flaw (Skipping × List Char)
  | .text _ flaw => flaw.elim (.ok (.colon, closing)) .error
  | _ => .error .malformed

/-- One token; `closing` are the marks that end the lists and records around it, the innermost
first. -/
def step (state : Skipping) (closing : List Char) (t : Token) :
    Except Flaw (Skipping × List Char) :=
  match state, closing with
  | .value, _ => stepValue closing t
  | .name, _ => stepName closing t
  | .colon, _ => if t.isMark ':' then .ok (.value, closing) else .error .malformed
  | .opened, c :: outer =>
    if t.isMark c then .ok (.more, outer)
    else if c = ']' then stepValue closing t
    else stepName closing t
  | .more, c :: outer =>
    if t.isMark c then .ok (.more, outer)
    else if t.isMark ',' then .ok (if c = ']' then .value else .name, closing)
    else .error .malformed
  | _, [] => .error .malformed

end Skipping

/-- The tokens behind the value that is being passed over. -/
def skipFrom (state : Skipping) (closing : List Char) : Decoder Unit
  | [] => .error .unfinished
  | t :: rest =>
    match state.step closing t with
    | .error f => .error f
    | .ok (.more, []) => .ok ⟨(), rest, by simp⟩
    | .ok (state, closing) => (skipFrom state closing rest).map Decoded.behind

def skip : Decoder Unit := skipFrom .value []

/-- An element of a list whose opening bracket has been taken. A list that ends here is too
short. -/
def element (d : Decoder α) (first : Bool) : Decoder α
  | [] => .error .unfinished
  | .mark ']' :: _ => .error .unsuitable
  | .mark ',' :: rest =>
    match first, rest with
    | true, _ => .error .malformed
    | false, [] => .error .unfinished
    | false, .mark ']' :: _ => .error .malformed
    | false, rest => (d rest).map Decoded.behind
  | t :: rest => if first then d (t :: rest) else .error .malformed

/-- The next name in a record whose opening brace has been taken; none if the record ends. -/
def fieldName (first : Bool) : Decoder (Option String)
  | [] => .error .unfinished
  | .mark c :: rest =>
    if c = '\x7d' then .ok ⟨none, rest, by simp⟩
    else if c = ',' ∧ ¬first then
      match rest with
      | .text (.ok s) _ :: rest => .ok ⟨some s, rest, by simp only [List.length_cons]; omega⟩
      | .text (.error f) _ :: _ => .error f
      | [] => .error .unfinished
      | _ :: _ => .error .malformed
    else .error .malformed
  | .text name _ :: rest =>
    match first, name with
    | true, .ok s => .ok ⟨some s, rest, by simp⟩
    | true, .error f => .error f
    | false, _ => .error .malformed
  | _ :: _ => .error .malformed

/-- The fields of a record whose opening brace has been taken. `field` reads what follows a name,
the colon included. -/
def fields (field : α → String → Decoder α) (a : α) (first : Bool) : Decoder α := fun ts =>
  match fieldName first ts with
  | .error f => .error f
  | .ok ⟨none, rest, h⟩ => .ok ⟨a, rest, h⟩
  | .ok ⟨some name, rest, h⟩ =>
    match field a name rest with
    | .error f => .error f
    | .ok b =>
      match fields field b.value false b.rest with
      | .error f => .error f
      | .ok c => .ok ⟨c.value, c.rest, Nat.lt_trans c.shorter (Nat.lt_trans b.shorter h)⟩
termination_by ts => ts.length
decreasing_by exact Nat.lt_trans b.shorter h

/-- A record, or a list of the values of its fields. -/
def structured (record list : Decoder α) : Decoder α
  | [] => .error .unfinished
  | .mark c :: rest =>
    if c = '\x7b' then (record rest).map Decoded.behind
    else if c = '[' then (list rest).map Decoded.behind
    else .error .malformed
  | t :: _ => .error t.mismatch

def decode (d : Decoder α) (s : String) : Except Flaw α :=
  match d (tokens s.toList) with
  | .error f => .error f
  | .ok ⟨a, [], _⟩ => .ok a
  | .ok ⟨_, _ :: _, _⟩ => .error .malformed

end Knitting.Json
