import Knitting.Format.JsonDecoder

/-! # What decoders take

A decoder takes a value off the front of the tokens and leaves the rest. There is one lemma for
each way of putting decoders together, so that the tokens of a record are taken field by field.
-/
namespace Knitting.Json

variable {α β : Type}

namespace Decoder

/-- The decoder takes `a` off the tokens `ts` and leaves `rest`. -/
def Takes (d : Decoder α) (ts : List Token) (a : α) (rest : List Token) : Prop :=
  ∃ shorter, d ts = .ok ⟨a, rest, shorter⟩

variable {d : Decoder α} {next : α → Decoder β} {ts rest rest' : List Token} {a : α} {b : β}

theorem Takes.bind (h : d.Takes ts a rest) (h' : (next a).Takes rest b rest') :
    (d.bind next).Takes ts b rest' := by
  obtain ⟨shorter, taken⟩ := h
  obtain ⟨shorter', taken'⟩ := h'
  exact ⟨Nat.lt_trans shorter' shorter, by simp only [Decoder.bind, taken, taken']⟩

theorem Takes.check {f : α → Except Flaw β} (h : d.Takes ts a rest) (checked : f a = .ok b) :
    (d.check f).Takes ts b rest := by
  obtain ⟨shorter, taken⟩ := h
  exact ⟨shorter, by simp only [Decoder.check, taken, checked]⟩

theorem Takes.map (h : d.Takes ts a rest) (f : α → β) : (d.map f).Takes ts (f a) rest :=
  h.check rfl

theorem Takes.decode {s : String} (h : d.Takes (tokens s.toList) a []) :
    Json.decode d s = .ok a := by
  obtain ⟨_, taken⟩ := h
  rw [Json.decode, taken]

end Decoder

open Decoder

variable {ts rest rest' : List Token}

theorem natural_takes {bound n : Nat} (h : n < bound) (flaw : Option Flaw) :
    (natural bound).Takes (.number (.ok (some n)) flaw :: rest) n rest :=
  ⟨by simp, by simp [natural, h]⟩

theorem text_takes (s : String) (flaw : Option Flaw) :
    text.Takes (.text (.ok s) flaw :: rest) s rest := ⟨by simp, rfl⟩

theorem expect_takes (c : Char) : (expect c).Takes (.mark c :: rest) () rest :=
  ⟨by simp, by simp [expect]⟩

section Records

variable {field : α → String → Decoder α} {list : Decoder α} {a b c : α} {name : String}

theorem fields_take_end (first : Bool) (rest : List Token) :
    (fields field a first).Takes (.mark '\x7d' :: rest) a rest :=
  ⟨by simp, by rw [fields]; simp [fieldName]⟩

theorem fieldName_takes_first (flaw : Option Flaw) :
    (fieldName true).Takes (.text (.ok name) flaw :: rest) (some name) rest :=
  ⟨by simp, rfl⟩

theorem fieldName_takes_next (flaw : Option Flaw) :
    (fieldName false).Takes (.mark ',' :: .text (.ok name) flaw :: rest) (some name) rest :=
  ⟨by simp only [List.length_cons]; omega, by simp [fieldName]⟩

theorem fields_take {first : Bool} {ts' : List Token}
    (named : (fieldName first).Takes ts (some name) ts') (h : (field a name).Takes ts' b rest)
    (h' : (fields field b false).Takes rest c rest') :
    (fields field a first).Takes ts c rest' := by
  obtain ⟨shorter, taken⟩ := named
  obtain ⟨shorter', taken'⟩ := h
  obtain ⟨shorter'', taken''⟩ := h'
  refine ⟨Nat.lt_trans shorter'' (Nat.lt_trans shorter' shorter), ?_⟩
  rw [fields, taken]
  simp only [taken', taken'']

theorem structured_takes {record : Decoder α} (h : record.Takes ts a rest) :
    (structured record list).Takes (.mark '\x7b' :: ts) a rest := by
  obtain ⟨shorter, taken⟩ := h
  exact ⟨Nat.lt_succ_of_lt shorter, by simp [structured, taken, Except.map, Decoded.behind]⟩

end Records

end Knitting.Json
