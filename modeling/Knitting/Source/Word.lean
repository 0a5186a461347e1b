import Knitting.Source.Token

/-! # Words

A word is read as a whole. Twelve classes of words carry a parameter, which becomes the literal
of the token: the counts of a cable as `front,back`, the digits of a count, the name of a
marker. Six words are keywords, and every other word is an identifier.
-/
namespace Knitting

def digitRun? (cs : List Char) : Option (List Char) :=
  if cs ≠ [] ∧ cs.all Char.isDigit then some cs else none

theorem digitRun?_eq_some {cs ds : List Char} :
    digitRun? cs = some ds ↔ cs = ds ∧ ds ≠ [] ∧ ds.all Char.isDigit := by
  simp only [digitRun?]
  constructor
  · intro h
    split at h <;> simp_all
  · rintro ⟨rfl, h⟩
    simp_all

/-- What follows `head` in a word. -/
def afterHead? : List Char → List Char → Option (List Char)
  | [], word => some word
  | h :: hs, c :: word => if h = c then afterHead? hs word else none
  | _ :: _, [] => none

theorem afterHead?_eq_some {head word rest : List Char} :
    afterHead? head word = some rest ↔ word = head ++ rest := by
  induction head generalizing word with
  | nil => simp [afterHead?, eq_comm]
  | cons h hs ih =>
    cases word with
    | nil => simp [afterHead?]
    | cons c word =>
      by_cases hc : h = c
      · simp [afterHead?, hc, ih]
      · simp [afterHead?, hc, Ne.symm hc]

/-- What precedes `tail` in a word. -/
def beforeTail? (tail word : List Char) : Option (List Char) :=
  (afterHead? tail.reverse word.reverse).map List.reverse

theorem beforeTail?_eq_some {tail word rest : List Char} :
    beforeTail? tail word = some rest ↔ word = rest ++ tail := by
  simp only [beforeTail?, Option.map_eq_some_iff, afterHead?_eq_some]
  constructor
  · rintro ⟨r, h, rfl⟩
    simpa using congrArg List.reverse h
  · rintro rfl
    exact ⟨rest.reverse, by simp⟩

/-- The digits between `head` and `tail`. -/
def digitsBetween? (head tail word : List Char) : Option (List Char) :=
  ((afterHead? head word).bind (beforeTail? tail)).bind digitRun?

/-- The counts of a cable, `front` or `front/back`; a single count is both. -/
def cableCounts? (cs : List Char) : Option (List Char × List Char) :=
  match cs.span Char.isDigit with
  | (front, []) => (digitRun? front).map fun f => (f, f)
  | (front, c :: back) =>
    if c = '/' then (digitRun? front).bind fun f => (digitRun? back).map fun b => (f, b) else none

inductive WordClass where
  | cable (crossing : Crossing)
  | knitTogether
  | purlTogether
  | castOn
  | bindOff
  | knitRun
  | purlRun
  | placeMarker
  | removeMarker
  deriving DecidableEq, Repr

namespace WordClass

/-- All classes, in the order in which a word is tried against them. -/
def all : List WordClass :=
  [.cable .knitForward, .cable .knitBackward, .cable .purlForward, .cable .purlBackward,
    .knitTogether, .purlTogether, .castOn, .bindOff, .knitRun, .purlRun, .placeMarker,
    .removeMarker]

theorem mem_all (k : WordClass) : k ∈ all := by
  cases k with
  | cable c => cases c <;> decide
  | _ => decide

def token : WordClass → Token
  | .cable c => .cable c
  | .knitTogether => .knitTogether
  | .purlTogether => .purlTogether
  | .castOn => .castOn
  | .bindOff => .bindOff
  | .knitRun => .knitRun
  | .purlRun => .purlRun
  | .placeMarker => .placeMarker
  | .removeMarker => .removeMarker

/-- The literal of a cable word with the given first and last letter. -/
def cableLiteral? (first last : Char) (word : List Char) : Option (List Char) :=
  (((afterHead? [first] word).bind (beforeTail? [last])).bind cableCounts?).map
    fun (front, back) => front ++ ',' :: back

/-- The digits after two letters written in either case. -/
def foldedDigits? (a b : Char) : List Char → Option (List Char)
  | c :: d :: word => if c.toLower = a ∧ d.toLower = b then digitRun? word else none
  | _ => none

/-- The capital letter after `head`, and nothing else. -/
def capitalAfter? (head word : List Char) : Option (List Char) :=
  match afterHead? head word with
  | some [c] => if c.isUpper then some [c] else none
  | _ => none

/-- The literal of a word of the class; nothing if the word is not of the class. -/
def literal? : WordClass → List Char → Option (List Char)
  | .cable .knitForward => cableLiteral? 'c' 'r'
  | .cable .knitBackward => cableLiteral? 'c' 'l'
  | .cable .purlForward => cableLiteral? 'p' 'r'
  | .cable .purlBackward => cableLiteral? 'p' 'l'
  | .knitTogether => digitsBetween? ['k'] ['t', 'o', 'g']
  | .purlTogether => digitsBetween? ['p'] ['t', 'o', 'g']
  | .castOn => foldedDigits? 'c' 'o'
  | .bindOff => foldedDigits? 'b' 'o'
  | .knitRun => digitsBetween? ['k'] []
  | .purlRun => digitsBetween? ['p'] []
  | .placeMarker => capitalAfter? ['m']
  | .removeMarker => capitalAfter? ['r', 'm']

end WordClass

/-- The tokens written as one fixed word. -/
def keywords : List (String × Token) :=
  [("repeat", .repeatWord), ("section", .sectionWord), ("ssk", .slipSlipKnit),
    ("yo", .yarnOver), ("k", .knit), ("p", .purl)]

/-- The first class in `classes` that a word belongs to, with its literal there. -/
def classIn (classes : List WordClass) (word : List Char) : Option (Token × List Char) :=
  classes.findSome? fun k => (k.literal? word).map fun l => (k.token, l)

def classify (word : List Char) : Token × String :=
  match classIn WordClass.all word with
  | some (t, literal) => (t, String.ofList literal)
  | none => ((keywords.lookup (String.ofList word)).getD .identifier, String.ofList word)

end Knitting
