import Knitting.Pattern.Listing
import Knitting.Proofs.Pattern.Numerals
import Knitting.Proofs.Pattern.Writable
import Knitting.Proofs.Text.Digits

/-! # How the text of an expression opens

An expression is listed with a few words and then, in brackets, what it holds. The words are told
from each other by their letters and by the numbers among them.
-/
namespace Knitting
open Text

/-- What the text of an expression says in front of the brackets. -/
inductive Opening where
  | stitch (s : Stitch)
  | group
  | times (count : UInt32)
  | leaving (count : UInt32)
  | marker (action : MarkerAction)

def isListed (c : Char) : Bool := isPlainLetter c || c == ' '

/-- Nothing but letters, blanks and slashes. -/
def IsLabel (cs : List Char) : Prop := (cs.all fun c => isListed c && !c.isDigit) = true
  deriving Decidable

def letters (cs : List Char) : List Char := cs.filter fun c => !c.isDigit

def numbers (cs : List Char) : List UInt32 :=
  (digitRuns cs).map fun ds => .ofNat (decimalValue ds)

theorem isListed_of_mem_digits {n : UInt32} {c : Char} (h : c ∈ digits n) : isListed c = true := by
  simp [isListed, isPlainLetter, isDigit_of_mem_digits h]

theorem letters_append (cs ds : List Char) : letters (cs ++ ds) = letters cs ++ letters ds :=
  List.filter_append ..

theorem letters_digits (n : UInt32) : letters (digits n) = [] :=
  List.filter_eq_nil_iff.2 fun d hd => by simp [isDigit_of_mem_digits hd]

section Label
variable {cs before behind : List Char}

theorem IsLabel.of_mem (label : IsLabel cs) {c : Char} (h : c ∈ cs) :
    isListed c = true ∧ c.isDigit = false := by
  simpa using List.all_eq_true.1 label c h

theorem letters_of_label (label : IsLabel cs) : letters cs = cs :=
  List.filter_eq_self.2 fun c hc => by simp [(label.of_mem hc).2]

theorem numbers_of_label (label : IsLabel cs) : numbers cs = [] := by
  have none := digitRuns_behind (fun c hc => (label.of_mem hc).2) []
  rw [List.append_nil] at none
  rw [numbers, none]
  rfl

variable (label : IsLabel before) (label' : IsLabel behind)
include label label'

theorem letters_around (n : UInt32) :
    letters (before ++ (digits n ++ behind)) = before ++ behind := by
  rw [letters_append, letters_append, letters_digits, letters_of_label label,
    letters_of_label label', List.nil_append]

theorem numbers_around (n : UInt32) : numbers (before ++ (digits n ++ behind)) = [n] := by
  rw [numbers, digitRuns_behind fun c hc => (label.of_mem hc).2,
    digitRuns_before fun c hc => (label'.of_mem hc).2,
    digitRuns_of_isDigitRun (isDigitRun_digits n)]
  simp [decimalValue_digits]

theorem letters_around_two (m n : UInt32) :
    letters (before ++ (digits m ++ '/' :: (digits n ++ behind))) = before ++ '/' :: behind := by
  have slash : IsLabel ['/'] := by decide
  rw [letters_append, letters_append, letters_digits, letters_of_label label, List.nil_append,
    ← List.singleton_append, letters_around slash label', List.singleton_append]

theorem numbers_around_two (m n : UInt32) :
    numbers (before ++ (digits m ++ '/' :: (digits n ++ behind))) = [m, n] := by
  rw [numbers, digitRuns_behind fun c hc => (label.of_mem hc).2, digitRuns_append_cons _ _ rfl,
    digitRuns_before fun c hc => (label'.of_mem hc).2,
    digitRuns_of_isDigitRun (isDigitRun_digits m),
    digitRuns_of_isDigitRun (isDigitRun_digits n)]
  simp [decimalValue_digits]

end Label

namespace Opening

def text : Opening → String
  | .stitch s => s.text
  | .group => ""
  | .times n => if n = 0 then "Rep " else s!"Rep {n.toNat} "
  | .leaving n => s!"Rep until {n.toNat} "
  | .marker (.place name) => "Place marker " ++ name.toString
  | .marker (.remove name) => "Remove marker " ++ name.toString

/-- The opening without a number that has these letters. A marker is named by the last of them. -/
def bare? : List Char → Option Opening
  | 'P' :: 'l' :: cs => cs.getLast?.map fun name => .marker (.place name)
  | 'R' :: 'e' :: 'm' :: cs => cs.getLast?.map fun name => .marker (.remove name)
  | cs =>
    match String.ofList cs with
    | "" => some .group
    | "Knit" => some (.stitch .knit)
    | "Purl" => some (.stitch .purl)
    | "Slip slip knit" => some (.stitch .slipSlipKnit)
    | "Yarn over" => some (.stitch .yarnOver)
    | "Rep " => some (.times 0)
    | _ => none

/-- The opening with one number that has these letters. -/
def counted? (n : UInt32) : String → Option Opening
  | "Ktog" => some (.stitch (.knitTogether n))
  | "Ptog" => some (.stitch (.purlTogether n))
  | "Cast on " => some (.stitch (.castOn n))
  | "Bind off " => some (.stitch (.bindOff n))
  | "Rep  " => some (.times n)
  | "Rep until  " => some (.leaving n)
  | _ => none

def crossing? : String → Option Crossing
  | "C/F" => some .knitForward
  | "C/B" => some .knitBackward
  | "P/F" => some .purlForward
  | "P/B" => some .purlBackward
  | _ => none

def ofLetters (cs : List Char) : List UInt32 → Option Opening
  | [] => bare? cs
  | [n] => counted? n (String.ofList cs)
  | [m, n] => (crossing? (String.ofList cs)).map fun c => .stitch (.cable c m n)
  | _ => none

/-- The letters and numbers of an opening tell what it is. -/
structure Known (o : Opening) : Prop where
  ofLetters_text : ofLetters (letters o.text.toList) (numbers o.text.toList) = some o
  isListed_text : ∀ c ∈ o.text.toList, isListed c = true

section Known
variable {o : Opening}

theorem known_of_label (label : IsLabel o.text.toList) (known : bare? o.text.toList = some o) :
    o.Known := by
  refine ⟨?_, fun c hc => (label.of_mem hc).1⟩
  rw [letters_of_label label, numbers_of_label label, ofLetters, known]

variable {before behind : String} (label : IsLabel before.toList) (label' : IsLabel behind.toList)
include label label'

theorem known_of_number {n : UInt32} (whole : o.text = before ++ toString n.toNat ++ behind)
    (known : counted? n (before ++ behind) = some o) : o.Known := by
  have parts : o.text.toList = before.toList ++ (digits n ++ behind.toList) := by
    simp [whole, digits]
  constructor
  · rw [parts, letters_around label label', numbers_around label label', ofLetters,
      ← String.toList_append, String.ofList_toList, known]
  · rw [parts, List.forall_mem_append, List.forall_mem_append]
    exact ⟨fun c hc => (label.of_mem hc).1, fun _ => isListed_of_mem_digits,
      fun c hc => (label'.of_mem hc).1⟩

theorem known_of_cable {c : Crossing} {m n : UInt32}
    (parts : (stitch (.cable c m n)).text.toList =
      before.toList ++ (digits m ++ '/' :: (digits n ++ behind.toList)))
    (known : crossing? (before ++ "/" ++ behind) = some c) : (stitch (.cable c m n)).Known := by
  have letters : before.toList ++ '/' :: behind.toList = (before ++ "/" ++ behind).toList := by
    simp
  constructor
  · rw [parts, letters_around_two label label', numbers_around_two label label', ofLetters, letters,
      String.ofList_toList, known]
    rfl
  · rw [parts, List.forall_mem_append, List.forall_mem_append, List.forall_mem_cons,
      List.forall_mem_append]
    exact ⟨fun c hc => (label.of_mem hc).1, fun _ => isListed_of_mem_digits, by decide,
      fun _ => isListed_of_mem_digits, fun c hc => (label'.of_mem hc).1⟩

end Known

theorem known_stitch (s : Stitch) : (stitch s).Known := by
  cases s with
  | knit | purl | slipSlipKnit | yarnOver => exact known_of_label (by decide) rfl
  | knitTogether n | purlTogether n => exact known_of_number (by decide) (by decide) rfl rfl
  | castOn n =>
    have whole : (stitch (.castOn n)).text = "Cast on " ++ toString n.toNat ++ "" :=
      String.append_empty.symm
    exact known_of_number (by decide) (by decide) whole rfl
  | bindOff n =>
    have whole : (stitch (.bindOff n)).text = "Bind off " ++ toString n.toNat ++ "" :=
      String.append_empty.symm
    exact known_of_number (by decide) (by decide) whole rfl
  | cable c m n =>
    have parts : (stitch (.cable c m n)).text.toList =
        c.ground.toList ++ (digits m ++ '/' :: (digits n ++ c.direction.toList)) := by
      simp [text, Stitch.text, digits, toString_string]
    cases c <;> exact known_of_cable (by decide) (by decide) parts rfl

theorem isLabel_concat {cs : List Char} {name : Char} (label : IsLabel cs)
    (upper : name.isUpper = true) : IsLabel (cs ++ [name]) := by
  have plain : isListed name = true := by simp [isListed, isPlainLetter, isAlpha_of_isUpper upper]
  rw [IsLabel, List.all_append, Bool.and_eq_true]
  exact ⟨label, by simp [plain, not_isDigit_of_isUpper upper]⟩

/-- The name of a marker is a capital. -/
def Named : Opening → Prop
  | .marker action => action.name.isUpper
  | _ => True

theorem known (o : Opening) (named : o.Named) : o.Known := by
  cases o with
  | stitch s => exact known_stitch s
  | group => exact known_of_label (by decide) rfl
  | times n =>
    by_cases none : n = 0
    · subst none
      exact known_of_label (by decide) rfl
    · exact known_of_number (by decide) (by decide) (if_neg none) rfl
  | leaving n => exact known_of_number (by decide) (by decide) rfl rfl
  | marker a =>
    cases a with
    | place name =>
      have parts : (marker (.place name)).text.toList = "Place marker ".toList ++ [name] := by
        simp [text]
      have label : IsLabel ("Place marker ".toList ++ [name]) := isLabel_concat (by decide) named
      exact known_of_label (parts ▸ label) (by simp [text, bare?])
    | remove name =>
      have parts : (marker (.remove name)).text.toList = "Remove marker ".toList ++ [name] := by
        simp [text]
      have label : IsLabel ("Remove marker ".toList ++ [name]) := isLabel_concat (by decide) named
      exact known_of_label (parts ▸ label) (by simp [text, bare?])

theorem text_injective {o o' : Opening} (named : o.Named) (named' : o'.Named)
    (h : o.text = o'.text) : o = o' := by
  have known := (o.known named).ofLetters_text
  rw [h, (o'.known named').ofLetters_text] at known
  exact (Option.some.inj known).symm

end Opening

end Knitting
