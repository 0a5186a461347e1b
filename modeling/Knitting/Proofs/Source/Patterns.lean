import Knitting.Proofs.Pattern.Numerals
import Mathlib.Computability.RegularExpressions

/-! # Patterns of words

The words of a class are those that are like its pattern, a regular expression, and the literal of
such a word is cut out of it. No word is like two patterns and no keyword is like any, so a word can
be tried for the patterns and the keywords in whatever order.
-/
namespace Knitting
open RegularExpression

namespace WordPattern

def oneOf (cs : List Char) : RegularExpression Char := (cs.map char).sum

def spelled (cs : List Char) : RegularExpression Char := (cs.map char).prod

def perhaps (described : RegularExpression Char) : RegularExpression Char := 1 + described

def tenDigits : List Char := "0123456789".toList

def capitals : List Char := "ABCDEFGHIJKLMNOPQRSTUVWXYZ".toList

def digit : RegularExpression Char := oneOf tenDigits

def number : RegularExpression Char := digit * digit.star

def capital : RegularExpression Char := oneOf capitals

variable {word : List Char}

theorem mem_char {c : Char} : word ∈ (char c).matches' ↔ word = [c] := .rfl

theorem mem_oneOf {cs : List Char} : word ∈ (oneOf cs).matches' ↔ ∃ c ∈ cs, word = [c] := by
  induction cs with
  | nil => simp [oneOf]
  | cons c cs ih =>
    have split : oneOf (c :: cs) = char c + oneOf cs := rfl
    rw [split, matches'_add, Language.mem_add, mem_char, ih]
    simp

theorem mem_spelled {cs : List Char} : word ∈ (spelled cs).matches' ↔ word = cs := by
  induction cs generalizing word with
  | nil => simp [spelled]
  | cons c cs ih =>
    have split : spelled (c :: cs) = char c * spelled cs := rfl
    simp only [split, matches'_mul, Language.mem_mul, mem_char, ih]
    simp [eq_comm]

theorem mem_perhaps {described : RegularExpression Char} :
    word ∈ (perhaps described).matches' ↔ word = [] ∨ word ∈ described.matches' := by
  rw [perhaps, matches'_add, matches'_epsilon, Language.mem_add, Language.mem_one]

theorem mem_tenDigits {c : Char} : c ∈ tenDigits ↔ c.isDigit = true := by
  constructor
  · have all : tenDigits.all Char.isDigit = true := by decide
    exact List.all_eq_true.1 all c
  · intro h
    have all : ∀ n < 10, Char.ofNat ('0'.toNat + n) ∈ tenDigits := by decide
    obtain ⟨low, high⟩ := Char.isDigit_iff_toNat.1 h
    have here := all (c.toNat - '0'.toNat) (by
      have width : '9'.toNat = '0'.toNat + 9 := rfl
      omega)
    rwa [Nat.add_sub_cancel' low, Char.ofNat_toNat] at here

theorem mem_capitals {c : Char} : c ∈ capitals ↔ c.isUpper = true := by
  constructor
  · have all : capitals.all Char.isUpper = true := by decide
    exact List.all_eq_true.1 all c
  · intro h
    have all : ∀ n < 26, Char.ofNat ('A'.toNat + n) ∈ capitals := by decide
    have bounds : 'A'.val ≤ c.val ∧ c.val ≤ 'Z'.val := of_decide_eq_true h
    have low : 'A'.toNat ≤ c.toNat := UInt32.le_iff_toNat_le.1 bounds.1
    have high : c.toNat ≤ 'Z'.toNat := UInt32.le_iff_toNat_le.1 bounds.2
    have here := all (c.toNat - 'A'.toNat) (by
      have width : 'Z'.toNat = 'A'.toNat + 25 := rfl
      omega)
    rwa [Nat.add_sub_cancel' low, Char.ofNat_toNat] at here

theorem mem_digit : word ∈ digit.matches' ↔ ∃ c : Char, c.isDigit = true ∧ word = [c] := by
  simp only [digit, mem_oneOf, mem_tenDigits]

theorem mem_capital : word ∈ capital.matches' ↔ ∃ c : Char, c.isUpper = true ∧ word = [c] := by
  simp only [capital, mem_oneOf, mem_capitals]

theorem mem_star_digit : word ∈ digit.star.matches' ↔ word.all Char.isDigit = true := by
  rw [matches'_star, Language.mem_kstar]
  constructor
  · rintro ⟨parts, rfl, each⟩
    simp only [List.all_eq_true, List.mem_flatten]
    rintro c ⟨part, here, within⟩
    obtain ⟨d, isDigit, rfl⟩ := mem_digit.1 (each part here)
    rwa [List.mem_singleton.1 within]
  · intro all
    refine ⟨word.map fun c => [c], ?_, ?_⟩
    · exact (List.flatMap_singleton' word).symm
    · simp only [List.forall_mem_map]
      exact fun c here => mem_digit.2 ⟨c, List.all_eq_true.1 all c here, rfl⟩

theorem mem_number : word ∈ number.matches' ↔ IsDigitRun word := by
  rw [number, matches'_mul, Language.mem_mul]
  constructor
  · rintro ⟨first, one, rest, more, rfl⟩
    obtain ⟨c, isDigit, rfl⟩ := mem_digit.1 one
    exact ⟨by simp, by simpa [isDigit] using mem_star_digit.1 more⟩
  · rintro ⟨some, all⟩
    obtain ⟨c, rest, rfl⟩ := List.exists_cons_of_ne_nil some
    rw [List.all_cons, Bool.and_eq_true] at all
    exact ⟨[c], mem_digit.2 ⟨c, all.1, rfl⟩, rest, mem_star_digit.2 all.2, rfl⟩

/-- The letters that are folded to one letter are this and its capital. -/
theorem toLower_eq_iff {small large : Char} (letters : small.isUpper = false ∧ large.isUpper = true)
    (pair : capitals.all (fun c => c.toLower = small ↔ c = large) = true) {c : Char} :
    c.toLower = small ↔ c ∈ [small, large] := by
  rw [List.mem_pair]
  cases upper : c.isUpper with
  | true =>
    rw [of_decide_eq_true (List.all_eq_true.1 pair c (mem_capitals.2 upper))]
    have other : c ≠ small := by
      rintro rfl
      rw [letters.1] at upper
      cases upper
    simp [other]
  | false =>
    have kept : c.toLower = c := dif_neg (of_decide_eq_false upper)
    have other : c ≠ large := by
      rintro rfl
      rw [letters.2] at upper
      cases upper
    simp [kept, other]

/-- A cable with one number, or with two and a slash between them. -/
def crossed (first last : Char) : RegularExpression Char :=
  char first * number * perhaps (char '/' * number) * char last

theorem mem_crossed {first last : Char} :
    word ∈ (crossed first last).matches' ↔
      (WordClass.cableLiteral? first last word).isSome = true := by
  simp only [crossed, matches'_mul, Language.mem_mul, mem_char, mem_number, mem_perhaps,
    Option.isSome_iff_exists, cableLiteral?_eq_some_iff]
  constructor
  · rintro ⟨_, ⟨_, ⟨_, rfl, front, run, rfl⟩, more, shape, rfl⟩, _, rfl, rfl⟩
    rcases shape with rfl | ⟨_, rfl, back, run', rfl⟩
    · exact ⟨_, front, front, run, run, rfl, .inl ⟨by simp, rfl⟩⟩
    · exact ⟨_, front, back, run, run', rfl, .inr (by simp)⟩
  · rintro ⟨_, front, back, run, run', rfl, ⟨rfl, rfl⟩ | rfl⟩
    · exact ⟨_, ⟨_, ⟨_, rfl, _, run, rfl⟩, [], .inl rfl, rfl⟩, _, rfl, by simp⟩
    · exact ⟨_, ⟨_, ⟨_, rfl, front, run, rfl⟩, _, .inr ⟨_, rfl, back, run', rfl⟩, rfl⟩, _, rfl,
        by simp⟩

theorem mem_digitsBetween (c : Char) (tail : List Char) :
    word ∈ (char c * number * spelled tail).matches' ↔
      (digitsBetween? [c] tail word).isSome = true := by
  simp only [matches'_mul, Language.mem_mul, mem_char, mem_number, mem_spelled,
    Option.isSome_iff_exists, digitsBetween?_eq_some_iff]
  constructor
  · rintro ⟨_, ⟨_, rfl, ds, run, rfl⟩, _, rfl, rfl⟩
    exact ⟨ds, rfl, run⟩
  · rintro ⟨ds, rfl, run⟩
    exact ⟨_, ⟨_, rfl, ds, run, rfl⟩, _, rfl, rfl⟩

theorem mem_digitsAfter (c : Char) :
    word ∈ (char c * number).matches' ↔ (digitsBetween? [c] [] word).isSome = true := by
  have unended : word ∈ (char c * number * spelled []).matches' ↔
      word ∈ (char c * number).matches' := by
    simp [spelled]
  rw [← unended, mem_digitsBetween]

theorem mem_folded {a b : Char} (as bs : List Char) (ha : ∀ c : Char, c.toLower = a ↔ c ∈ as)
    (hb : ∀ c : Char, c.toLower = b ↔ c ∈ bs) :
    word ∈ (oneOf as * oneOf bs * number).matches' ↔
      (WordClass.foldedDigits? a b word).isSome = true := by
  simp only [matches'_mul, Language.mem_mul, mem_oneOf, mem_number, Option.isSome_iff_exists,
    foldedDigits?_eq_some_iff]
  constructor
  · rintro ⟨_, ⟨_, ⟨c, hc, rfl⟩, _, ⟨d, hd, rfl⟩, rfl⟩, ds, run, rfl⟩
    exact ⟨ds, c, d, (ha c).2 hc, (hb d).2 hd, rfl, run⟩
  · rintro ⟨ds, c, d, hc, hd, rfl, run⟩
    exact ⟨_, ⟨_, ⟨c, (ha c).1 hc, rfl⟩, _, ⟨d, (hb d).1 hd, rfl⟩, rfl⟩, ds, run, rfl⟩

theorem mem_capitalAfter (head : List Char) :
    word ∈ (spelled head * capital).matches' ↔
      (WordClass.capitalAfter? head word).isSome = true := by
  simp only [matches'_mul, Language.mem_mul, mem_spelled, mem_capital, Option.isSome_iff_exists,
    capitalAfter?_eq_some_iff]
  constructor
  · rintro ⟨_, rfl, _, ⟨c, upper, rfl⟩, rfl⟩
    exact ⟨[c], c, upper, rfl, rfl⟩
  · rintro ⟨_, c, upper, rfl, rfl⟩
    exact ⟨_, rfl, _, ⟨c, upper, rfl⟩, rfl⟩

end WordPattern

namespace WordClass
open WordPattern

/-- What the words of the class are like. -/
def pattern : WordClass → RegularExpression Char
  | .cable .knitForward => crossed 'c' 'r'
  | .cable .knitBackward => crossed 'c' 'l'
  | .cable .purlForward => crossed 'p' 'r'
  | .cable .purlBackward => crossed 'p' 'l'
  | .knitTogether => char 'k' * number * spelled ['t', 'o', 'g']
  | .purlTogether => char 'p' * number * spelled ['t', 'o', 'g']
  | .castOn => oneOf ['c', 'C'] * oneOf ['o', 'O'] * number
  | .bindOff => oneOf ['b', 'B'] * oneOf ['o', 'O'] * number
  | .knitRun => char 'k' * number
  | .purlRun => char 'p' * number
  | .placeMarker => spelled ['m'] * capital
  | .removeMarker => spelled ['r', 'm'] * capital

/-- What is taken out of a word of the class. -/
def taken : WordClass → List Char → List Char
  | .cable _, word =>
    match digitRuns word with
    | [run] => run ++ ',' :: run
    | front :: back :: _ => front ++ ',' :: back
    | [] => []
  | .knitTogether, word | .purlTogether, word => word.tail.takeWhile Char.isDigit
  | .castOn, word | .bindOff, word => word.drop 2
  | .knitRun, word | .purlRun, word => word.drop 1
  | .placeMarker, word | .removeMarker, word => word.getLast?.toList

variable {word : List Char}

theorem mem_pattern (k : WordClass) :
    word ∈ k.pattern.matches' ↔ (k.literal? word).isSome = true := by
  have lower_c : ∀ c : Char, c.toLower = 'c' ↔ c ∈ ['c', 'C'] := fun _ =>
    toLower_eq_iff (by decide) (by decide)
  have lower_b : ∀ c : Char, c.toLower = 'b' ↔ c ∈ ['b', 'B'] := fun _ =>
    toLower_eq_iff (by decide) (by decide)
  have lower_o : ∀ c : Char, c.toLower = 'o' ↔ c ∈ ['o', 'O'] := fun _ =>
    toLower_eq_iff (by decide) (by decide)
  cases k with
  | cable crossing => cases crossing <;> exact mem_crossed
  | knitTogether => exact mem_digitsBetween 'k' _
  | purlTogether => exact mem_digitsBetween 'p' _
  | castOn => exact mem_folded _ _ lower_c lower_o
  | bindOff => exact mem_folded _ _ lower_b lower_o
  | knitRun => exact mem_digitsAfter 'k'
  | purlRun => exact mem_digitsAfter 'p'
  | placeMarker => exact mem_capitalAfter ['m']
  | removeMarker => exact mem_capitalAfter _

/-- The literal of a word of the class can be told from the word alone. -/
theorem taken_of_literal? {k : WordClass} {literal : List Char}
    (h : k.literal? word = some literal) : k.taken word = literal := by
  cases k with
  | cable crossing =>
    have cable : ∃ front back, IsDigitRun front ∧ literal = front ++ ',' :: back ∧
        (digitRuns word = [front, back] ∨ digitRuns word = [front] ∧ back = front) := by
      cases crossing <;> exact digitRuns_of_cableLiteral? rfl rfl h
    obtain ⟨front, back, -, rfl, runs | ⟨runs, rfl⟩⟩ := cable <;> simp only [taken, runs]
  | knitTogether | purlTogether =>
    obtain ⟨rfl, run⟩ := digitsBetween?_eq_some_iff.1 h
    have all := List.all_eq_true.1 run.2
    simp [taken, List.takeWhile_append_of_pos all]
  | knitRun | purlRun =>
    obtain ⟨rfl, -⟩ := digitsBetween?_eq_some_iff.1 h
    simp [taken]
  | castOn | bindOff =>
    obtain ⟨c, d, -, -, rfl, -⟩ := foldedDigits?_eq_some_iff.1 h
    rfl
  | placeMarker | removeMarker =>
    obtain ⟨c, -, rfl, rfl⟩ := capitalAfter?_eq_some_iff.1 h
    rfl

theorem eq_of_isSome {k k' : WordClass} (h : (k.literal? word).isSome = true)
    (h' : (k'.literal? word).isSome = true) : k = k' := by
  obtain ⟨l, hl⟩ := Option.isSome_iff_exists.1 h
  obtain ⟨l', hl'⟩ := Option.isSome_iff_exists.1 h'
  exact unique hl hl'

/-- No keyword carries a parameter. -/
theorem literal?_keyword (k : WordClass) :
    ∀ entry ∈ keywords, k.literal? entry.1.toList = none := by
  have each : ∀ k ∈ all, ∀ entry ∈ keywords, k.literal? entry.1.toList = none := by
    decide
  exact each k k.mem_all

end WordClass

/-- What is found first does not depend on the order, if it can be found in one place only. -/
theorem findSome?_eq_of_perm {α β : Type} {f : α → Option β} {as bs : List α} (perm : as.Perm bs)
    (one : ∀ a ∈ bs, ∀ b ∈ bs, (f a).isSome = true → (f b).isSome = true → a = b) :
    as.findSome? f = bs.findSome? f := by
  cases h : as.findSome? f with
  | none =>
    rw [List.findSome?_eq_none_iff] at h
    exact (List.findSome?_eq_none_iff.2 fun b hb => h b (perm.mem_iff.2 hb)).symm
  | some found =>
    obtain ⟨a, ha, here⟩ := List.exists_of_findSome?_eq_some h
    have among := perm.mem_iff.1 ha
    cases h' : bs.findSome? f with
    | none =>
      rw [List.findSome?_eq_none_iff.1 h' a among] at here
      cases here
    | some found' =>
      obtain ⟨b, hb, there⟩ := List.exists_of_findSome?_eq_some h'
      obtain rfl := one a among b hb (by simp [here]) (by simp [there])
      rw [← here, there]

/-- What a word can be tried for: the pattern of a class, or a keyword. -/
inductive Trial where
  | pattern (k : WordClass)
  | keyword (text : String) (token : Token)

namespace Trial

def all : List Trial :=
  WordClass.all.map .pattern ++ keywords.map fun (text, token) => .keyword text token

def pass? (word : List Char) : Trial → Option (Token × List Char)
  | .pattern k => if k.pattern.rmatch word then some (k.token, k.taken word) else none
  | .keyword text token => if text.toList = word then some (token, word) else none

/-- The token and the literal of a word by the first of the trials that it passes. -/
def first (trials : List Trial) (word : List Char) : Token × String :=
  match trials.findSome? (pass? word) with
  | some (t, literal) => (t, .ofList literal)
  | none => (.identifier, .ofList word)

variable {word : List Char}

theorem pass?_pattern (k : WordClass) :
    (pattern k).pass? word = (k.literal? word).map fun l => (k.token, l) := by
  have like : k.pattern.rmatch word = true ↔ (k.literal? word).isSome = true :=
    (rmatch_iff_matches' _ _).trans k.mem_pattern
  cases h : k.literal? word with
  | none => simp [pass?, like, h]
  | some literal => simp [pass?, like, h, WordClass.taken_of_literal? h]

theorem findSome?_keywords (entries : List (String × Token)) :
    (entries.map fun (text, token) => keyword text token).findSome? (pass? word) =
      (entries.lookup (.ofList word)).map fun t => (t, word) := by
  induction entries with
  | nil => rfl
  | cons entry entries ih =>
    obtain ⟨text, token⟩ := entry
    rw [List.map_cons, List.findSome?_cons, ih, List.lookup_cons, pass?]
    by_cases same : text.toList = word
    · subst same
      simp
    · have other : String.ofList word ≠ text := by
        rintro rfl
        exact same String.toList_ofList
      rw [beq_eq_false_iff_ne.2 other, if_neg same]

/-- In the usual order, the patterns come first and the keywords behind them. -/
theorem first_all (word : List Char) : first all word = classify word := by
  have patterns : (WordClass.all.map pattern).findSome? (pass? word) =
      classIn WordClass.all word := by
    rw [List.findSome?_map, classIn]
    exact congrArg (List.findSome? · _) (funext pass?_pattern)
  rw [first, all, List.findSome?_append, patterns, findSome?_keywords, classify]
  cases classIn WordClass.all word with
  | some found => rfl
  | none => cases keywords.lookup (.ofList word) <;> rfl

theorem isSome_pass?_pattern {k : WordClass} :
    ((pattern k).pass? word).isSome = true ↔ (k.literal? word).isSome = true := by
  rw [pass?_pattern, Option.isSome_map]

theorem isSome_pass?_keyword {text : String} {token : Token} :
    ((keyword text token).pass? word).isSome = true ↔ text.toList = word := by
  simp [pass?]

theorem keyword_mem_all {text : String} {token : Token} :
    keyword text token ∈ all ↔ (text, token) ∈ keywords := by
  simp [all]

/-- No word passes two of the trials. -/
theorem unique {t t' : Trial} (ht : t ∈ all) (ht' : t' ∈ all) (h : (t.pass? word).isSome = true)
    (h' : (t'.pass? word).isSome = true) : t = t' := by
  have apart : ∀ k text token, keyword text token ∈ all →
      ((pattern k).pass? word).isSome = true →
      ((keyword text token).pass? word).isSome = true → False := by
    intro k text token known like spelled
    obtain rfl := isSome_pass?_keyword.1 spelled
    rw [isSome_pass?_pattern, k.literal?_keyword _ (keyword_mem_all.1 known)] at like
    cases like
  cases t with
  | pattern k =>
    cases t' with
    | pattern k' =>
      rw [WordClass.eq_of_isSome (isSome_pass?_pattern.1 h) (isSome_pass?_pattern.1 h')]
    | keyword text' token' => exact (apart k text' token' ht' h h').elim
  | keyword text token =>
    cases t' with
    | pattern k' => exact (apart k' text token ht h' h).elim
    | keyword text' token' =>
      have same : text = text' := String.toList_inj.1
        ((isSome_pass?_keyword.1 h).trans (isSome_pass?_keyword.1 h').symm)
      have one : ∀ entry ∈ keywords, ∀ entry' ∈ keywords,
          entry.1 = entry'.1 → entry = entry' := by decide
      cases one _ (keyword_mem_all.1 ht) _ (keyword_mem_all.1 ht') same
      rfl

end Trial

/-- No word is like the patterns of two classes, and no keyword is like any. So it does not matter
in which order a word is tried for the classes, nor if it is tried for keywords before, behind or
between them: token and literal are the same. -/
theorem words_tried_in_any_order :
    (∀ (word : List Char) (k k' : WordClass),
      word ∈ k.pattern.matches' → word ∈ k'.pattern.matches' → k = k') ∧
    (∀ entry ∈ keywords, ∀ k : WordClass, entry.1.toList ∉ k.pattern.matches') ∧
    (∀ (order : List WordClass) (word : List Char), order.Perm WordClass.all →
      classIn order word = classIn WordClass.all word) ∧
    ∀ (trials : List Trial) (word : List Char), trials.Perm Trial.all →
      Trial.first trials word = classify word := by
  refine ⟨?_, ?_, ?_, ?_⟩
  · intro word k k' h h'
    exact WordClass.eq_of_isSome (k.mem_pattern.1 h) (k'.mem_pattern.1 h')
  · intro entry known k h
    rw [k.mem_pattern, k.literal?_keyword entry known] at h
    cases h
  · intro order word perm
    refine findSome?_eq_of_perm perm fun k _ k' _ h h' => ?_
    rw [Option.isSome_map] at h h'
    exact WordClass.eq_of_isSome h h'
  · intro trials word perm
    have found : trials.findSome? (·.pass? word) = Trial.all.findSome? (·.pass? word) :=
      findSome?_eq_of_perm perm fun _ ht _ ht' => Trial.unique ht ht'
    rw [← Trial.first_all, Trial.first, Trial.first, found]

/-- The last trial first, a cable of two numbers and a count in capitals, and a word that is only
like a run of purl stitches up to its last letter. -/
theorem words_tried_in_any_order_turned :
    Trial.first Trial.all.reverse "p2/13l".toList = (.cable .purlBackward, "2,13") ∧
      Trial.first Trial.all.reverse "BO07".toList = (.bindOff, "07") ∧
      Trial.first Trial.all.reverse "p12x".toList = (.identifier, "p12x") ∧
      classIn WordClass.all.reverse "k2tog".toList = some (.knitTogether, ['2']) ∧
      "rmA".toList ∈ WordClass.removeMarker.pattern.matches' ∧
      (∀ k : WordClass, "rmA".toList ∈ k.pattern.matches' → k = .removeMarker) ∧
      ∀ k : WordClass, "p".toList ∉ k.pattern.matches' := by
  obtain ⟨one, none, classes, trials⟩ := words_tried_in_any_order
  have like : "rmA".toList ∈ WordClass.removeMarker.pattern.matches' :=
    (WordClass.mem_pattern _).2 rfl
  refine ⟨?_, ?_, ?_, ?_, like, fun k h => one _ k _ h like, none ("p", .purl) (by decide)⟩
  · rw [trials _ _ (List.reverse_perm _)]
    decide
  · rw [trials _ _ (List.reverse_perm _)]
    decide
  · rw [trials _ _ (List.reverse_perm _)]
    decide
  · rw [classes _ _ (List.reverse_perm _)]
    decide

end Knitting
