import Knitting.Proofs.Source.Literals

/-! # Classes of words

No word belongs to two classes: its first letter and the kind of its last character tell the
class. So the order in which a word is tried against the classes does not matter, and a word that
is spelled after the pattern of a class is read as one of that class.
-/
namespace Knitting
open Text

/-- The character, with all digits and all capitals taken as one. -/
def ending (c : Char) : Char := if c.isDigit then '0' else if c.isUpper then 'A' else c

/-- The first letter in lower case and the kind of the last character. -/
def outline (word : List Char) : Option Char × Option Char :=
  (word.head?.map Char.toLower, word.getLast?.map ending)

namespace WordClass

def outline : WordClass → Char × Char
  | .cable .knitForward => ('c', 'r')
  | .cable .knitBackward => ('c', 'l')
  | .cable .purlForward => ('p', 'r')
  | .cable .purlBackward => ('p', 'l')
  | .knitTogether => ('k', 'g')
  | .purlTogether => ('p', 'g')
  | .castOn => ('c', '0')
  | .bindOff => ('b', '0')
  | .knitRun => ('k', '0')
  | .purlRun => ('p', '0')
  | .placeMarker => ('m', 'A')
  | .removeMarker => ('r', 'A')

theorem outline_injective {k k' : WordClass} (h : k.outline = k'.outline) : k = k' := by
  have all : ∀ k ∈ WordClass.all, ∀ k' ∈ WordClass.all, k.outline = k'.outline → k = k' := by
    decide
  exact all k (mem_all k) k' (mem_all k') h

end WordClass

theorem outline_append (c last : Char) (inner : List Char) :
    outline (c :: (inner ++ [last])) = (some c.toLower, some (ending last)) := by
  rw [outline, ← List.cons_append, List.getLast?_concat]
  rfl

theorem outline_digits {ds : List Char} (h : IsDigitRun ds) (c : Char) (inner : List Char) :
    outline (c :: (inner ++ ds)) = (some c.toLower, some '0') := by
  obtain ⟨nonempty, digits⟩ := h
  have digit := List.all_eq_true.1 digits _ (List.getLast_mem nonempty)
  rw [← List.dropLast_concat_getLast nonempty, ← List.append_assoc, outline_append, ending,
    if_pos digit]

theorem isAlpha_of_isUpper {c : Char} (h : c.isUpper = true) : c.isAlpha = true :=
  Bool.or_eq_true_iff.2 (.inl h)

theorem not_isDigit_of_isUpper {c : Char} (h : c.isUpper = true) : c.isDigit = false := by
  have capital : 'A'.val ≤ c.val ∧ c.val ≤ 'Z'.val := of_decide_eq_true h
  have low := UInt32.le_iff_toNat_le.1 capital.1
  have nine : '9'.val.toNat < 'A'.val.toNat := by decide
  rw [Char.isDigit, Bool.and_eq_false_iff, decide_eq_false_iff_not, decide_eq_false_iff_not,
    ge_iff_le, UInt32.le_iff_toNat_le, UInt32.le_iff_toNat_le]
  omega

theorem ending_of_isUpper {c : Char} (h : c.isUpper = true) : ending c = 'A' := by
  simp [ending, not_isDigit_of_isUpper h, h]

theorem WordClass.outline_of_literal? {k : WordClass} {word literal : List Char}
    (h : k.literal? word = some literal) :
    Knitting.outline word = (some k.outline.1, some k.outline.2) := by
  cases k with
  | cable crossing =>
    have cable : ∀ first last, cableLiteral? first last word = some literal →
        Knitting.outline word = (some first.toLower, some (ending last)) := by
      intro first last h
      obtain ⟨front, back, -, -, -, ⟨rfl, -⟩ | rfl⟩ := cableLiteral?_eq_some_iff.1 h
      · exact outline_append first last front
      · rw [List.cons_append, List.cons_append, outline_append]
    cases crossing <;> exact cable _ _ h
  | knitTogether | purlTogether =>
    obtain ⟨rfl, -⟩ := digitsBetween?_eq_some_iff.1 h
    have shape : ∀ c,
        [c] ++ literal ++ ['t', 'o', 'g'] = c :: (literal ++ ['t', 'o'] ++ ['g']) := by
      simp
    rw [shape]
    exact outline_append _ 'g' _
  | knitRun | purlRun =>
    obtain ⟨rfl, run⟩ := digitsBetween?_eq_some_iff.1 h
    rw [List.append_nil]
    exact outline_digits run _ []
  | castOn | bindOff =>
    obtain ⟨c, d, lower, -, rfl, run⟩ := foldedDigits?_eq_some_iff.1 h
    rw [outline, ← lower]
    exact outline_digits run c [d]
  | placeMarker =>
    obtain ⟨c, upper, -, rfl⟩ := capitalAfter?_eq_some_iff.1 h
    rw [outline, ← ending_of_isUpper upper]
    exact outline_append 'm' c []
  | removeMarker =>
    obtain ⟨c, upper, -, rfl⟩ := capitalAfter?_eq_some_iff.1 h
    rw [outline, ← ending_of_isUpper upper]
    exact outline_append 'r' c ['m']

theorem WordClass.unique {k k' : WordClass} {word l l' : List Char}
    (h : k.literal? word = some l) (h' : k'.literal? word = some l') : k = k' := by
  have same := (outline_of_literal? h).symm.trans (outline_of_literal? h')
  simp only [Prod.mk.injEq, Option.some.injEq] at same
  exact outline_injective (Prod.ext same.1 same.2)

theorem classify_of_literal? {k : WordClass} {word literal : List Char}
    (h : k.literal? word = some literal) : classify word = (k.token, String.ofList literal) := by
  have found : (classIn WordClass.all word).isSome := by
    rw [classIn, List.findSome?_isSome_iff]
    exact ⟨k, k.mem_all, by simp [h]⟩
  obtain ⟨⟨t, l⟩, hclass⟩ := Option.isSome_iff_exists.1 found
  obtain ⟨k', -, hl, rfl⟩ := classIn_eq_some hclass
  obtain rfl := WordClass.unique h hl
  rw [h] at hl
  cases hl
  rw [classify, hclass]

/-- An identifier is spelled by its word. -/
theorem classify_of_identifier {word : List Char} (h : (classify word).1 = .identifier) :
    classify word = (.identifier, String.ofList word) := by
  unfold classify at h ⊢
  split at h
  · rename_i t literal hclass
    obtain ⟨k, -, -, rfl⟩ := classIn_eq_some hclass
    cases k <;> cases h
  · rename_i hclass
    simpa [hclass] using h

end Knitting
