import Knitting.Proofs.Text.Digits
import Knitting.Report.Chart

/-! # Images of cables

The name of a cable's image has the digits of both counts side by side, so it tells where one number
ends and the other begins only if the length of one is known.
-/
namespace Knitting

def Crossing.imageEnding : Crossing → String
  | .knitForward => "rc.jpg"
  | .knitBackward => "lc.jpg"
  | .purlForward => "rpc.jpg"
  | .purlBackward => "lpc.jpg"

theorem Crossing.imageEnding_injective {c c' : Crossing} (h : c.imageEnding = c'.imageEnding) :
    c = c' := by
  cases c <;> cases c' <;> first | rfl | exact absurd h (by decide)

theorem Crossing.notFirst_imageEnding (c : Crossing) :
    NotFirst Char.isDigit c.imageEnding.toList := by
  cases c <;> simp [imageEnding, NotFirst]

namespace Stitch

variable {c c' : Crossing} {front back front' back' : UInt32}

theorem image?_cable (c : Crossing) (front back : UInt32) :
    image? (.cable c front back) = some (String.ofList
      ("rec/".toList ++ ((digits front ++ digits back) ++ c.imageEnding.toList))) := by
  cases c <;> simp [image?, Crossing.imageEnding, digits, toString_string, ← String.toList_inj]

/-- Two cables have the same image exactly if they cross the same way and the digits of their counts
are the same, one number behind the other. -/
theorem image?_cable_eq_iff :
    image? (.cable c front back) = image? (.cable c' front' back') ↔
      c = c' ∧ digits front ++ digits back = digits front' ++ digits back' := by
  have run (m n : UInt32) : ∀ d ∈ digits m ++ digits n, d.isDigit = true :=
    List.forall_mem_append.2 ⟨fun _ => isDigit_of_mem_digits, fun _ => isDigit_of_mem_digits⟩
  rw [image?_cable, image?_cable, Option.some.injEq, String.ofList_inj, List.append_cancel_left_eq]
  constructor
  · intro same
    obtain ⟨counts, ending⟩ := c.notFirst_imageEnding.cancel c'.notFirst_imageEnding
      (run front back) (run front' back') same
    exact ⟨Crossing.imageEnding_injective (String.toList_inj.1 ending), counts⟩
  · rintro ⟨rfl, counts⟩
    rw [counts]

/-- An image tells a cable only together with the length of its first count. -/
theorem cable_told_by_image :
    (image? (.cable c front back) = image? (.cable c' front' back') ↔
      c = c' ∧ digits front ++ digits back = digits front' ++ digits back') ∧
    (cable c front back = cable c' front' back' ↔
      image? (.cable c front back) = image? (.cable c' front' back') ∧
        (digits front).length = (digits front').length) := by
  refine ⟨image?_cable_eq_iff, ?_⟩
  rw [image?_cable_eq_iff]
  constructor
  · rintro ⟨⟩
    exact ⟨⟨rfl, rfl⟩, rfl⟩
  · rintro ⟨⟨rfl, counts⟩, length⟩
    obtain ⟨first, second⟩ := List.append_inj counts length
    rw [digits_injective first, digits_injective second]

/-- A cable of one stitch over eleven and one of eleven over one are drawn with one image. -/
theorem two_cables_with_one_image :
    ¬ ∀ c c' front back front' back',
      image? (.cable c front back) = image? (.cable c' front' back') →
        cable c front back = cable c' front' back' := by
  intro told
  have same := told .knitForward .knitForward 1 11 11 1 rfl
  exact absurd same (by decide)

end Stitch
end Knitting
