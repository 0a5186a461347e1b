import Knitting.Fabric.Action
import Knitting.Proofs.Row.EarlyStop

/-! # Rows written out

A row whose repeats all say how often they are worked comes down to a list of single actions, known
before anything is worked. Working the row is doing these actions one after another, however many
of them an early stop leaves out.
-/
namespace Knitting
namespace Expr

mutual

/-- Every repeat says how often it is worked. -/
def counted : Expr → Bool
  | .stitch _ => true
  | .group es => countedAll es
  | .times e count => count != 0 && e.counted
  | .leaving _ _ => false
  | .marker _ => true

def countedAll : List Expr → Bool
  | [] => true
  | e :: es => e.counted && countedAll es

end

mutual

def written : Expr → List Action
  | .stitch s => [.work s]
  | .group es => writtenAll es
  | .times e count => (List.replicate count.toNat e.written).flatten
  | .leaving _ _ => []
  | .marker a => [.mark a]

def writtenAll : List Expr → List Action
  | [] => []
  | e :: es => e.written ++ writtenAll es

end

theorem expandAll_eq_actAll {es : List Expr}
    (hes : ∀ e ∈ es, e.counted → ∀ n : Needle, e.expand n = n.actAll e.written)
    (h : countedAll es) (n : Needle) : expandAll es n = n.actAll (writtenAll es) := by
  induction es generalizing n with
  | nil => rfl
  | cons e es ih =>
    rw [countedAll, Bool.and_eq_true] at h
    rw [expandAll_cons, writtenAll, hes e List.mem_cons_self h.1, Needle.actAll, Needle.actAll,
      visit_append]
    cases visit (fun n a => Needle.act a n) e.written n with
    | error snag => rfl
    | ok next => exact ih (fun e he => hes e (List.mem_cons_of_mem _ he)) h.2 next

theorem expand_eq_actAll (e : Expr) (h : e.counted) (n : Needle) :
    e.expand n = n.actAll e.written := by
  induction e generalizing n with
  | stitch s => exact (n.actAll_singleton (.work s)).symm
  | group es ih => exact expandAll_eq_actAll (fun e he h n => ih e he h n) h n
  | times e count ih =>
    rw [counted, Bool.and_eq_true, bne_iff_ne] at h
    have passes : n.passesOf e count = .ok count.toNat :=
      Needle.passesOf_eq_ok_iff.2 (.inl ⟨h.1, rfl⟩)
    have each : e.expand = fun n => n.actAll e.written := funext (ih h.2)
    rw [expand_times, passes]
    dsimp only
    rw [Needle.repeatPasses_eq_replay (Needle.steady_expand e), each, written]
    exact replay_visit _ e.written count.toNat n
  | leaving e count => cases h
  | marker a => exact (n.actAll_singleton (.mark a)).symm

end Expr
end Knitting
