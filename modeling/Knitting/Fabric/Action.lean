import Knitting.Fabric.Needle

/-! The single actions that working an expression comes down to: stitches and marker actions,
in the order in which they are done, up to the first that cannot be done. -/
namespace Knitting

inductive Action where
  | work (s : Stitch)
  | mark (action : MarkerAction)
  deriving DecidableEq, Repr

namespace Craft

variable {σ ε : Type}

/-- Does `pass`, and notes where it begins, in front of the notes made before. -/
def noting (pass : σ → Except ε σ) : σ × List σ → Except (ε × List σ) (σ × List σ)
  | (a, starts) =>
    match pass a with
    | .error stop => .error (stop, a :: starts)
    | .ok next => .ok (next, a :: starts)

def notes : Except (ε × List σ) (σ × List σ) → List σ
  | .error (_, starts) => starts
  | .ok (_, starts) => starts

/-- Where `repeatPasses` begins its passes, told by the loop itself. -/
def passStarts (count : σ → Nat) (pass : σ → Except ε σ) (passes : Nat) (idle : Bool) (a : σ) :
    List σ :=
  (notes (repeatPasses (fun s => count s.1) (noting pass) passes idle (a, []))).reverse

end Craft

namespace Needle

def act : Action → Needle → Except Snag Needle
  | .work s, n => n.work s
  | .mark a, n => n.mark a

/-- The action alone, if it can be done. -/
def done (a : Action) (n : Needle) : List Action :=
  match n.act a with
  | .ok _ => [a]
  | .error _ => []

/-- The actions done in the passes of a repeat, where `pass` makes one pass and `doneIn` gives
its actions. -/
def doneInPasses (pass : Needle → Except Snag Needle) (doneIn : Needle → List Action)
    (passes : Nat) (idle : Bool) (n : Needle) : List Action :=
  (Craft.passStarts count pass passes idle n).flatMap doneIn

end Needle

namespace Expr

mutual

/-- The actions that are done when an expression is worked from a needle. -/
def done : Expr → Needle → List Action
  | .stitch s, n => n.done (.work s)
  | .group es, n => doneAll es n
  | .times e count, n =>
    match n.passesOf e count with
    | .error _ => []
    | .ok passes =>
      Needle.doneInPasses (fun n => e.expand n) (fun n => e.done n) passes false n
  | .leaving e count, n =>
    match n.passesLeaving e count with
    | .error _ => []
    | .ok passes =>
      Needle.doneInPasses (fun n => e.expand n) (fun n => e.done n) passes false n
  | .marker a, n => n.done (.mark a)

def doneAll : List Expr → Needle → List Action
  | [], _ => []
  | e :: es, n =>
    e.done n ++
      match e.expand n with
      | .error _ => []
      | .ok next => doneAll es next

end

end Expr

end Knitting
