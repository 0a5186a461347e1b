import Knitting.Decimal.Double

/-! Values of settings. -/
namespace Knitting

inductive Setting where
  | empty
  | flag (b : Bool)
  | integer (n : Int)
  | float (x : Double)
  | text (s : String)
  | list (items : List Setting)
  | table (entries : List (String × Setting))
  deriving Repr

namespace Setting

def entries : Setting → List (String × Setting)
  | .table es => es
  | _ => []

def items : Setting → List Setting
  | .list xs => xs
  | _ => []

def get? (s : Setting) (key : String) : Option Setting := s.entries.lookup key

end Setting

end Knitting
