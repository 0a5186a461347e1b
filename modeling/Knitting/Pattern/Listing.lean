import Knitting.Pattern.Basic

/-! The listing of a pattern: one line for each row, indented below its section or block. -/
namespace Knitting

namespace Expr

mutual

def text : Expr → String
  | .stitch s => s.text
  | .group es => "(" ++ ", ".intercalate (texts es) ++ ")"
  | .times e n => if n = 0 then s!"Rep ({e.text})" else s!"Rep {n.toNat} ({e.text})"
  | .leaving e n => s!"Rep until {n.toNat} ({e.text})"
  | .marker (.place name) => "Place marker " ++ name.toString
  | .marker (.remove name) => "Remove marker " ++ name.toString

def texts : List Expr → List String
  | [] => []
  | e :: es => e.text :: texts es

end

end Expr

def Row.text (r : Row) : String := ", ".intercalate (Expr.texts r.content)

def Item.lines : Item → List String
  | .row r => [s!"  Row: {r.text}"]
  | .block b => s!"  Repeat {b.count.toNat} times:" :: b.rows.map fun r => s!"    Row: {r.text}"

def Section.lines (s : Section) : List String :=
  s!"Section: {s.name}" :: s.content.flatMap Item.lines

def unlines (lines : List String) : String := String.join (lines.map fun l => l ++ "\n")

def Section.text (s : Section) : String := unlines s.lines

end Knitting
