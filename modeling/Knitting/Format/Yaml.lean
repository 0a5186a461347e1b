import Knitting.Format.Document

/-! Documents written as YAML. A list stands below its key without further indentation, a
record two columns to the right, and a choice is a tag before what it holds. -/
namespace Knitting.Yaml

/-- A document that fits behind a key or a dash, or the lines that follow there. -/
inductive Layout where
  | inline (text : String)
  | items (lines : List String)
  | fields (lines : List String)
  | tagged (tag : String) (content : Layout)

def indented (lines : List String) : List String := lines.map fun l => "  " ++ l

namespace Layout

def lines : Layout → List String
  | .inline t => [t]
  | .items ls | .fields ls => ls
  | .tagged tag (.inline t) => [s!"!{tag} {t}"]
  | .tagged tag content => s!"!{tag}" :: content.lines

/-- The lines of a tagged document: short content on the line of the tag, else below it. -/
def taggedLines (lead tag : String) : Layout → List String
  | .inline t => [s!"{lead} !{tag} {t}"]
  | content => s!"{lead} !{tag}" :: indented content.lines

def underKey (key : String) : Layout → List String
  | .inline t => [s!"{key}: {t}"]
  | .items ls => s!"{key}:" :: ls
  | .fields ls => s!"{key}:" :: indented ls
  | .tagged tag content => content.taggedLines s!"{key}:" tag

def underDash : Layout → List String
  | .inline t => [s!"- {t}"]
  | .items ls | .fields ls =>
    match ls with
    | [] => ["-"]
    | l :: ls => s!"- {l}" :: indented ls
  | .tagged tag content => content.taggedLines "-" tag

end Layout

mutual

def layout : Document → Layout
  | .number n => .inline (toString n)
  | .text s => .inline (Json.quote s)
  | .letter c => .inline s!"'{c}'"
  | .list [] => .inline "[]"
  | .list (d :: ds) => .items ((layout d).underDash ++ itemLines ds)
  | .record [] => .inline (Json.openBrace ++ Json.closeBrace)
  | .record ((name, d) :: fields) => .fields ((layout d).underKey name ++ fieldLines fields)
  | .table [] => .inline (Json.openBrace ++ Json.closeBrace)
  | .table ((c, d) :: entries) => .fields ((layout d).underKey s!"'{c}'" ++ entryLines entries)
  | .choice name => .inline name
  | .holding name content => .tagged name (layout content)

def itemLines : List Document → List String
  | [] => []
  | d :: ds => (layout d).underDash ++ itemLines ds

def fieldLines : List (String × Document) → List String
  | [] => []
  | (name, d) :: fields => (layout d).underKey name ++ fieldLines fields

def entryLines : List (Char × Document) → List String
  | [] => []
  | (c, d) :: entries => (layout d).underKey s!"'{c}'" ++ entryLines entries

end

def render (d : Document) : String := String.join ((layout d).lines.map fun l => l ++ "\n")

end Knitting.Yaml
