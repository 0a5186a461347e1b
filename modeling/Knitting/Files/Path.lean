/-! Paths as they are written: names with slashes between them. -/
namespace Knitting.Path

/-- The names of a path, innermost last. Slashes side by side have an empty name between them. -/
def splitNames : List Char → List (List Char)
  | [] => [[]]
  | c :: cs =>
    if c = '/' then [] :: splitNames cs
    else
      match splitNames cs with
      | [] => [[c]]
      | name :: names => (c :: name) :: names

theorem splitNames_ne_nil (cs : List Char) : splitNames cs ≠ [] := by
  cases cs with
  | nil => simp [splitNames]
  | cons c cs =>
    simp only [splitNames]
    split
    · simp
    · split <;> simp

def names (path : String) : List String := (splitNames path.toList).map String.ofList

def isAbsolute (path : String) : Bool := path.toList.head? = some '/'

/-- A path seen from a folder. An absolute path stays as it is. -/
def join (folder path : String) : String :=
  if isAbsolute path ∨ folder = "" then path
  else if folder.toList.getLast? = some '/' then folder ++ path
  else folder ++ "/" ++ path

/-- A path with an ending added to its last name. Names that stay in their folder do not count
behind it; a path that ends by going up, or without a name, has no last name. -/
def addEnding (path ending : String) : Option String :=
  match (names path).reverse.dropWhile fun name => name = "" ∨ name = "." with
  | [] | ".." :: _ => none
  | name :: outer => some ("/".intercalate ((name ++ ending) :: outer).reverse)

end Knitting.Path
