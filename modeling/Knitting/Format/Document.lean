import Knitting.Text.Hexadecimal

/-! Structured documents, and how they are written as JSON. -/
namespace Knitting

/-- A document. A choice names one of several alternatives; what it holds, if anything, follows
the name. A table is a record whose keys are single characters. -/
inductive Document where
  | number (n : Nat)
  | text (s : String)
  | letter (c : Char)
  | list (items : List Document)
  | record (fields : List (String × Document))
  | table (entries : List (Char × Document))
  | choice (name : String)
  | holding (name : String) (content : Document)
  deriving Repr

namespace Json

open Text (hexDigit)

/-- A character between double quotes: quotes, backslashes and control characters are escaped,
everything else stands for itself. -/
def escapeChar (c : Char) : List Char :=
  if c = '"' then ['\\', '"']
  else if c = '\\' then ['\\', '\\']
  else if c = '\n' then ['\\', 'n']
  else if c = '\r' then ['\\', 'r']
  else if c = '\t' then ['\\', 't']
  else if c = '\x08' then ['\\', 'b']
  else if c = '\x0c' then ['\\', 'f']
  else if c.toNat < 0x20 then ['\\', 'u', '0', '0', hexDigit (c.toNat / 16), hexDigit c.toNat]
  else [c]

def quote (s : String) : String :=
  String.ofList ('"' :: (s.toList.flatMap escapeChar ++ ['"']))

def openBrace : String := "\x7b"

def closeBrace : String := "\x7d"

mutual

def compact : Document → String
  | .number n => toString n
  | .text s => quote s
  | .letter c => quote c.toString
  | .list items => "[" ++ ",".intercalate (compactItems items) ++ "]"
  | .record fields => openBrace ++ ",".intercalate (compactFields fields) ++ closeBrace
  | .table entries => openBrace ++ ",".intercalate (compactEntries entries) ++ closeBrace
  | .choice name => quote name
  | .holding name content => openBrace ++ quote name ++ ":" ++ compact content ++ closeBrace

def compactItems : List Document → List String
  | [] => []
  | d :: ds => compact d :: compactItems ds

def compactFields : List (String × Document) → List String
  | [] => []
  | (name, d) :: fields => (quote name ++ ":" ++ compact d) :: compactFields fields

def compactEntries : List (Char × Document) → List String
  | [] => []
  | (name, d) :: entries => (quote name.toString ++ ":" ++ compact d) :: compactEntries entries

end

/-- Parts between brackets, each on a line of its own and indented below the brackets. -/
def spread (indent left right : String) (parts : List String) : String :=
  if parts.isEmpty then left ++ right
  else
    let inner := "\n" ++ indent ++ "  "
    left ++ inner ++ ("," ++ inner).intercalate parts ++ "\n" ++ indent ++ right

mutual

/-- A document with each part on a line of its own; `indent` stands before its last line. -/
def pretty (indent : String) : Document → String
  | .number n => toString n
  | .text s => quote s
  | .letter c => quote c.toString
  | .list items => spread indent "[" "]" (prettyItems (indent ++ "  ") items)
  | .record fields => spread indent openBrace closeBrace (prettyFields (indent ++ "  ") fields)
  | .table entries => spread indent openBrace closeBrace (prettyEntries (indent ++ "  ") entries)
  | .choice name => quote name
  | .holding name content =>
    spread indent openBrace closeBrace [quote name ++ ": " ++ pretty (indent ++ "  ") content]

def prettyItems (indent : String) : List Document → List String
  | [] => []
  | d :: ds => pretty indent d :: prettyItems indent ds

def prettyFields (indent : String) : List (String × Document) → List String
  | [] => []
  | (name, d) :: fields =>
    (quote name ++ ": " ++ pretty indent d) :: prettyFields indent fields

def prettyEntries (indent : String) : List (Char × Document) → List String
  | [] => []
  | (name, d) :: entries =>
    (quote name.toString ++ ": " ++ pretty indent d) :: prettyEntries indent entries

end

end Json

end Knitting
