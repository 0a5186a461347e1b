import Knitting.Text.Visible

/-! Quoted text in messages: what could not be read on a line of its own is escaped. -/
namespace Knitting.Text

/-- A code point in hexadecimal, between braces. -/
def codePointEscape (c : Char) : List Char :=
  '\\' :: 'u' :: '\x7b' :: Nat.toDigits 16 c.toNat ++ ['\x7d']

/-- One character as it stands between two `quote` characters. -/
def escapeChar (quote c : Char) : List Char :=
  if c = '\x00' then ['\\', '0']
  else if c = '\t' then ['\\', 't']
  else if c = '\r' then ['\\', 'r']
  else if c = '\n' then ['\\', 'n']
  else if c = '\\' ∨ c = quote then ['\\', c]
  else if isVisible c then [c]
  else codePointEscape c

def between (quote : Char) (cs : List Char) : String :=
  String.ofList (quote :: (cs.flatMap (escapeChar quote) ++ [quote]))

def quoteText (text : String) : String := between '"' text.toList

def quoteChar (c : Char) : String := between '\'' [c]

end Knitting.Text
