/-! Arguments of a command line by their look. -/
namespace Knitting.CommandLine

inductive Argument where
  /-- stands before arguments that are taken as they are -/
  | separator
  /-- a name with its hyphens, and what is attached to it -/
  | named (name : String) (attached : Option String)
  | plain (text : String)
  deriving DecidableEq, Repr

namespace Argument

/-- A long name ends at the first `=`, which parts it from a value. -/
def long (body : List Char) : Argument :=
  match body.span (· ≠ '=') with
  | (name, []) => .named (String.ofList ('-' :: '-' :: name)) none
  | (name, _ :: value) => .named (String.ofList ('-' :: '-' :: name)) (some (String.ofList value))

/-- A short name is one letter. A value follows it at once or behind `=`. -/
def short (letter : Char) : List Char → Argument
  | [] => .named (String.ofList ['-', letter]) none
  | '=' :: value => .named (String.ofList ['-', letter]) (some (String.ofList value))
  | value => .named (String.ofList ['-', letter]) (some (String.ofList value))

/-- A hyphen alone is no name. -/
def ofText (text : String) : Argument :=
  match text.toList with
  | ['-', '-'] => .separator
  | '-' :: '-' :: body => long body
  | '-' :: letter :: attached => short letter attached
  | _ => .plain text

end Argument

end Knitting.CommandLine
