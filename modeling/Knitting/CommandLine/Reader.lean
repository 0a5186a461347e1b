import Knitting.CommandLine.Argument
import Knitting.CommandLine.Command

/-! # Reading a command line

The arguments are read from left to right, and the first that is wrong, or that asks for help or
for the version, decides. A file of settings can be given at every command on the way; the last
command at which one is given wins.
-/
namespace Knitting.CommandLine

inductive UsageError where
  | unknownArgument (text : String)
  | missingCommand
  | missingOperand (name : String)
  | missingValue (parameter : Parameter)
  | repeatedParameter (parameter : Parameter)
  | unsuitableValue (parameter : Parameter) (value : String)
  deriving DecidableEq, Repr

def UsageError.message : UsageError → String
  | .unknownArgument text => s!"unexpected argument '{text}'"
  | .missingCommand => "a command is missing"
  | .missingOperand name => s!"<{name}> is missing"
  | .missingValue p => s!"a value for '{p.long}' is missing"
  | .repeatedParameter p => s!"'{p.long}' cannot be used twice"
  | .unsuitableValue p value => s!"unsuitable value '{value}' for '{p.long}'"

/-- What has been given so far: at the commands on the way, and at the current one. -/
structure Choices where
  outerConfig : Option String := none
  config : Option String := none
  format : Option OutputFormat := none
  policy : Option Policy := none
  operand : Option String := none
  deriving DecidableEq, Repr

namespace Choices

def configFile (given : Choices) : Option String := given.config.or given.outerConfig

def below (given : Choices) : Choices := { outerConfig := given.configFile }

end Choices

namespace Command

/-- Takes the value of a parameter that has not been given yet. -/
def choose (c : Command) (given : Choices) (p : Parameter) (value : String) :
    Except UsageError Choices :=
  match p with
  | .config =>
    if given.config.isSome then .error (.repeatedParameter p)
    else .ok { given with config := some value }
  | .format =>
    match OutputFormat.ofText? value with
    | none => .error (.unsuitableValue p value)
    | some format =>
      if format ∉ c.formats then .error (.unsuitableValue p value)
      else if given.format.isSome then .error (.repeatedParameter p)
      else .ok { given with format }
  | .policy =>
    match Policy.ofText? value with
    | none => .error (.unsuitableValue p value)
    | some policy =>
      if given.policy.isSome then .error (.repeatedParameter p)
      else .ok { given with policy }

/-- Takes an operand, if the command has one and it has not been given yet. -/
def takeOperand (c : Command) (given : Choices) (text : String) : Except UsageError Choices :=
  if c.operand?.isNone ∨ given.operand.isSome then .error (.unknownArgument text)
  else .ok { given with operand := some text }

/-- Arguments that are operands whatever they look like. -/
def takeOperands (c : Command) (given : Choices) (texts : List String) :
    Except UsageError Choices :=
  texts.foldlM c.takeOperand given

def task (c : Command) (format : OutputFormat) (operand : Option String) :
    Except UsageError Task :=
  match c, operand with
  | .report stage, some path => .ok (.report ⟨stage, format⟩ path)
  | .newSession, some name => .ok (.newSession name)
  | .showSession, some file => .ok (.showSession file)
  | .listSessions, _ => .ok .listSessions
  | _, _ => .error (c.operand?.elim .missingCommand .missingOperand)

def request (c : Command) (given : Choices) : Except UsageError Request := do
  let task ← c.task (given.format.getD .simple) given.operand
  return .task task given.configFile given.policy

/-- The command that names lead to, asked for its usage. The word for help is such a name itself. -/
def help (c : Command) : List String → Except UsageError Request
  | [] => .ok (.help c)
  | name :: names =>
    match c.subcommands.lookup name with
    | some below => below.help names
    | none =>
      if name = "help" ∧ c.subcommands ≠ [] ∧ names = [] then .ok (.help c)
      else .error (.unknownArgument name)

def read (c : Command) (given : Choices) : List String → Except UsageError Request
  | [] => c.request given
  | text :: rest =>
    match Argument.ofText text with
    | .separator =>
      match c.takeOperands given rest with
      | .ok given => c.request given
      | .error e => .error e
    | .plain word =>
      match c.subcommands.lookup word with
      | some below => below.read given.below rest
      | none =>
        if word = "help" ∧ c.subcommands ≠ [] then c.help rest
        else
          match c.takeOperand given word with
          | .ok given => c.read given rest
          | .error e => .error e
    | .named name attached =>
      if name = "-h" ∨ (name = "--help" ∧ attached = none) then .ok (.help c)
      else if c = .root ∧ (name = "-V" ∨ (name = "--version" ∧ attached = none)) then .ok .version
      else
        match c.parameter? name, attached, rest with
        | none, _, _ => .error (.unknownArgument text)
        | some p, some value, rest =>
          match c.choose given p value with
          | .ok given => c.read given rest
          | .error e => .error e
        | some p, none, [] => .error (.missingValue p)
        | some p, none, value :: rest =>
          match Argument.ofText value with
          | .plain value =>
            match c.choose given p value with
            | .ok given => c.read given rest
            | .error e => .error e
          | _ => .error (.missingValue p)

end Command

def Request.ofArguments (arguments : List String) : Except UsageError Request :=
  Command.root.read {} arguments

end Knitting.CommandLine
