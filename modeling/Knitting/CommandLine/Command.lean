import Knitting.Report.Basic

/-! # Commands

The commands that a command line can name, what each of them takes, and what it asks for. A
command with others below it does nothing on its own.
-/
namespace Knitting.CommandLine

inductive Command where
  | root
  | report (stage : Stage)
  | session
  | newSession
  | listSessions
  | showSession
  deriving DecidableEq, Repr

inductive Parameter where
  | config
  | format
  | policy
  deriving DecidableEq, Repr

def Parameter.short : Parameter → String
  | .config => "-c"
  | .format => "-f"
  | .policy => "-p"

def Parameter.long : Parameter → String
  | .config => "--config"
  | .format => "--format"
  | .policy => "--policy"

namespace Command

/-- The commands below one, by their names. -/
def subcommands : Command → List (String × Command)
  | .root => [("tokens", .report .token), ("parse", .report .ast), ("compile", .report .rows),
      ("session", .session)]
  | .session => [("new", .newSession), ("list", .listSessions), ("show", .showSession)]
  | _ => []

def words : Command → String
  | .root => "knit"
  | .report .token => "knit tokens"
  | .report .ast => "knit parse"
  | .report .rows => "knit compile"
  | .session => "knit session"
  | .newSession => "knit session new"
  | .listSessions => "knit session list"
  | .showSession => "knit session show"

/-- What the operand of a command is called. -/
def operand? : Command → Option String
  | .report _ => some "path"
  | .newSession => some "name"
  | .showSession => some "file"
  | _ => none

def parameters : Command → List Parameter
  | .report .rows => [.config, .format, .policy]
  | .report _ => [.config, .format]
  | _ => [.config]

def parameter? (c : Command) (name : String) : Option Parameter :=
  c.parameters.find? fun p => name = p.short ∨ name = p.long

def formats : Command → List OutputFormat
  | .report stage => (ReportKind.all.filter (·.stage = stage)).map ReportKind.format
  | _ => []

def usage (c : Command) : String :=
  let parameters := String.join (c.parameters.map fun p => s!" [{p.long} <value>]")
  let names := c.subcommands.map Prod.fst
  let command := if names = [] then "" else " <" ++ "|".intercalate names ++ ">"
  let operand := (c.operand?.map fun name => s!" <{name}>").getD ""
  s!"Usage: {c.words}{parameters}{command}{operand}\n"

end Command

inductive Task where
  | report (kind : ReportKind) (path : String)
  | newSession (name : String)
  | listSessions
  | showSession (file : String)
  deriving DecidableEq, Repr

inductive Request where
  | help (command : Command)
  | version
  | task (task : Task) (config : Option String) (policy : Option Policy)
  deriving DecidableEq, Repr

end Knitting.CommandLine
