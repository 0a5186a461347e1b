import Knitting.CommandLine.Reader
import Knitting.Files.Path
import Knitting.Session.Store
import Knitting.Settings.Layer

/-! # What a command line does

A run ends with an exit code and with what it has written. Settings come from the file that is
named, with a policy laid over it; they are loaded before anything else is read.
-/
namespace Knitting.CommandLine

structure Outcome where
  code : UInt8
  output : String := ""
  errors : String := ""
  deriving DecidableEq, Repr

inductive Failure where
  | settings (error : SettingsError)
  | report (error : ReportError)
  | store (error : StoreError)
  deriving DecidableEq, Repr

def Failure.message : Failure → String
  | .settings e => s!"Configuration error: {e.message}"
  | .report e => s!"Error: {e.message}"
  | .store e => s!"Session error: {e.message}"

def versionText : String := "knit 0.1.0\n"

/-- The ending that the name of a file of settings may lack. -/
def configEnding : String := ".toml"

section
variable {m : Type → Type} [Monad m] [Files m]

def content? (path : String) : m (Option String) := do
  return (← Files.read (m := m) path).toOption

/-- The content of a file of settings, or of the one with the ending added to its name. -/
def configContent? (path : String) : m (Option String) := do
  match ← content? (m := m) path with
  | some content => return some content
  | none =>
    match Path.addEnding path configEnding with
    | some path => content? path
    | none => return none

def loadSettings (config : Option String) (policy : Option Policy) :
    ExceptT Failure m Settings := do
  let file : List Layer ←
    match config with
    | some path => pure [.file (← configContent? (m := m) path)]
    | none => pure []
  let layers := file ++ (policy.map Layer.policy).toList
  (ExceptT.mk (pure (Settings.load layers)) : ExceptT SettingsError m Settings).adapt .settings

def Task.perform (now : Timestamp) (settings : Settings) (t : Task) :
    ExceptT Failure m String := do
  let store : SessionStore := ⟨settings.directory⟩
  match t with
  | .report kind path =>
    match ← Files.read (m := m) path with
    | .error e => throw (.report (.unreadable s!"{path}: {e.message}"))
    | .ok source =>
      match Knitting.report kind settings.policy settings.chart source with
      | .error e => throw (.report (.pattern e))
      | .ok text => return text
  | .newSession name =>
    let session ← (store.create (m := m) name now).adapt .store
    return s!"Created session {session.name} ({session.fileName})\n"
  | .listSessions => return unlines (← (store.list (m := m)).adapt .store)
  | .showSession file =>
    let session ← (store.load (m := m) file).adapt .store
    return unlines [s!"id:   {session.id}", s!"name: {session.name}", s!"row:  {session.row}"]

def Request.perform (now : Timestamp) : Request → m Outcome
  | .help c => return { code := 0, output := c.usage }
  | .version => return { code := 0, output := versionText }
  | .task t config policy => do
    let result ← (do t.perform now (← loadSettings config policy) : ExceptT Failure m String).run
    match result with
    | .ok output => return { code := 0, output }
    | .error failure => return { code := 1, errors := failure.message ++ "\n" }

def run (now : Timestamp) (arguments : List String) : m Outcome :=
  match Request.ofArguments arguments with
  | .ok request => request.perform now
  | .error e => return { code := 2, errors := s!"error: {e.message}\n" }

end

end Knitting.CommandLine
