import Knitting.Files.Basic
import Knitting.Files.Path
import Knitting.Session.Record
import Knitting.Text.Quoted

/-! The store of sessions: a folder with one file for each session. -/
namespace Knitting

inductive StoreError where
  | files (path : String) (error : FileError)
  | unreadable (path : String) (flaw : Json.Flaw)
  | emptyName (name : String)
  deriving DecidableEq, Repr

def Json.Flaw.message : Json.Flaw → String
  | .unfinished => "the text ends too early"
  | .malformed => "the text is malformed"
  | .unsuitable => "the text is no session"

def StoreError.message : StoreError → String
  | .files path e => s!"session store error at {path}: {e.message}"
  | .unreadable path flaw => s!"invalid session file {path}: {flaw.message}"
  | .emptyName name => s!"session name {Text.quoteText name} has no usable characters"

/-- How a session is written to a file, and read from one. -/
class SessionFormat where
  text : Session → String
  ofText : String → Except Json.Flaw Session

instance : SessionFormat := ⟨Session.text, Session.ofText⟩

structure SessionStore where
  directory : String
  deriving DecidableEq, Repr

namespace SessionStore

variable {m : Type → Type} [Monad m] [Files m]

def path (store : SessionStore) (file : String) : String := Path.join store.directory file

def isSessionFile (file : String) : Bool := sessionEnding.isSuffixOf file.toList

/-- The names of the session files, in the order of their code points. A folder that is missing
has none. -/
def list (store : SessionStore) : ExceptT StoreError m (List String) := do
  match ← Files.list (m := m) store.directory with
  | .ok names => return (names.filter isSessionFile).mergeSort
  | .error .missing => return []
  | .error e => throw (.files store.directory e)

section Stored
variable [SessionFormat]

def load (store : SessionStore) (file : String) : ExceptT StoreError m Session := do
  match ← Files.read (m := m) (store.path file) with
  | .error e => throw (.files (store.path file) e)
  | .ok content =>
    match SessionFormat.ofText content with
    | .ok session => return session
    | .error flaw => throw (.unreadable (store.path file) flaw)

def save (store : SessionStore) (session : Session) (now : Timestamp) :
    ExceptT StoreError m Session := do
  let saved := { session with modified := now }
  let path := store.path saved.fileName
  match ← Files.makeFolders (m := m) store.directory with
  | .error e => throw (.files store.directory e)
  | .ok () =>
    match ← Files.write (m := m) path (SessionFormat.text saved) with
    | .error e => throw (.files path e)
    | .ok () => return saved

/-- Begins a session. Its number is that of the session files there are. -/
def create (store : SessionStore) (name : String) (now : Timestamp) :
    ExceptT StoreError m Session := do
  if fileStem name = [] then throw (.emptyName name)
  let files ← store.list
  store.save (.fresh (UInt64.ofNat files.length) name) now

def advance (store : SessionStore) (file : String) (row : UInt32) (now : Timestamp) :
    ExceptT StoreError m Session := do
  let session ← store.load file
  store.save { session with row } now

end Stored

end SessionStore

end Knitting
