import Std.Time.DateTime.Timestamp
import Knitting.CommandLine.Outcome

/-! The program: the command line of the process, on the files and the clock of the system. -/
namespace Knitting

def FileError.ofSystem (e : IO.Error) : FileError :=
  match e with
  | .noFileOrDirectory .. => .missing
  | .alreadyExists .. => .present
  | .inappropriateType _ code details =>
    if code = 20 then .notFolder else if code = 21 then .isFolder else .other details
  | .invalidArgument _ code details => if code = 36 then .nameTooLong else .other details
  | e => .other (toString e)

def tryFiles {α : Type} (operation : IO α) : IO (Except FileError α) := do
  return (← operation.toBaseIO).mapError FileError.ofSystem

instance : Files IO where
  read path := tryFiles (IO.FS.readFile path)
  list path := tryFiles do
    return ((← (System.mkFilePath [path]).readDir).map (·.fileName)).toList
  write path content := tryFiles (IO.FS.writeFile path content)
  makeFolders path := tryFiles (if path = "" then pure () else IO.FS.createDirAll path)

/-- A time before 1970 or beyond all reckoning counts as the beginning of 1970. -/
def Timestamp.ofNanoseconds (n : Nat) : Timestamp :=
  if h : n / nanosecondsPerSecond < UInt64.size / 2 then
    ⟨n / nanosecondsPerSecond, n % nanosecondsPerSecond, h, mod_nanosecondsPerSecond_lt n⟩
  else .epoch

def currentTime : IO Timestamp := do
  return .ofNanoseconds (← Std.Time.Timestamp.now).toNanosecondsSinceUnixEpoch.val.toNat

end Knitting

def main (arguments : List String) : IO UInt32 := do
  let outcome : Knitting.CommandLine.Outcome ←
    Knitting.CommandLine.run (← Knitting.currentTime) arguments
  IO.print outcome.output
  IO.eprint outcome.errors
  return outcome.code.toUInt32
