import Knitting.Format.Document
import Knitting.Text.Lowercase

/-! # Sessions

A session remembers which row of a pattern the knitter is on. It is kept in a file whose name
comes from the name of the session.
-/
namespace Knitting

abbrev nanosecondsPerSecond : Nat := 1000000000

theorem mod_nanosecondsPerSecond_lt (n : Nat) : n % nanosecondsPerSecond < nanosecondsPerSecond :=
  Nat.mod_lt n (by decide)

/-- A point in time, counted from the beginning of 1970. -/
structure Timestamp where
  seconds : Nat
  nanoseconds : Nat
  seconds_lt : seconds < UInt64.size / 2 := by decide
  nanoseconds_lt : nanoseconds < nanosecondsPerSecond := by decide
  deriving DecidableEq, Repr

namespace Timestamp

def epoch : Timestamp := ⟨0, 0, by decide, by decide⟩

def document (t : Timestamp) : Document :=
  .record [("secs_since_epoch", .number t.seconds), ("nanos_since_epoch", .number t.nanoseconds)]

end Timestamp

structure Session where
  id : UInt64
  name : String
  row : UInt32
  modified : Timestamp
  deriving DecidableEq, Repr

/-- Characters that may stand in the name of a session file. -/
def isFileChar (c : Char) : Bool := ('a' ≤ c && c ≤ 'z') || c.isDigit || c == '_'

/-- The name of the file without its ending: in lower case, with `_` for a blank, and without
everything else that is no letter from a to z, digit or `_`. -/
def fileStem (name : String) : List Char :=
  ((Text.lower name).toList.map fun c => if c = ' ' then '_' else c).filter isFileChar

theorem isFileChar_of_mem_fileStem {name : String} {c : Char} (h : c ∈ fileStem name) :
    isFileChar c = true := (List.mem_filter.1 h).2

def sessionEnding : List Char := ".json".toList

def sessionFileName (name : String) : String := String.ofList (fileStem name ++ sessionEnding)

namespace Session

def fresh (id : UInt64) (name : String) : Session := ⟨id, name, 0, .epoch⟩

def fileName (s : Session) : String := sessionFileName s.name

def document (s : Session) : Document :=
  .record [("id", .number s.id.toNat), ("name", .text s.name), ("row", .number s.row.toNat),
    ("lastModify", s.modified.document)]

def text (s : Session) : String := Json.compact s.document

end Session

end Knitting
