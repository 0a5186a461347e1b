import Knitting.Format.JsonDecoder
import Knitting.Session.Basic

/-! Reading the record of a session. A record may have its fields in any order or be a list of
their values; a session may have fields of other names, which are passed over. -/
namespace Knitting
open Json (Flaw Decoder)

/-- Behind a field's name: the colon and the value, unless the field has been there before. -/
def Json.once {α : Type} (known : Option α) (d : Decoder α) : Decoder α :=
  if known.isSome then .fail .unsuitable else (Json.expect ':').bind fun _ => d

def Json.required {α : Type} : Option α → Except Flaw α
  | some a => .ok a
  | none => .error .unsuitable

namespace Timestamp

structure Draft where
  seconds : Option Nat := none
  nanoseconds : Option Nat := none

/-- Seconds and nanoseconds with whole seconds moved over, as far as 64 bits hold them. -/
def carried (seconds nanoseconds : Nat) : Except Flaw (Nat × Fin nanosecondsPerSecond) :=
  let total := seconds + nanoseconds / nanosecondsPerSecond
  if total < UInt64.size then .ok (total, ⟨_, mod_nanosecondsPerSecond_lt nanoseconds⟩)
  else .error .unsuitable

def secondsDecoder : Decoder Nat := Json.natural UInt64.size

def nanosecondsDecoder : Decoder Nat := Json.natural UInt32.size

def field (d : Draft) (name : String) : Decoder Draft :=
  if name = "secs_since_epoch" then
    (Json.once d.seconds secondsDecoder).map fun n => { d with seconds := some n }
  else if name = "nanos_since_epoch" then
    (Json.once d.nanoseconds nanosecondsDecoder).map fun n => { d with nanoseconds := some n }
  else .fail .unsuitable

def Draft.finish (d : Draft) : Except Flaw (Nat × Fin nanosecondsPerSecond) :=
  (Json.required d.seconds).bind fun s => (Json.required d.nanoseconds).bind fun n => carried s n

def listDecoder : Decoder (Nat × Fin nanosecondsPerSecond) :=
  (Json.element secondsDecoder true).bind fun seconds =>
    ((Json.element nanosecondsDecoder false).check (carried seconds)).bind fun both =>
      (Json.expect ']').map fun _ => both

/-- A point in time whose seconds fit into 63 bits. -/
def ofCarried : Nat × Fin nanosecondsPerSecond → Except Flaw Timestamp
  | (seconds, nanoseconds) =>
    if h : seconds < UInt64.size / 2 then .ok ⟨seconds, nanoseconds, h, nanoseconds.isLt⟩
    else .error .unsuitable

def decoder : Decoder Timestamp :=
  (Json.structured ((Json.fields field {} true).check Draft.finish) listDecoder).check ofCarried

end Timestamp

namespace Session

structure Draft where
  id : Option UInt64 := none
  name : Option String := none
  row : Option UInt32 := none
  modified : Option Timestamp := none

def idDecoder : Decoder UInt64 := (Json.natural UInt64.size).map UInt64.ofNat

def rowDecoder : Decoder UInt32 := (Json.natural UInt32.size).map UInt32.ofNat

def field (d : Draft) (name : String) : Decoder Draft :=
  if name = "id" then (Json.once d.id idDecoder).map fun x => { d with id := some x }
  else if name = "name" then (Json.once d.name Json.text).map fun x => { d with name := some x }
  else if name = "row" then (Json.once d.row rowDecoder).map fun x => { d with row := some x }
  else if name = "lastModify" then
    (Json.once d.modified Timestamp.decoder).map fun x => { d with modified := some x }
  else (Json.expect ':').bind fun _ => Json.skip.map fun _ => d

def Draft.finish (d : Draft) : Except Flaw Session :=
  (Json.required d.id).bind fun id => (Json.required d.name).bind fun name =>
    (Json.required d.row).bind fun row => (Json.required d.modified).map fun modified =>
      ⟨id, name, row, modified⟩

def listDecoder : Decoder Session :=
  (Json.element idDecoder true).bind fun id =>
    (Json.element Json.text false).bind fun name =>
      (Json.element rowDecoder false).bind fun row =>
        (Json.element Timestamp.decoder false).bind fun modified =>
          (Json.expect ']').map fun _ => ⟨id, name, row, modified⟩

def decoder : Decoder Session :=
  Json.structured ((Json.fields field {} true).check Draft.finish) listDecoder

def ofText (s : String) : Except Flaw Session := Json.decode decoder s

end Session

end Knitting
