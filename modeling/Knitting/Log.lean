import Knitting.Fabric.Action
import Knitting.Fabric.Basic

/-! # The log of a compilation

What is logged follows from the source: its lexemes as they are read, the sections as they are
completed, and then the rows as they are worked.
-/
namespace Knitting

inductive LogLevel where
  | error
  | warn
  | info
  | debug
  | trace
  deriving DecidableEq, Repr

namespace LogLevel

def rank : LogLevel → Nat
  | .error => 1
  | .warn => 2
  | .info => 3
  | .debug => 4
  | .trace => 5

def label : LogLevel → String
  | .error => "ERROR"
  | .warn => "WARN"
  | .info => "INFO"
  | .debug => "DEBUG"
  | .trace => "TRACE"

end LogLevel

inductive LogEvent where
  | lexeme (l : Lexeme)
  | sectionRead (name : String) (items : Nat)
  | sectionBegun (name : String)
  | markerMoved (name : Char) (old new : Place)
  | rowWorked (row : StitchRow) (markers : Nat)
  | rowFailed (number : UInt32) (fault : Fault)
  | rowSkipped (fault : Fault)
  deriving Repr

namespace LogEvent

def level : LogEvent → LogLevel
  | .lexeme _ => .trace
  | .rowSkipped _ => .warn
  | _ => .debug

def message : LogEvent → String
  | .lexeme l => s!"lexeme {l.text}"
  | .sectionRead name items => s!"parsed section {Text.quoteText name} ({items} items)"
  | .sectionBegun name => s!"compiling section {Text.quoteText name}"
  | .markerMoved name old new =>
    s!"marker {Text.quoteChar name} moved from {old.text} to {new.text}"
  | .rowWorked r markers =>
    s!"row {r.number.toNat}: {r.stitches.length} stitches, weight {r.weight}, " ++
      s!"advance {r.advance}, {markers} markers"
  | .rowFailed number f => s!"row {number.toNat} failed: {f.message}"
  | .rowSkipped f => s!"skipping row: {f.message}"

end LogEvent

namespace Reader

def completed (before after : Reader) : List LogEvent :=
  match after.sections with
  | s :: rest =>
    if rest.length = before.sections.length then [.sectionRead s.name s.content.length] else []
  | [] => []

/-- What is logged while lexemes are read. -/
def events (reader : Reader) : List Lexeme → List LogEvent
  | [] => []
  | l :: ls =>
    .lexeme l ::
      match reader.step l with
      | .error _ => []
      | .ok next => reader.completed next ++ next.events ls

end Reader

namespace Needle

/-- The markers that actions move away from where they were. -/
def moves (n : Needle) : List Action → List LogEvent
  | [] => []
  | a :: as =>
    let moved :=
      match a with
      | .mark (.place name) =>
        (n.markers.get? name).toList.map fun old => .markerMoved name old n.place
      | _ => []
    match n.act a with
    | .error _ => moved
    | .ok next => moved ++ next.moves as

end Needle

namespace Fabric

def rowEvents (policy : Policy) (f : Fabric) (r : Row) : List LogEvent :=
  let n := f.needle
  let moves := n.moves (Expr.doneAll r.content n)
  match n.workRow r.content, policy with
  | .ok done, _ => moves ++ [.rowWorked done.row done.markers.size]
  | .error snag, .strict => moves ++ [.rowFailed n.number snag.fault]
  | .error snag, .bestEffort =>
    moves ++ [.rowFailed n.number snag.fault, .rowSkipped snag.fault]

end Fabric

namespace Log

structure Progress where
  fabric : Fabric
  events : Array LogEvent

def addRow (policy : Policy) (p : Progress) (r : Row) : Except (Array LogEvent) Progress :=
  let events := p.events ++ p.fabric.rowEvents policy r
  match p.fabric.tryRow policy r with
  | .ok fabric => .ok ⟨fabric, events⟩
  | .error _ => .error events

def addSection (policy : Policy) (p : Progress) (s : Section) :
    Except (Array LogEvent) Progress :=
  s.visitRows (addRow policy) { p with events := p.events.push (.sectionBegun s.name) }

def ofSections (policy : Policy) (sections : List Section) : List LogEvent :=
  match visit (addSection policy) sections ⟨.empty, #[]⟩ with
  | .ok p => p.events.toList
  | .error events => events.toList

def ofSource (policy : Policy) (source : String) : List LogEvent :=
  let stream := LexemeStream.ofSource source
  Reader.fresh.events stream.lexemes ++
    match stream.readSections.1 with
    | .error _ => []
    | .ok sections => ofSections policy sections

/-- The events that matter at the given level; without a level none does. -/
def upTo (level : Option LogLevel) (events : List LogEvent) : List LogEvent :=
  match level with
  | none => []
  | some l => events.filter fun e => e.level.rank ≤ l.rank

end Log

end Knitting
