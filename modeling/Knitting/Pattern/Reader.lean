import Knitting.Pattern.Basic
import Knitting.Pattern.ParseError
import Knitting.Text.Count

/-! # Reading patterns

    Pattern := Section*
    Section := 'section' name '{' (Block | Row)* '}'
    Block   := 'repeat' count '{' Row* '}'
    Row     := Expr+ ';'
    Expr    := (Stitch | '(' Expr* ')') ['*' (count | '-' count)] | Marker

The reader takes one lexeme at a time. What has been read so far is kept as the constructs that
are still open, so every lexeme is looked at once and nothing is ever put back: an expression
that may still get a repeat suffix waits for the lexeme behind it.
-/
namespace Knitting
open Text

/-- The row being read: the contents of the innermost open group and of those around it, each
with its last expression first. -/
structure OpenRow where
  start : Position
  content : List Expr
  outer : List (List Expr)
  deriving Repr

namespace OpenRow

def push (r : OpenRow) (e : Expr) : OpenRow := { r with content := e :: r.content }

def openGroup (r : OpenRow) : OpenRow := { r with content := [], outer := r.content :: r.outer }

end OpenRow

/-- What may come next in a row. -/
inductive Awaiting where
  | expression
  | suffix (unit : Expr)
  | count (unit : Expr)
  | leftover (unit : Expr)
  deriving Repr

structure OpenSection where
  name : String
  content : List Item
  deriving Repr

structure OpenBlock where
  count : UInt32
  rows : List Row
  deriving Repr

inductive ReaderState where
  | outside
  | sectionName
  | sectionOpen (name : String)
  | items (s : OpenSection)
  | blockCount (s : OpenSection)
  | blockOpen (s : OpenSection) (count : UInt32)
  | blockRows (s : OpenSection) (b : OpenBlock)
  | row (s : OpenSection) (b : Option OpenBlock) (r : OpenRow) (awaiting : Awaiting)
  deriving Repr

/-- The sections read so far, the last one first, and what is still open. -/
structure Reader where
  sections : List Section
  state : ReaderState
  deriving Repr

namespace Reader

def fresh : Reader := ⟨[], .outside⟩

def unexpected (expected : Expected) (l : Lexeme) : ParseError :=
  if l.token = .endOfInput then .unexpectedEnd l.position expected
  else .unexpectedToken l.position expected l.token l.literal

def countOf (l : Lexeme) : Except ParseError UInt32 :=
  match readCount l.literal.toList with
  | some n => .ok n
  | none => .error (.invalidCount l.position l.literal)

/-- Two counts joined by one comma. -/
def readCounts (cs : List Char) : Option (UInt32 × UInt32) :=
  match cs.span (· ≠ ',') with
  | (front, _ :: back) =>
    (readCount front).bind fun f => (readCount back).map fun b => (f, b)
  | (_, []) => none

def cableOf (crossing : Crossing) (l : Lexeme) : Except ParseError Stitch :=
  match readCounts l.literal.toList with
  | some (front, back) => .ok (.cable crossing front back)
  | none => .error (.invalidCable l.position l.literal)

/-- The unit that a stitch token stands for; a run is a repeat. -/
def unitOf (l : Lexeme) : Except ParseError Expr :=
  match l.token with
  | .knit => .ok (.stitch .knit)
  | .purl => .ok (.stitch .purl)
  | .slipSlipKnit => .ok (.stitch .slipSlipKnit)
  | .yarnOver => .ok (.stitch .yarnOver)
  | .knitTogether => (countOf l).map fun n => .stitch (.knitTogether n)
  | .purlTogether => (countOf l).map fun n => .stitch (.purlTogether n)
  | .castOn => (countOf l).map fun n => .stitch (.castOn n)
  | .bindOff => (countOf l).map fun n => .stitch (.bindOff n)
  | .cable c => (cableOf c l).map .stitch
  | .knitRun => (countOf l).map fun n => .times (.stitch .knit) n
  | .purlRun => (countOf l).map fun n => .times (.stitch .purl) n
  | _ => .error (unexpected .stitch l)

def markerOf (l : Lexeme) : Except ParseError Expr :=
  match l.literal.toList with
  | [name] =>
    match l.token with
    | .placeMarker => .ok (.marker (.place name))
    | .removeMarker => .ok (.marker (.remove name))
    | _ => .error (unexpected .expression l)
  | _ => .error (.invalidMarkerName l.position l.literal)

def endRow (s : OpenSection) (b : Option OpenBlock) (r : OpenRow) :
    Except ParseError ReaderState :=
  if r.content.isEmpty then .error (.emptyRow r.start)
  else
    let row : Row := ⟨r.content.reverse, r.start⟩
    match b with
    | none => .ok (.items { s with content := .row row :: s.content })
    | some b => .ok (.blockRows s { b with rows := row :: b.rows })

/-- One lexeme where an expression may begin or the open group or row may end. -/
def stepExpression (s : OpenSection) (b : Option OpenBlock) (r : OpenRow) (l : Lexeme) :
    Except ParseError ReaderState :=
  if l.token.isStitch then (unitOf l).map fun u => .row s b r (.suffix u)
  else if l.token.isMarkerAction then (markerOf l).map fun e => .row s b (r.push e) .expression
  else
    match l.token, r.outer with
    | .groupOpen, _ => .ok (.row s b r.openGroup .expression)
    | .groupClose, content :: outer =>
      .ok (.row s b { r with content, outer } (.suffix (.group r.content.reverse)))
    | .rowEnd, [] => endRow s b r
    | .blockClose, [] => .error (unexpected (.token .rowEnd) l)
    | _, _ => .error (unexpected .expression l)

def stepRow (s : OpenSection) (b : Option OpenBlock) (r : OpenRow) (l : Lexeme) :
    Awaiting → Except ParseError ReaderState
  | .expression => stepExpression s b r l
  | .suffix u =>
    if l.token = .repeatSuffix then .ok (.row s b r (.count u)) else stepExpression s b (r.push u) l
  | .count u =>
    match l.token with
    | .integer => (countOf l).map fun n => .row s b (r.push (.times u n)) .expression
    | .minus => .ok (.row s b r (.leftover u))
    | _ => .error (unexpected .repeatCount l)
  | .leftover u =>
    if l.token = .integer then
      (countOf l).map fun n => .row s b (r.push (.leaving u n)) .expression
    else .error (unexpected (.token .integer) l)

def beginRow (s : OpenSection) (b : Option OpenBlock) (l : Lexeme) :
    Except ParseError ReaderState :=
  stepExpression s b ⟨l.position, [], []⟩ l

def require (token : Token) (l : Lexeme) (state : Except ParseError ReaderState) :
    Except ParseError ReaderState :=
  if l.token = token then state else .error (unexpected (.token token) l)

def step (reader : Reader) (l : Lexeme) : Except ParseError Reader :=
  let stay (state : Except ParseError ReaderState) : Except ParseError Reader :=
    state.map fun state => { reader with state }
  match reader.state with
  | .outside => stay (require .sectionWord l (.ok .sectionName))
  | .sectionName => stay (require .identifier l (.ok (.sectionOpen l.literal)))
  | .sectionOpen name => stay (require .blockOpen l (.ok (.items ⟨name, []⟩)))
  | .items s =>
    match l.token with
    | .blockClose => .ok ⟨⟨s.name, s.content.reverse⟩ :: reader.sections, .outside⟩
    | .repeatWord => stay (.ok (.blockCount s))
    | _ => stay (beginRow s none l)
  | .blockCount s => stay (require .integer l ((countOf l).map fun n => .blockOpen s n))
  | .blockOpen s n => stay (require .blockOpen l (.ok (.blockRows s ⟨n, []⟩)))
  | .blockRows s b =>
    match l.token with
    | .blockClose =>
      stay (.ok (.items { s with content := .block ⟨b.rows.reverse, b.count⟩ :: s.content }))
    | _ => stay (beginRow s (some b) l)
  | .row s b r awaiting => stay (stepRow s b r l awaiting)

/-- What is missing where the source ends; nothing is if no section is open. -/
def missing : ReaderState → Option Expected
  | .outside => none
  | .sectionName => some (.token .identifier)
  | .sectionOpen _ | .blockOpen _ _ => some (.token .blockOpen)
  | .blockCount _ => some (.token .integer)
  | .items _ | .blockRows _ _ => some (.token .blockClose)
  | .row _ _ r awaiting =>
    match awaiting, r.outer with
    | .count _, _ => some .repeatCount
    | .leftover _, _ => some (.token .integer)
    | _, [] => some (.token .rowEnd)
    | _, _ :: _ => some (.token .groupClose)

/-- The sections of a source that ends at `finish`. -/
def close (reader : Reader) (finish : Position) : Except ParseError (List Section) :=
  match missing reader.state with
  | none => .ok reader.sections.reverse
  | some expected => .error (.unexpectedEnd finish expected)

/-- Reads lexemes up to the first that does not fit; gives the lexemes behind it. -/
def run (reader : Reader) : List Lexeme → Except ParseError Reader × List Lexeme
  | [] => (.ok reader, [])
  | l :: ls =>
    match reader.step l with
    | .ok next => next.run ls
    | .error e => (.error e, ls)

end Reader

/-- Reads the sections ahead. After an error the stream goes on behind the lexeme at fault. -/
def LexemeStream.readSections (s : LexemeStream) :
    Except ParseError (List Section) × LexemeStream :=
  match Reader.fresh.run s.lexemes with
  | (.ok reader, rest) => (reader.close s.finish, { s with lexemes := rest })
  | (.error e, rest) => (.error e, { s with lexemes := rest })

def parse (source : String) : Except ParseError (List Section) :=
  (LexemeStream.ofSource source).readSections.1

end Knitting
