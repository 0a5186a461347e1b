import Knitting.Pattern.Reader

/-! # Reading by descent

The same reading with one procedure for each construct of the grammar. The procedures pull the
lexemes one at a time, and where one has been pulled too early it is put back into a slot, from
which it is pulled again. The slot has room for one lexeme, and only the last lexeme pulled can be
put back, once.

Procedures that go round are granted a number of rounds. Every round takes a lexeme, so there is no
need for more rounds than there are lexemes, and one for the end of input.
-/
namespace Knitting

/-- The lexemes not pulled yet, the last one that was pulled, and the slot. The lexemes taken, that
is pulled and not put back, are written down beside it, the last one first. -/
structure Intake where
  stream : LexemeStream
  last : Option Lexeme
  slot : Option Lexeme
  taken : List Lexeme
  deriving DecidableEq, Repr

namespace Intake

def ofStream (s : LexemeStream) : Intake := ⟨s, none, none, []⟩

def ofSource (source : String) : Intake := ofStream (.ofSource source)

end Intake

/-- Why a procedure stops: the pattern is wrong, a lexeme cannot be put back, or the rounds granted
are used up. -/
inductive Breakdown where
  | fault (e : ParseError)
  | slotFull
  | nothingPulled
  | unfinished
  deriving DecidableEq, Repr

/-- A procedure of the descent. It changes the intake, also where it stops. -/
abbrev Descent := ExceptT Breakdown (StateM Intake)

namespace Descent
open Reader

def fail {α : Type} (e : ParseError) : Descent α := throw (.fault e)

def ofExcept {α : Type} : Except ParseError α → Descent α
  | .ok a => pure a
  | .error e => fail e

/-- Pulls the lexeme in the slot, or the next one of the stream if the slot is empty. -/
def scan : Descent Lexeme := do
  let intake ← get
  match intake.slot with
  | some l =>
    set { intake with last := some l, slot := none, taken := l :: intake.taken }
    pure l
  | none =>
    let (l, stream) := intake.stream.next
    set { intake with stream, last := some l, taken := l :: intake.taken }
    pure l

/-- Puts the last lexeme pulled into the slot. -/
def unscan : Descent Unit := do
  let intake ← get
  if intake.slot.isSome then throw .slotFull
  else
    match intake.last with
    | none => throw .nothingPulled
    | some l => set { intake with last := none, slot := some l, taken := intake.taken.tail }

def expect (t : Token) : Descent Lexeme := do
  let l ← scan
  if l.token = t then pure l else fail (unexpected (.token t) l)

def readStitch : Descent Expr := do
  let l ← scan
  ofExcept (unitOf l)

def readMarker : Descent Expr := do
  let l ← scan
  ofExcept (markerOf l)

/-- The repeat that what follows a `*` makes of the expression before it. -/
def readRepeat (content : Expr) : Descent Expr := do
  let l ← scan
  match l.token with
  | .integer =>
    let count ← ofExcept (countOf l)
    pure (.times content count)
  | .minus =>
    let l ← expect .integer
    let count ← ofExcept (countOf l)
    pure (.leaving content count)
  | _ => fail (unexpected .repeatCount l)

/-- Looks for a suffix behind a unit. A lexeme that begins none is put back. -/
def readSuffix (unit : Expr) : Descent Expr := do
  let l ← scan
  if l.token = .repeatSuffix then readRepeat unit
  else
    unscan
    pure unit

mutual

def readExpr (rounds : Nat) : Descent Expr := do
  let l ← scan
  if l.token.isStitch then
    unscan
    let stitch ← readStitch
    readSuffix stitch
  else if l.token = .groupOpen then
    unscan
    let group ← readGroup rounds
    readSuffix group
  else if l.token.isMarkerAction then
    unscan
    readMarker
  else fail (unexpected .expression l)
termination_by (rounds, 2)

def readGroup (rounds : Nat) : Descent Expr := do
  let _ ← expect .groupOpen
  readMembers rounds []
termination_by (rounds, 1)

/-- The members of a group behind those read so far, of which the last one comes first. -/
def readMembers (rounds : Nat) (done : List Expr) : Descent Expr :=
  match rounds with
  | 0 => throw .unfinished
  | rounds + 1 => do
    let l ← scan
    match l.token with
    | .groupClose => pure (.group done.reverse)
    | .endOfInput => fail (.unexpectedEnd l.position (.token .groupClose))
    | _ =>
      unscan
      let e ← readExpr rounds
      readMembers rounds (e :: done)
termination_by (rounds, 0)

end

/-- The rest of a row that begins at `start`. -/
def readRowRest (start : Position) : Nat → List Expr → Descent Row
  | 0, _ => throw .unfinished
  | rounds + 1, done => do
    let l ← scan
    match l.token with
    | .rowEnd =>
      if done.isEmpty then fail (.emptyRow start) else pure ⟨done.reverse, start⟩
    | .endOfInput => fail (.unexpectedEnd l.position (.token .rowEnd))
    | .blockClose => fail (unexpected (.token .rowEnd) l)
    | _ =>
      unscan
      let e ← readExpr (rounds + 1)
      readRowRest start rounds (e :: done)

def readRow (rounds : Nat) : Descent Row := do
  let start ← scan
  unscan
  readRowRest start.position rounds []

def readBlockRows (count : UInt32) : Nat → List Row → Descent Block
  | 0, _ => throw .unfinished
  | rounds + 1, done => do
    let l ← scan
    match l.token with
    | .blockClose => pure ⟨done.reverse, count⟩
    | .endOfInput => fail (.unexpectedEnd l.position (.token .blockClose))
    | _ =>
      unscan
      let row ← readRow (rounds + 1)
      readBlockRows count rounds (row :: done)

def readBlock (rounds : Nat) : Descent Block := do
  let _ ← expect .repeatWord
  let l ← expect .integer
  let count ← ofExcept (countOf l)
  let _ ← expect .blockOpen
  readBlockRows count rounds []

def readItems (name : String) : Nat → List Item → Descent Section
  | 0, _ => throw .unfinished
  | rounds + 1, done => do
    let l ← scan
    match l.token with
    | .blockClose => pure ⟨name, done.reverse⟩
    | .endOfInput => fail (.unexpectedEnd l.position (.token .blockClose))
    | .repeatWord =>
      unscan
      let block ← readBlock (rounds + 1)
      readItems name rounds (.block block :: done)
    | _ =>
      unscan
      let row ← readRow (rounds + 1)
      readItems name rounds (.row row :: done)

def readSection (rounds : Nat) : Descent Section := do
  let _ ← expect .sectionWord
  let name ← expect .identifier
  let _ ← expect .blockOpen
  readItems name.literal rounds []

def readSections : Nat → List Section → Descent (List Section)
  | 0, _ => throw .unfinished
  | rounds + 1, done => do
    let l ← scan
    if l.token = .endOfInput then pure done.reverse
    else
      unscan
      let s ← readSection (rounds + 1)
      readSections rounds (s :: done)

def readPattern : Descent (List Section) := do
  let intake ← get
  readSections (intake.stream.lexemes.length + 1) []

end Descent

namespace Intake

def read (intake : Intake) : Except Breakdown (List Section) × Intake := Descent.readPattern intake

def afterReadings (intake : Intake) : Nat → Intake
  | 0 => intake
  | k + 1 => (intake.afterReadings k).read.2

end Intake

end Knitting
