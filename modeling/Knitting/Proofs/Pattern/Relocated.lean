import Knitting.Proofs.Pattern.Language
import Knitting.Proofs.Source.Relocated

/-! # Patterns in other places

The reader carries the positions of lexemes along, to rows and to errors, and never looks at one.
So reading lexemes in other places gives what reading them gives, with its positions moved in the
same way: this holds for every function of the reader, hence for a step of it, hence for a whole
source, whether it is read or not.
-/
namespace Knitting

variable (φ : Position → Position)

def Row.relocate (r : Row) : Row := { r with position := φ r.position }

def Block.relocate (b : Block) : Block := { b with rows := b.rows.map (Row.relocate φ) }

def Item.relocate : Item → Item
  | .row r => .row (r.relocate φ)
  | .block b => .block (b.relocate φ)

def Section.relocate (s : Section) : Section :=
  { s with content := s.content.map (Item.relocate φ) }

def ParseError.relocate : ParseError → ParseError
  | .unexpectedToken p e t l => .unexpectedToken (φ p) e t l
  | .unexpectedEnd p e => .unexpectedEnd (φ p) e
  | .invalidCount p l => .invalidCount (φ p) l
  | .invalidCable p l => .invalidCable (φ p) l
  | .invalidMarkerName p l => .invalidMarkerName (φ p) l
  | .emptyRow p => .emptyRow (φ p)

theorem ParseError.relocate_start (e : ParseError) :
    e.relocate (fun _ => .start) = e.unplaced := by
  cases e <;> rfl

def OpenRow.relocate (r : OpenRow) : OpenRow := { r with start := φ r.start }

def OpenSection.relocate (s : OpenSection) : OpenSection :=
  { s with content := s.content.map (Item.relocate φ) }

def OpenBlock.relocate (b : OpenBlock) : OpenBlock := { b with rows := b.rows.map (Row.relocate φ) }

def ReaderState.relocate : ReaderState → ReaderState
  | .outside => .outside
  | .sectionName => .sectionName
  | .sectionOpen name => .sectionOpen name
  | .items s => .items (s.relocate φ)
  | .blockCount s => .blockCount (s.relocate φ)
  | .blockOpen s n => .blockOpen (s.relocate φ) n
  | .blockRows s b => .blockRows (s.relocate φ) (b.relocate φ)
  | .row s b r awaiting =>
    .row (s.relocate φ) (b.map (OpenBlock.relocate φ)) (r.relocate φ) awaiting

def Reader.relocate (reader : Reader) : Reader :=
  ⟨reader.sections.map (Section.relocate φ), reader.state.relocate φ⟩

def relocated {α β : Type} (f : α → β) : Except ParseError α → Except ParseError β
  | .ok a => .ok (f a)
  | .error e => .error (e.relocate φ)

@[simp] theorem relocated_ok {α β : Type} (f : α → β) (a : α) :
    relocated φ f (.ok a) = .ok (f a) := rfl

@[simp] theorem relocated_error {α β : Type} (f : α → β) (e : ParseError) :
    relocated φ f (.error e) = .error (e.relocate φ) := rfl

namespace Reader

variable (l : Lexeme)

theorem unexpected_relocate (expected : Expected) :
    unexpected expected (l.relocate φ) = (unexpected expected l).relocate φ := by
  by_cases finish : l.token = .endOfInput <;> simp [unexpected, finish, ParseError.relocate]

theorem countOf_relocate : countOf (l.relocate φ) = relocated φ id (countOf l) := by
  unfold countOf
  rw [Lexeme.literal_relocate]
  split <;> rfl

theorem cableOf_relocate (crossing : Crossing) :
    cableOf crossing (l.relocate φ) = relocated φ id (cableOf crossing l) := by
  unfold cableOf
  rw [Lexeme.literal_relocate]
  split <;> rfl

theorem unitOf_relocate : unitOf (l.relocate φ) = relocated φ id (unitOf l) := by
  unfold unitOf
  rw [Lexeme.token_relocate, countOf_relocate, unexpected_relocate]
  cases l.token with
  | knitTogether | purlTogether | castOn | bindOff | knitRun | purlRun => cases countOf l <;> rfl
  | cable crossing =>
    dsimp only
    rw [cableOf_relocate]
    cases cableOf crossing l <;> rfl
  | _ => rfl

theorem markerOf_relocate : markerOf (l.relocate φ) = relocated φ id (markerOf l) := by
  unfold markerOf
  rw [Lexeme.literal_relocate, Lexeme.token_relocate, unexpected_relocate]
  split
  · split <;> rfl
  · rfl

variable (s : OpenSection) (b : Option OpenBlock) (r : OpenRow)

theorem endRow_relocate :
    endRow (s.relocate φ) (b.map (OpenBlock.relocate φ)) (r.relocate φ) =
      relocated φ (ReaderState.relocate φ) (endRow s b r) := by
  unfold endRow
  by_cases empty : r.content.isEmpty = true
  · simp [OpenRow.relocate, empty, ParseError.relocate]
  · cases b <;> simp [OpenRow.relocate, empty, ReaderState.relocate, OpenSection.relocate,
      OpenBlock.relocate, Item.relocate, Row.relocate]

theorem stepExpression_relocate :
    stepExpression (s.relocate φ) (b.map (OpenBlock.relocate φ)) (r.relocate φ) (l.relocate φ) =
      relocated φ (ReaderState.relocate φ) (stepExpression s b r l) := by
  unfold stepExpression
  rw [Lexeme.token_relocate]
  split
  · rw [unitOf_relocate]
    cases unitOf l <;> rfl
  · split
    · rw [markerOf_relocate]
      cases markerOf l <;> rfl
    · have outer : (r.relocate φ).outer = r.outer := rfl
      rw [outer, unexpected_relocate, unexpected_relocate]
      split
      · rfl
      · rfl
      · exact endRow_relocate φ s b r
      · rfl
      · rfl

theorem stepRow_relocate (awaiting : Awaiting) :
    stepRow (s.relocate φ) (b.map (OpenBlock.relocate φ)) (r.relocate φ) (l.relocate φ) awaiting =
      relocated φ (ReaderState.relocate φ) (stepRow s b r l awaiting) := by
  cases awaiting with
  | expression => exact stepExpression_relocate φ l s b r
  | suffix u =>
    rw [stepRow, stepRow, Lexeme.token_relocate]
    split
    · rfl
    · exact stepExpression_relocate φ l s b (r.push u)
  | count u =>
    rw [stepRow, stepRow, Lexeme.token_relocate, countOf_relocate, unexpected_relocate]
    split
    · cases countOf l <;> rfl
    · rfl
    · rfl
  | leftover u =>
    rw [stepRow, stepRow, Lexeme.token_relocate, countOf_relocate, unexpected_relocate]
    split
    · cases countOf l <;> rfl
    · rfl

theorem require_relocate (token : Token) {state state' : Except ParseError ReaderState}
    (same : state' = relocated φ (ReaderState.relocate φ) state) :
    require token (l.relocate φ) state' =
      relocated φ (ReaderState.relocate φ) (require token l state) := by
  unfold require
  rw [Lexeme.token_relocate, unexpected_relocate, same]
  split <;> rfl

/-- A step takes no notice of where a lexeme stands. -/
theorem step_relocate (reader : Reader) :
    (reader.relocate φ).step (l.relocate φ) = relocated φ (Reader.relocate φ) (reader.step l) := by
  obtain ⟨sections, state⟩ := reader
  -- The sections that have been read are kept, except where one more ends.
  have stay : ∀ {result result' : Except ParseError ReaderState},
      result' = relocated φ (ReaderState.relocate φ) result →
      result'.map (fun state => ⟨sections.map (Section.relocate φ), state⟩) =
        relocated φ (Reader.relocate φ) (result.map fun state => ⟨sections, state⟩) := by
    rintro result _ rfl
    cases result <;> rfl
  cases state with
  | outside | sectionName | sectionOpen | blockOpen => exact stay (require_relocate φ l _ rfl)
  | items s =>
    simp only [step, relocate, ReaderState.relocate, Lexeme.token_relocate]
    split
    · simp [relocate, ReaderState.relocate, Section.relocate, OpenSection.relocate]
    · exact stay rfl
    · exact stay (stepExpression_relocate φ l s none ⟨l.position, [], []⟩)
  | blockCount s =>
    refine stay (require_relocate φ l _ ?_)
    rw [countOf_relocate]
    cases countOf l <;> rfl
  | blockRows s b =>
    simp only [step, relocate, ReaderState.relocate, Lexeme.token_relocate]
    split
    · simp [Except.map, relocate, ReaderState.relocate, OpenSection.relocate, OpenBlock.relocate,
        Item.relocate, Block.relocate]
    · exact stay (stepExpression_relocate φ l s (some b) ⟨l.position, [], []⟩)
  | row s b r awaiting => exact stay (stepRow_relocate φ l s b r awaiting)

theorem visit_relocate (ls : List Lexeme) (reader : Reader) :
    visit step (ls.map (Lexeme.relocate φ)) (reader.relocate φ) =
      relocated φ (Reader.relocate φ) (visit step ls reader) := by
  induction ls generalizing reader with
  | nil => rfl
  | cons l ls ih =>
    rw [List.map_cons, visit, visit, step_relocate]
    cases reader.step l with
    | ok next => exact ih next
    | error e => rfl

theorem close_relocate (reader : Reader) (finish : Position) :
    (reader.relocate φ).close (φ finish) =
      relocated φ (List.map (Section.relocate φ)) (reader.close finish) := by
  have same : missing (reader.relocate φ).state = missing reader.state := by
    cases state : reader.state <;>
      simp [relocate, state, ReaderState.relocate, missing, OpenRow.relocate]
  unfold close
  rw [same]
  cases missing reader.state with
  | none => simp [relocate]
  | some expected => rfl

theorem read_relocate (ls : List Lexeme) (finish : Position) :
    ((visit step (ls.map (Lexeme.relocate φ)) fresh).bind fun reader => reader.close (φ finish)) =
      relocated φ (List.map (Section.relocate φ))
        ((visit step ls fresh).bind fun reader => reader.close finish) := by
  have whole := visit_relocate φ ls fresh
  have begun : fresh.relocate φ = fresh := rfl
  rw [begun] at whole
  rw [whole]
  cases visit step ls fresh with
  | ok reader => exact close_relocate φ reader finish
  | error e => rfl

end Reader

/-- Two sources with the same lexemes, wherever these stand, are read alike: what is read of them
differs in its positions and in nothing else. -/
theorem parse_unplaced {a b : String}
    (same : (tokenize a).map Lexeme.bare = (tokenize b).map Lexeme.bare) :
    relocated (fun _ => .start) (List.map (Section.relocate fun _ => .start)) (parse a) =
      relocated (fun _ => .start) (List.map (Section.relocate fun _ => .start)) (parse b) := by
  simp only [tokenize, LexemeStream.toList, List.map_append] at same
  have lexemes := Lexeme.relocate_start_of_bare (List.append_cancel_right same)
  rw [parse_eq_visit, parse_eq_visit, ← Reader.read_relocate, ← Reader.read_relocate, lexemes]

/-- A source of which the lexemes have moved is read as before, and its rows have moved as well. -/
theorem visit_relocate_of_parse {source : String} {pattern : List Section}
    (read : parse source = .ok pattern) :
    ∃ after, visit Reader.step ((LexemeStream.ofSource source).lexemes.map (Lexeme.relocate φ))
      .fresh = .ok after ∧ after.close (φ (LexemeStream.ofSource source).finish) =
        .ok (pattern.map (Section.relocate φ)) := by
  have moved := Reader.read_relocate φ (LexemeStream.ofSource source).lexemes
    (LexemeStream.ofSource source).finish
  rw [← parse_eq_visit, read] at moved
  generalize visit Reader.step _ _ = result at moved ⊢
  cases result with
  | ok after => exact ⟨after, rfl, moved⟩
  | error e => cases moved

/-- A derivation of lexemes and one of the lexemes behind them. -/
def Derivation.append {ls ms : List Lexeme} (d : Derivation ls) (e : Derivation ms) :
    Derivation (ls ++ ms) :=
  ⟨d.sections ++ e.sections, by rw [List.flatMap_append, d.spells, e.spells]⟩

theorem Derivation.pattern_append {ls ms : List Lexeme} (d : Derivation ls) (e : Derivation ms) :
    (d.append e).pattern = d.pattern ++ e.pattern := List.map_append

/-- Two sources that can be read are read with the end of a line between them as well. -/
theorem parse_append_line {a b : String} {first second : List Section}
    (readA : parse a = .ok first) (readB : parse b = .ok second) :
    parse (a ++ "\n" ++ b) = .ok (first ++ second.map (Section.relocate (jointOf a).shift)) := by
  obtain ⟨before, rfl⟩ := parse_eq_ok_iff.1 readA
  obtain ⟨after, visited, closed⟩ := visit_relocate_of_parse (jointOf a).shift readB
  have spelled := LexemeStream.wellSpelled_relocate (jointOf a).shift b
  obtain ⟨behind, pattern⟩ := Reader.exists_derivation spelled visited closed
  have lexemes := congrArg LexemeStream.lexemes (LexemeStream.ofSource_append_line_shift a b)
  rw [parse_eq_ok_iff, lexemes, ← pattern]
  exact ⟨before.append behind, Derivation.pattern_append before behind⟩

end Knitting
