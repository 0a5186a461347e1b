import Knitting.Proofs.Fabric.Rows
import Knitting.Proofs.Pattern.Relocated

/-! # Layout

Where the rows of a pattern stand in its source decides nothing about the fabric. So blanks,
comments and line ends change no row, and text behind a source changes no row that precedes it.
-/
namespace Knitting

variable (φ : Position → Position)

theorem Block.unrolled_relocate (b : Block) :
    (b.relocate φ).unrolled = b.unrolled.map (Row.relocate φ) := by
  rw [unrolled, unrolled, List.map_flatten, List.map_replicate, relocate]

theorem Item.unrolled_relocate (i : Item) :
    (i.relocate φ).unrolled = i.unrolled.map (Row.relocate φ) := by
  cases i with
  | row r => rfl
  | block b => exact b.unrolled_relocate φ

theorem Section.unrolled_relocate (s : Section) :
    (s.relocate φ).unrolled = s.unrolled.map (Row.relocate φ) := by
  rw [unrolled, unrolled, relocate, List.flatMap_map, List.map_flatMap]
  simp only [Item.unrolled_relocate]

theorem Section.unrolledAll_relocate (sections : List Section) :
    unrolledAll (sections.map (relocate φ)) = (unrolledAll sections).map (Row.relocate φ) := by
  rw [unrolledAll, unrolledAll, List.flatMap_map, List.map_flatMap]
  simp only [Section.unrolled_relocate]

namespace Fabric

theorem visit_tryRow_relocate (policy : Policy) (rows : List Row) (f : Fabric) :
    visit (tryRow policy) (rows.map (Row.relocate φ)) f = visit (tryRow policy) rows f := by
  apply visit_tryRow_congr
  rw [List.map_map]
  rfl

theorem addSections_relocate (policy : Policy) (f : Fabric) (sections : List Section) :
    f.addSections policy (sections.map (Section.relocate φ)) = f.addSections policy sections := by
  rw [addSections_eq_visit, Section.unrolledAll_relocate, visit_tryRow_relocate,
    addSections_eq_visit]

end Fabric

theorem compileSections_relocate (policy : Policy) (sections : List Section) :
    compileSections policy (sections.map (Section.relocate φ)) =
      compileSections policy sections := by
  rw [compileSections, Fabric.addSections_relocate, compileSections]

/-- Sources with the same kinds and literals of lexemes compile alike under either policy,
whatever blanks and comments stand between them: to the same rows, markers and faults, to the same
fault that halts the work, or to errors of reading that differ in their position at most. -/
theorem layout_never_matters {a b : String}
    (same : (tokenize a).map Lexeme.bare = (tokenize b).map Lexeme.bare) (policy : Policy) :
    (∃ c, compile policy a = .ok c ∧ compile policy b = .ok c) ∨
    (∃ fault, compile policy a = .error (.compile fault) ∧
      compile policy b = .error (.compile fault)) ∨
    ∃ e e', compile policy a = .error (.parse e) ∧ compile policy b = .error (.parse e') ∧
      e.unplaced = e'.unplaced := by
  have alike := parse_unplaced same
  simp only [compile]
  cases readA : parse a with
  | ok sections =>
    cases readB : parse b with
    | ok sections' =>
      rw [readA, readB, relocated_ok, relocated_ok, Except.ok.injEq] at alike
      have work : compileSections policy sections = compileSections policy sections' := by
        rw [← compileSections_relocate fun _ => .start, alike, compileSections_relocate]
      dsimp only
      rw [← work]
      cases compileSections policy sections with
      | ok c => exact .inl ⟨c, rfl, rfl⟩
      | error fault => exact .inr (.inl ⟨fault, rfl, rfl⟩)
    | error e' =>
      rw [readA, readB] at alike
      cases alike
  | error e =>
    cases readB : parse b with
    | ok sections' =>
      rw [readA, readB] at alike
      cases alike
    | error e' =>
      rw [readA, readB, relocated_error, relocated_error, ParseError.relocate_start,
        ParseError.relocate_start, Except.error.injEq] at alike
      exact .inr (.inr ⟨e, e', rfl, rfl, alike⟩)

/-- A group that was never opened is closed, on the second line and on the third. -/
theorem layout_never_matters_hem :
    (tokenize "section hem \x7b co2; k2 )").map Lexeme.bare =
        (tokenize "section // rib\n hem\x7bco2 ;\n\tk2\n)").map Lexeme.bare ∧
      compile .strict "section hem \x7b co2; k2 )" =
        .error (.parse (.unexpectedToken ⟨2, 5⟩ .expression .groupClose ")")) ∧
      ∃ e, compile .strict "section // rib\n hem\x7bco2 ;\n\tk2\n)" = .error (.parse e) ∧
        e.unplaced = .unexpectedToken .start .expression .groupClose ")" := by
  have same : (tokenize "section hem \x7b co2; k2 )").map Lexeme.bare =
      (tokenize "section // rib\n hem\x7bco2 ;\n\tk2\n)").map Lexeme.bare := by decide +kernel
  have lexemes : LexemeStream.ofSource "section hem \x7b co2; k2 )" =
      ⟨[⟨⟨1, 1⟩, .sectionWord, "section"⟩, ⟨⟨1, 9⟩, .identifier, "hem"⟩,
        ⟨⟨1, 13⟩, .blockOpen, "\x7b"⟩, ⟨⟨1, 15⟩, .castOn, "2"⟩, ⟨⟨1, 18⟩, .rowEnd, ";"⟩,
        ⟨⟨2, 2⟩, .knitRun, "2"⟩, ⟨⟨2, 5⟩, .groupClose, ")"⟩], ⟨2, 6⟩⟩ := by decide +kernel
  have failed : compile .strict "section hem \x7b co2; k2 )" =
      .error (.parse (.unexpectedToken ⟨2, 5⟩ .expression .groupClose ")")) := by
    rw [compile, parse, lexemes]
    rfl
  refine ⟨same, failed, ?_⟩
  obtain ⟨c, ok, -⟩ | ⟨fault, halted, -⟩ | ⟨e, e', misread, misread', alike⟩ :=
    layout_never_matters same .strict
  · cases failed.symm.trans ok
  · cases failed.symm.trans halted
  · cases failed.symm.trans misread
    exact ⟨e', misread', alike.symm⟩

namespace Fabric

theorem addRows_relocate (f : Fabric) (rows : List Row) :
    f.addRows (rows.map (Row.relocate φ)) = f.addRows rows := by
  have same := visit_tryRow_relocate φ .bestEffort rows f
  rwa [visit_bestEffort, visit_bestEffort, Except.ok.injEq] at same

/-- Patterns handed over one after another without a halt. -/
theorem run_patterns (first second : List Section) :
    run .bestEffort [.pattern first, .pattern second] =
      (Fabric.empty.addRows (Section.unrolledAll first)).addRows (Section.unrolledAll second) := by
  simp only [run, List.foldl_cons, List.foldl_nil, call, addSections_bestEffort, settled]

end Fabric

theorem compile_bestEffort {source : String} {sections : List Section}
    (read : parse source = .ok sections) :
    compile .bestEffort source =
      .ok (Fabric.empty.addRows (Section.unrolledAll sections)).compilation :=
  compile_eq_ok_iff.2 ⟨sections, read, compileSections_bestEffort sections⟩

/-- Text behind a source changes nothing of what precedes it. Two sources that can be read are read
with the end of a line between them as well, to the sections of both, those of the second shifted
to where its text stands. Without a halt they compile to what one fabric has after both patterns,
which goes on from the rows and faults of the first source. -/
theorem appended_text_changes_no_row {a b : String} {first second : List Section}
    (readA : parse a = .ok first) (readB : parse b = .ok second) :
    parse (a ++ "\n" ++ b) = .ok (first ++ second.map (Section.relocate (jointOf a).shift)) ∧
    ∃ c d, compile .bestEffort a = .ok c ∧ compile .bestEffort (a ++ "\n" ++ b) = .ok d ∧
      d = (Fabric.run .bestEffort [.pattern first, .pattern second]).compilation ∧
      c.rows <+: d.rows ∧ c.faults <+: d.faults := by
  have read := parse_append_line readA readB
  have whole := compile_bestEffort read
  rw [Section.unrolledAll_append, Section.unrolledAll_relocate, Fabric.addRows_append,
    Fabric.addRows_relocate, ← Fabric.run_patterns] at whole
  have grows := (Fabric.empty.addRows (Section.unrolledAll first)).grows_addRows
    (Section.unrolledAll second)
  rw [← Fabric.run_patterns] at grows
  exact ⟨read, _, _, compile_bestEffort readA, whole, rfl, grows.rows, grows.faults⟩

/-- A source that ends in a comment without its end. -/
def brimText : String := "section brim \x7b co2; k2; \x7d // done"

def brim : List Section :=
  [⟨"brim", [.row ⟨[.stitch (.castOn 2)], ⟨1, 16⟩⟩, .row ⟨[.times (.stitch .knit) 2], ⟨2, 2⟩⟩]⟩]

def crownText : String := "section crown \x7b k3; p2; \x7d"

def crown : List Section :=
  [⟨"crown",
    [.row ⟨[.times (.stitch .knit) 3], ⟨1, 17⟩⟩, .row ⟨[.times (.stitch .purl) 2], ⟨2, 2⟩⟩]⟩]

/-- The first row of the second source does not meet the last row of the first one. -/
theorem appended_text_changes_no_row_crown :
    (parse brimText = .ok brim ∧ parse crownText = .ok crown) ∧
    parse (brimText ++ "\n" ++ crownText) =
      .ok (brim ++ crown.map (Section.relocate (Position.shift ⟨4, 1⟩))) ∧
    ∃ c d, compile .bestEffort brimText = .ok c ∧
      compile .bestEffort (brimText ++ "\n" ++ crownText) = .ok d ∧
      d.faults = [.budgetExceeded ⟨3, 3⟩ 2 3] ∧ c.rows <+: d.rows ∧ c.faults <+: d.faults := by
  have first : LexemeStream.ofSource brimText =
      ⟨[⟨⟨1, 1⟩, .sectionWord, "section"⟩, ⟨⟨1, 9⟩, .identifier, "brim"⟩,
        ⟨⟨1, 14⟩, .blockOpen, "\x7b"⟩, ⟨⟨1, 16⟩, .castOn, "2"⟩, ⟨⟨1, 19⟩, .rowEnd, ";"⟩,
        ⟨⟨2, 2⟩, .knitRun, "2"⟩, ⟨⟨2, 4⟩, .rowEnd, ";"⟩, ⟨⟨3, 2⟩, .blockClose, "\x7d"⟩],
      ⟨4, 1⟩⟩ := by decide +kernel
  have second : LexemeStream.ofSource crownText =
      ⟨[⟨⟨1, 1⟩, .sectionWord, "section"⟩, ⟨⟨1, 9⟩, .identifier, "crown"⟩,
        ⟨⟨1, 15⟩, .blockOpen, "\x7b"⟩, ⟨⟨1, 17⟩, .knitRun, "3"⟩, ⟨⟨1, 19⟩, .rowEnd, ";"⟩,
        ⟨⟨2, 2⟩, .purlRun, "2"⟩, ⟨⟨2, 4⟩, .rowEnd, ";"⟩, ⟨⟨3, 2⟩, .blockClose, "\x7d"⟩],
      ⟨3, 3⟩⟩ := by decide +kernel
  have readFirst : parse brimText = .ok brim := by
    rw [parse, first]
    rfl
  have readSecond : parse crownText = .ok crown := by
    rw [parse, second]
    rfl
  have behind : jointOf brimText = ⟨4, 1⟩ := by decide +kernel
  obtain ⟨read, c, d, before, whole, same, rows, faults⟩ :=
    appended_text_changes_no_row readFirst readSecond
  rw [behind] at read
  have fault : d.faults = [.budgetExceeded ⟨3, 3⟩ 2 3] := by
    rw [same]
    decide
  exact ⟨⟨readFirst, readSecond⟩, read, c, d, before, whole, fault, rows, faults⟩

end Knitting
