import Knitting.Proofs.Source.Continued
import Knitting.Proofs.Pattern.Blame
import Knitting.Proofs.Pattern.RoundTrip

/-! # Unfinished and wrong patterns

A lexeme that does not fit stops the reader for good, whatever follows. Where all lexemes fit, only
the end of the source can be at fault, and from every state some text leads out of all that is
still open. So the error tells whether the source can go on.
-/
namespace Knitting
open Text

def ParseError.isUnexpectedEnd : ParseError → Bool
  | .unexpectedEnd _ _ => true
  | _ => false

namespace Reader

/-- If something is wrong, it is not that the source ended. -/
def NotAtEnd {α : Type} (result : Except ParseError α) : Prop :=
  ∀ e, result = .error e → e.isUnexpectedEnd = false

theorem notAtEnd_visit {ls : List Lexeme} (more : ∀ l ∈ ls, l.token ≠ .endOfInput)
    (reader : Reader) : NotAtEnd (visit step ls reader) := by
  intro e failed
  rcases exists_blames_of_visit failed with ⟨l, hl, blames⟩
  cases blames with
  | unexpectedEnd expected token => exact absurd token (more l hl)
  | _ => rfl

/-- Reading the parts leads from one state to the other, wherever their lexemes stand. -/
def Leads (state : ReaderState) (parts : List (List Char)) (next : ReaderState) : Prop :=
  ∀ sections ls, Spells ls parts → (∀ l ∈ ls, l.WellSpelled) →
    ∃ done, visit step ls ⟨sections, state⟩ = .ok ⟨done, next⟩

/-- Some text leads from the state out of all sections. -/
def Completable (state : ReaderState) : Prop :=
  ∃ parts : List (List Char), (∀ p ∈ parts, Plain p) ∧ Leads state parts .outside

theorem completable_of_leads {state next : ReaderState} {part : List Char} (plain : Plain part)
    (leads : Leads state [part] next) (completable : Completable next) : Completable state := by
  obtain ⟨parts, plainParts, out⟩ := completable
  refine ⟨part :: parts, List.forall_mem_cons.2 ⟨plain, plainParts⟩, ?_⟩
  intro sections ls spells spelled
  obtain ⟨ms, ns, rfl, first, rest⟩ := spells_cons_iff.1 spells
  obtain ⟨spelledFirst, spelledRest⟩ := List.forall_mem_append.1 spelled
  obtain ⟨between, here⟩ := leads sections ms first spelledFirst
  obtain ⟨done, there⟩ := out between ns rest spelledRest
  exact ⟨done, by rw [visit_append_of_ok here, there]⟩

theorem completable_outside : Completable .outside := by
  refine ⟨[], List.forall_mem_nil _, ?_⟩
  intro sections ls spells _
  rw [Spells, List.flatMap_nil, List.map_eq_nil_iff] at spells
  subst spells
  exact ⟨sections, rfl⟩

theorem completable_of_mark {c : Char} {t : Token} (h : (c, t) ∈ marks) {state next : ReaderState}
    (reads : ∀ sections (leaf : Fixed t), ∃ done,
      step ⟨sections, state⟩ leaf.lexeme = .ok ⟨done, next⟩)
    (completable : Completable next) : Completable state := by
  refine completable_of_leads (plain_mark h) ?_ completable
  intro sections ls spells _
  obtain ⟨leaf, rfl⟩ := spells_mark h spells
  obtain ⟨done, read⟩ := reads sections leaf
  exact ⟨done, visit_cons_of_ok read []⟩

theorem completable_of_count {state next : ReaderState}
    (reads : ∀ sections (leaf : Leaf Lexeme.count?), leaf.lexeme.WellSpelled → leaf.meaning = 0 →
      step ⟨sections, state⟩ leaf.lexeme = .ok ⟨sections, next⟩)
    (completable : Completable next) : Completable state := by
  refine completable_of_leads (plain_digits (isDigitRun_digits 0)) ?_ completable
  intro sections ls spells spelled
  obtain ⟨leaf, rfl, zero⟩ := spells_digits spells
  have read := reads sections leaf (spelled _ List.mem_cons_self) zero
  exact ⟨sections, visit_cons_of_ok read []⟩

variable (s : OpenSection) (b : Option OpenBlock) (r : OpenRow)

theorem completable_items : Completable (.items s) := by
  refine completable_of_mark (c := '}') (t := .blockClose) (by decide) ?_ completable_outside
  intro sections leaf
  exact ⟨_, by simp [step, leaf.token_eq]; rfl⟩

theorem completable_blockRows (b : OpenBlock) : Completable (.blockRows s b) := by
  have behind := completable_items
    { s with content := .block ⟨b.rows.reverse, b.count⟩ :: s.content }
  refine completable_of_mark (c := '}') (t := .blockClose) (by decide) ?_ behind
  intro sections leaf
  exact ⟨sections, by simp [step, leaf.token_eq, Except.map]⟩

theorem completable_afterRow (row : Row) : Completable (afterRow s b row) := by
  cases b with
  | none => exact completable_items _
  | some b => exact completable_blockRows s _

theorem step_suffix (sections : List Section) {u : Expr} {l : Lexeme} {next : ReaderState}
    (noStar : l.token ≠ .repeatSuffix) (h : stepExpression s b (r.push u) l = .ok next) :
    step ⟨sections, .row s b r (.suffix u)⟩ l = .ok ⟨sections, next⟩ :=
  step_of_takes (takes_of_awaits sections (.suffix r u) noStar) h

/-- Behind an expression the open groups can be closed, from the innermost on, and then the row. -/
theorem completable_suffix (u : Expr) : Completable (.row s b r (.suffix u)) := by
  obtain ⟨start, content, outer⟩ := r
  induction outer generalizing content u with
  | nil =>
    have behind := completable_afterRow s b ⟨(u :: content).reverse, start⟩
    refine completable_of_mark (c := ';') (t := .rowEnd) (by decide) ?_ behind
    intro sections leaf
    have nonempty : (u :: content).reverse ≠ [] := by simp
    have ended := endRow_eq_ok (s := s) (b := b) nonempty start []
    rw [List.reverse_reverse] at ended
    have read := (stepExpression_rowEnd leaf rfl).trans ended
    exact ⟨sections, step_suffix s b _ sections (by simp [leaf.token_eq]) read⟩
  | cons before outer ih =>
    have behind := ih (.group (u :: content).reverse) before
    refine completable_of_mark (c := ')') (t := .groupClose) (by decide) ?_ behind
    intro sections leaf
    have read := stepExpression_groupClose (s := s) (b := b)
      (r := ⟨start, u :: content, before :: outer⟩) leaf before outer rfl
    exact ⟨sections, step_suffix s b _ sections (by simp [leaf.token_eq]) read⟩

theorem completable_expression : Completable (.row s b r .expression) := by
  have behind := completable_suffix s b r (.stitch .knit)
  refine completable_of_leads (plain_word (Stitch.pieces_word .knit)) ?_ behind
  intro sections ls spells spelled
  obtain ⟨l, rfl, bare⟩ := spells_word (Stitch.pieces_word .knit) spells
  let leaf : Leaf Lexeme.unit? := ⟨l, .stitch .knit, Lexeme.unit?_of_word bare⟩
  have takes : Takes ⟨sections, .row s b r .expression⟩ s b r l := rfl
  have read := step_of_takes takes (stepExpression_unit leaf (spelled l List.mem_cons_self))
  exact ⟨sections, visit_cons_of_ok read []⟩

theorem completable_row (awaiting : Awaiting) : Completable (.row s b r awaiting) := by
  cases awaiting with
  | expression => exact completable_expression s b r
  | suffix u => exact completable_suffix s b r u
  | count u =>
    refine completable_of_count ?_ (completable_expression s b (r.push (.times u 0)))
    intro sections leaf spelled zero
    simp [step, stepRow, leaf.token_count, countOf_leaf leaf spelled, zero, Except.map]
  | leftover u =>
    refine completable_of_count ?_ (completable_expression s b (r.push (.leaving u 0)))
    intro sections leaf spelled zero
    simp [step, stepRow, leaf.token_count, countOf_leaf leaf spelled, zero, Except.map]

theorem completable_sectionOpen (name : String) : Completable (.sectionOpen name) := by
  refine completable_of_mark (c := '{') (t := .blockOpen) (by decide) ?_
    (completable_items ⟨name, []⟩)
  intro sections leaf
  exact ⟨sections, by simp [step, require, leaf.token_eq, Except.map]⟩

theorem completable_blockOpen (n : UInt32) : Completable (.blockOpen s n) := by
  refine completable_of_mark (c := '{') (t := .blockOpen) (by decide) ?_
    (completable_blockRows s ⟨n, []⟩)
  intro sections leaf
  exact ⟨sections, by simp [step, require, leaf.token_eq, Except.map]⟩

theorem completable_blockCount : Completable (.blockCount s) := by
  refine completable_of_count ?_ (completable_blockOpen s 0)
  intro sections leaf spelled zero
  simp [step, require, leaf.token_count, countOf_leaf leaf spelled, zero, Except.map]

theorem completable_sectionName : Completable .sectionName := by
  have word : pieces ['r'] = [⟨.word, ['r']⟩] :=
    pieces_of_letters (c := 'r') rfl (by decide) (by decide)
  refine completable_of_leads (plain_word word) ?_ (completable_sectionOpen "r")
  intro sections ls spells _
  obtain ⟨l, rfl, bare⟩ := spells_word word spells
  have name : classify ['r'] = (.identifier, "r") := by decide +kernel
  obtain ⟨token, literal⟩ := Lexeme.eq_of_bare (bare.trans name)
  refine ⟨sections, visit_cons_of_ok ?_ []⟩
  simp [step, require, token, literal, Except.map]

/-- Whatever is open, some text closes it. -/
theorem completable (state : ReaderState) : Completable state := by
  cases state with
  | outside => exact completable_outside
  | sectionName => exact completable_sectionName
  | sectionOpen name => exact completable_sectionOpen name
  | items s => exact completable_items s
  | blockCount s => exact completable_blockCount s
  | blockOpen s n => exact completable_blockOpen s n
  | blockRows s b => exact completable_blockRows s b
  | row s b r awaiting => exact completable_row s b r awaiting

/-- What is still open where the source ends is all that can be wrong there. -/
theorem isUnexpectedEnd_of_close {reader : Reader} {finish : Position} {e : ParseError}
    (h : reader.close finish = .error e) : e.isUnexpectedEnd = true := by
  unfold close at h
  split at h
  · cases h
  · cases h
    rfl

end Reader

theorem lexemes_append_line (a b : String) :
    ∃ p, (LexemeStream.ofSource (a ++ "\n" ++ b)).lexemes =
      (LexemeStream.ofSource a).lexemes ++ (LexemeStream.ofText p b.toList).lexemes := by
  rw [LexemeStream.ofSource_append_line]
  exact ⟨_, rfl⟩

/-- An error at a lexeme remains, whatever follows. -/
theorem parse_append_line_of_error {a : String} {e : ParseError}
    (h : visit Reader.step (LexemeStream.ofSource a).lexemes .fresh = .error e) (b : String) :
    parse (a ++ "\n" ++ b) = .error e := by
  obtain ⟨p, lexemes⟩ := lexemes_append_line a b
  rw [parse_eq_visit, lexemes, visit_append, h]
  rfl

/-- A source of which all lexemes fit can go on to be a pattern. -/
theorem exists_completion {a : String} {reader : Reader}
    (h : visit Reader.step (LexemeStream.ofSource a).lexemes .fresh = .ok reader) :
    ∃ b pattern, parse (a ++ "\n" ++ b) = .ok pattern := by
  obtain ⟨parts, plain, out⟩ := Reader.completable reader.state
  let b := String.ofList ([' '].intercalate parts)
  obtain ⟨p, lexemes⟩ := lexemes_append_line a b
  have spells : Spells (LexemeStream.ofText p b.toList).lexemes parts := by
    rw [Spells, LexemeStream.bare_ofText, String.toList_ofList, bareLexemes_intercalate plain]
  obtain ⟨done, closed⟩ := out reader.sections _ spells (LexemeStream.wellSpelled_ofText p b.toList)
  refine ⟨b, done.reverse, ?_⟩
  rw [parse_eq_visit, lexemes, visit_append_of_ok h, closed]
  rfl

/-- A source that fails has ended too early exactly if some text behind another line makes it a
pattern. Every other error is final: it remains the same, whatever follows. -/
theorem unfinished_or_wrong_for_good {a : String} {e : ParseError} (failed : parse a = .error e) :
    (e.isUnexpectedEnd = true ↔ ∃ b pattern, parse (a ++ "\n" ++ b) = .ok pattern) ∧
      (e.isUnexpectedEnd = false → ∀ b, parse (a ++ "\n" ++ b) = .error e) := by
  have more : ∀ l ∈ (LexemeStream.ofSource a).lexemes, l.token ≠ .endOfInput := fun l hl =>
    (LexemeStream.wellSpelled_ofSource a l hl).ne_endOfInput
  rw [parse_eq_visit] at failed
  cases visited : visit Reader.step (LexemeStream.ofSource a).lexemes .fresh with
  | error e' =>
    rw [visited] at failed
    cases failed
    have wrong := Reader.notAtEnd_visit more .fresh e visited
    have final := parse_append_line_of_error visited
    refine ⟨?_, fun _ => final⟩
    simp [wrong, final]
  | ok reader =>
    rw [visited] at failed
    have unfinished : e.isUnexpectedEnd = true := Reader.isUnexpectedEnd_of_close failed
    simp [unfinished, exists_completion visited]

/-- A row breaks off inside of a comment inside of a group; a section lacks its name. -/
theorem unfinished_or_wrong_for_good_tip :
    (parse "section tip \x7b ( k2 // rib" =
        .error (.unexpectedEnd ⟨2, 1⟩ (.token .groupClose)) ∧
      ∃ b pattern, parse ("section tip \x7b ( k2 // rib" ++ "\n" ++ b) = .ok pattern) ∧
    ∀ b, parse ("section \x7b" ++ "\n" ++ b) =
      .error (.unexpectedToken ⟨1, 9⟩ (.token .identifier) .blockOpen "\x7b") := by
  have tip : LexemeStream.ofSource "section tip \x7b ( k2 // rib" =
      ⟨[⟨⟨1, 1⟩, .sectionWord, "section"⟩, ⟨⟨1, 9⟩, .identifier, "tip"⟩,
        ⟨⟨1, 13⟩, .blockOpen, "\x7b"⟩, ⟨⟨1, 15⟩, .groupOpen, "("⟩, ⟨⟨1, 17⟩, .knitRun, "2"⟩],
      ⟨2, 1⟩⟩ := by decide +kernel
  have nameless : LexemeStream.ofSource "section \x7b" =
      ⟨[⟨⟨1, 1⟩, .sectionWord, "section"⟩, ⟨⟨1, 9⟩, .blockOpen, "\x7b"⟩], ⟨1, 10⟩⟩ := by
    decide +kernel
  have unfinished : parse "section tip \x7b ( k2 // rib" =
      .error (.unexpectedEnd ⟨2, 1⟩ (.token .groupClose)) := by
    rw [parse, tip]
    rfl
  have wrong : parse "section \x7b" =
      .error (.unexpectedToken ⟨1, 9⟩ (.token .identifier) .blockOpen "\x7b") := by
    rw [parse, nameless]
    rfl
  exact ⟨⟨unfinished, (unfinished_or_wrong_for_good unfinished).1.1 rfl⟩,
    (unfinished_or_wrong_for_good wrong).2 rfl⟩

end Knitting
