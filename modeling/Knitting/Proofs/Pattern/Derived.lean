import Knitting.Pattern.Unrolled
import Knitting.Proofs.Pattern.Unambiguous

/-! # What the grammar derives is read

The reader goes through the leaves of a tree and comes out with the meaning of the tree added to
the construct around it. An expression may be read from any state that takes its first lexeme as
the beginning of an expression, a row only begun included.
-/
namespace Knitting

variable {σ ε : Type}

theorem visit_append_of_ok {α : Type} {f : σ → α → Except ε σ} {as : List α} {s s' : σ}
    (h : visit f as s = .ok s') (bs : List α) : visit f (as ++ bs) s = visit f bs s' := by
  rw [visit_append, h]

theorem visit_cons_of_ok {α : Type} {f : σ → α → Except ε σ} {a : α} {s s' : σ}
    (h : f s a = .ok s') (as : List α) : visit f (a :: as) s = visit f as s' := by
  rw [visit, h]

/-- If every part puts its meaning in front of a list, parts in a row put theirs there in turn. -/
theorem visit_flatMap_of_ok {α β γ : Type} {f : σ → γ → Except ε σ} {parts : β → List γ}
    {meaning : β → α} {bs : List β} (state : List α → σ)
    (h : ∀ b ∈ bs, ∀ as, visit f (parts b) (state as) = .ok (state (meaning b :: as)))
    (as : List α) :
    visit f (bs.flatMap parts) (state as) = .ok (state ((bs.map meaning).reverse ++ as)) := by
  induction bs generalizing as with
  | nil => rfl
  | cons b bs ih =>
    rw [List.flatMap_cons, visit_append_of_ok (h b List.mem_cons_self as),
      ih fun c hc => h c (List.mem_cons_of_mem b hc)]
    simp

namespace Reader

theorem run_fst (reader : Reader) (ls : List Lexeme) :
    (reader.run ls).1 = visit step ls reader := by
  induction ls generalizing reader with
  | nil => rfl
  | cons l ls ih =>
    rw [run, visit]
    cases reader.step l with
    | error e => rfl
    | ok next => exact ih next

/-- An expression or the end of the row or of the open group may come next. -/
inductive Awaits (s : OpenSection) (b : Option OpenBlock) : OpenRow → ReaderState → Prop
  | expression (r : OpenRow) : Awaits s b r (.row s b r .expression)
  | suffix (r : OpenRow) (unit : Expr) : Awaits s b (r.push unit) (.row s b r (.suffix unit))

/-- The reader takes the lexeme as one that comes where an expression may begin. -/
def Takes (reader : Reader) (s : OpenSection) (b : Option OpenBlock) (r : OpenRow) (l : Lexeme) :
    Prop :=
  reader.step l = (stepExpression s b r l).map fun state => { reader with state }

variable {sections : List Section} {state : ReaderState} {s : OpenSection} {b : Option OpenBlock}
  {r : OpenRow}

theorem takes_of_awaits (sections : List Section) (h : Awaits s b r state) {l : Lexeme}
    (noStar : l.token ≠ .repeatSuffix) : Takes ⟨sections, state⟩ s b r l := by
  cases h with
  | expression => rfl
  | suffix r unit => simp [Takes, step, stepRow, noStar]

theorem takes_items {s : OpenSection} {l : Lexeme} (h : l.token.beginsExpr = true) :
    Takes ⟨sections, .items s⟩ s none ⟨l.position, [], []⟩ l := by
  unfold Takes step
  dsimp only
  split
  · rename_i close
    rw [close] at h
    cases h
  · rename_i repeatWord
    rw [repeatWord] at h
    cases h
  · rfl

theorem takes_blockRows {s : OpenSection} {b : OpenBlock} {l : Lexeme}
    (h : l.token.beginsExpr = true) :
    Takes ⟨sections, .blockRows s b⟩ s (some b) ⟨l.position, [], []⟩ l := by
  unfold Takes step
  dsimp only
  split
  · rename_i close
    rw [close] at h
    cases h
  · rfl

theorem stepExpression_unit (leaf : Leaf Lexeme.unit?) (spelled : leaf.lexeme.WellSpelled) :
    stepExpression s b r leaf.lexeme = .ok (.row s b r (.suffix leaf.meaning)) := by
  rw [stepExpression, if_pos (Lexeme.isStitch_of_unit? leaf.means),
    (unitOf_eq_ok_iff spelled).2 leaf.means]
  rfl

theorem stepExpression_marker (leaf : Leaf Lexeme.action?) (spelled : leaf.lexeme.WellSpelled) :
    stepExpression s b r leaf.lexeme =
      .ok (.row s b (r.push (.marker leaf.meaning)) .expression) := by
  have marker := Lexeme.isMarkerAction_of_action? leaf.means
  have noStitch : leaf.lexeme.token.isStitch = false := by
    cases ht : leaf.lexeme.token <;> simp [ht, Token.isMarkerAction, Token.isStitch] at marker ⊢
  rw [stepExpression, noStitch, if_neg Bool.false_ne_true, if_pos marker,
    (markerOf_eq_ok_iff spelled marker).2 ⟨leaf.meaning, leaf.means, rfl⟩]
  rfl

theorem stepExpression_groupOpen (leaf : Fixed .groupOpen) :
    stepExpression s b r leaf.lexeme = .ok (.row s b r.openGroup .expression) := by
  simp [stepExpression, leaf.token_eq, Token.isStitch, Token.isMarkerAction]

theorem stepExpression_groupClose (leaf : Fixed .groupClose) (content : List Expr)
    (outer : List (List Expr)) (h : r.outer = content :: outer) :
    stepExpression s b r leaf.lexeme =
      .ok (.row s b { r with content, outer } (.suffix (.group r.content.reverse))) := by
  simp [stepExpression, leaf.token_eq, Token.isStitch, Token.isMarkerAction, h]

theorem stepExpression_rowEnd (leaf : Fixed .rowEnd) (h : r.outer = []) :
    stepExpression s b r leaf.lexeme = endRow s b r := by
  simp [stepExpression, leaf.token_eq, Token.isStitch, Token.isMarkerAction, h]

theorem countOf_leaf (leaf : Leaf Lexeme.count?) (spelled : leaf.lexeme.WellSpelled) :
    countOf leaf.lexeme = .ok leaf.meaning := by
  obtain ⟨token, means⟩ := Lexeme.count?_eq_some_iff.1 leaf.means
  rw [Lexeme.WellSpelled, token] at spelled
  exact (countOf_eq_ok_iff spelled).2 means

theorem visit_suffix (sections : List Section) (suffix : Option SuffixTree)
    (spelled : ∀ l ∈ suffixLexemes suffix, l.WellSpelled) (unit : Expr) :
    ∃ state, visit step (suffixLexemes suffix) ⟨sections, .row s b r (.suffix unit)⟩ =
      .ok ⟨sections, state⟩ ∧ Awaits s b (r.push (suffixed unit suffix)) state := by
  cases suffix with
  | none => exact ⟨_, rfl, .suffix r unit⟩
  | some suffix =>
    refine ⟨.row s b (r.push (suffixed unit (some suffix))) .expression, ?_, .expression _⟩
    cases suffix with
    | times star count =>
      have count_eq := countOf_leaf count (spelled _ (by simp [suffixLexemes, SuffixTree.lexemes]))
      simp [suffixLexemes, SuffixTree.lexemes, visit, step, stepRow, star.token_eq,
        count.token_count, count_eq, Except.map, suffixed, SuffixTree.meaning]
    | leaving star minus count =>
      have count_eq := countOf_leaf count (spelled _ (by simp [suffixLexemes, SuffixTree.lexemes]))
      simp [suffixLexemes, SuffixTree.lexemes, visit, step, stepRow, star.token_eq,
        minus.token_eq, count.token_count, count_eq, Except.map, suffixed, SuffixTree.meaning]

/-- The expression is read from every state that takes its first lexeme. -/
def Reads (t : ExprTree) : Prop :=
  ∀ {sections state s b r}, Takes ⟨sections, state⟩ s b r t.start →
    ∃ state', visit step t.lexemes ⟨sections, state⟩ = .ok ⟨sections, state'⟩ ∧
      Awaits s b (r.push t.meaning) state'

theorem visit_exprs (sections : List Section) {ts : List ExprTree} (reads : ∀ t ∈ ts, Reads t)
    (h : Awaits s b r state) :
    ∃ state', visit step (ExprTree.lexemesAll ts) ⟨sections, state⟩ = .ok ⟨sections, state'⟩ ∧
      Awaits s b { r with content := (ExprTree.meanings ts).reverse ++ r.content } state' := by
  induction ts generalizing r state with
  | nil => exact ⟨state, rfl, h⟩
  | cons t ts ih =>
    have noStar : t.start.token ≠ .repeatSuffix :=
      ExprTree.noStar_of_beginsExpr t.start [] t.beginsExpr_start t.start rfl
    obtain ⟨next, first, hnext⟩ := reads t List.mem_cons_self (takes_of_awaits sections h noStar)
    obtain ⟨last, more, hlast⟩ := ih (fun u hu => reads u (List.mem_cons_of_mem t hu)) hnext
    refine ⟨last, ?_, ?_⟩
    · rw [ExprTree.lexemesAll, visit_append_of_ok first, more]
    · simpa [ExprTree.meanings, OpenRow.push] using hlast

theorem step_of_takes {l : Lexeme} {next : ReaderState}
    (takes : Takes ⟨sections, state⟩ s b r l) (h : stepExpression s b r l = .ok next) :
    step ⟨sections, state⟩ l = .ok ⟨sections, next⟩ := by
  rw [takes, h]
  rfl

theorem reads_of_wellSpelled (t : ExprTree) : (∀ l ∈ t.lexemes, l.WellSpelled) → Reads t := by
  induction t with
  | stitch leaf suffix =>
    intro spelled sections state s b r takes
    simp only [ExprTree.lexemes, UnitTree.lexemes, List.cons_append, List.nil_append,
      List.forall_mem_cons] at spelled ⊢
    have first := step_of_takes takes (stepExpression_unit leaf spelled.1)
    obtain ⟨last, rest, hlast⟩ :=
      visit_suffix sections suffix spelled.2 leaf.meaning
    exact ⟨last, (visit_cons_of_ok first _).trans rest, hlast⟩
  | group opening content closing suffix ih =>
    intro spelled sections state s b r takes
    simp only [ExprTree.lexemes, UnitTree.lexemes, ExprTree.lexemesAll_eq_flatMap,
      List.cons_append, List.append_assoc, List.nil_append, List.forall_mem_cons,
      List.forall_mem_append] at spelled ⊢
    obtain ⟨-, inside, closeSpelled, behind⟩ := spelled
    have first := step_of_takes takes (stepExpression_groupOpen opening)
    have reads : ∀ t ∈ content, Reads t := fun t ht =>
      ih t ht fun l hl => inside l (List.mem_flatMap_of_mem ht hl)
    obtain ⟨full, inner, hfull⟩ :=
      visit_exprs sections reads (.expression (s := s) (b := b) r.openGroup)
    rw [ExprTree.lexemesAll_eq_flatMap] at inner
    have noStar : closing.lexeme.token ≠ .repeatSuffix := by simp [closing.token_eq]
    have last := step_of_takes (takes_of_awaits sections hfull noStar)
      (stepExpression_groupClose closing r.content r.outer rfl)
    obtain ⟨final, rest, hfinal⟩ :=
      visit_suffix sections suffix behind (.group (ExprTree.meanings content))
    refine ⟨final, (visit_cons_of_ok first _).trans ?_, hfinal⟩
    rw [visit_append_of_ok inner, visit_cons_of_ok last]
    simpa [OpenRow.openGroup] using rest
  | marker leaf =>
    intro spelled sections state s b r takes
    simp only [ExprTree.lexemes, List.forall_mem_cons] at spelled ⊢
    have first := step_of_takes takes (stepExpression_marker leaf spelled.1)
    exact ⟨_, visit_cons_of_ok first [], .expression _⟩

def afterRow (s : OpenSection) (b : Option OpenBlock) (row : Row) : ReaderState :=
  match b with
  | none => .items { s with content := .row row :: s.content }
  | some b => .blockRows s { b with rows := row :: b.rows }

theorem endRow_eq_ok {content : List Expr} (h : content ≠ []) (start : Position)
    (outer : List (List Expr)) :
    endRow s b ⟨start, content.reverse, outer⟩ = .ok (afterRow s b ⟨content, start⟩) := by
  have nonempty : content.reverse.isEmpty = false := by simpa using h
  rw [endRow]
  simp only [nonempty, Bool.false_eq_true, if_false, List.reverse_reverse]
  cases b <;> rfl

theorem visit_row (t : RowTree) (spelled : ∀ l ∈ t.lexemes, l.WellSpelled)
    (takes : Takes ⟨sections, state⟩ s b ⟨t.first.start.position, [], []⟩ t.first.start) :
    visit step t.lexemes ⟨sections, state⟩ = .ok ⟨sections, afterRow s b t.meaning⟩ := by
  simp only [RowTree.lexemes, RowTree.content, ExprTree.lexemesAll, List.forall_mem_append,
    List.append_assoc] at spelled ⊢
  obtain ⟨firstSpelled, moreSpelled, -⟩ := spelled
  obtain ⟨next, first, hnext⟩ := reads_of_wellSpelled t.first firstSpelled takes
  rw [ExprTree.lexemesAll_eq_flatMap] at moreSpelled
  have reads : ∀ u ∈ t.more, Reads u := fun u hu =>
    reads_of_wellSpelled u fun l hl => moreSpelled l (List.mem_flatMap_of_mem hu hl)
  obtain ⟨full, more, hfull⟩ := visit_exprs sections reads hnext
  have noStar : t.closing.lexeme.token ≠ .repeatSuffix := by simp [t.closing.token_eq]
  have ended := stepExpression_rowEnd (s := s) (b := b)
    (r := ⟨t.first.start.position, (ExprTree.meanings t.content).reverse, []⟩) t.closing rfl
  rw [endRow_eq_ok (by simp [RowTree.content, ExprTree.meanings])] at ended
  have content_eq : (ExprTree.meanings t.content).reverse =
      (ExprTree.meanings t.more).reverse ++ [t.first.meaning] := by
    simp [RowTree.content, ExprTree.meanings]
  rw [content_eq] at ended
  have last := step_of_takes (takes_of_awaits sections hfull noStar) ended
  rw [visit_append_of_ok first, visit_append_of_ok more, visit_cons_of_ok last]
  rfl

theorem visit_block (t : BlockTree) (spelled : ∀ l ∈ t.lexemes, l.WellSpelled)
    (s : OpenSection) :
    visit step t.lexemes ⟨sections, .items s⟩ =
      .ok ⟨sections, .items { s with content := .block t.meaning :: s.content }⟩ := by
  simp only [BlockTree.lexemes, BlockHead.lexemes, List.cons_append, List.forall_mem_cons,
    List.forall_mem_append] at spelled ⊢
  obtain ⟨-, countSpelled, -, rowsSpelled, -⟩ := spelled
  have row : ∀ u ∈ t.rows, ∀ done, visit step u.lexemes
      ⟨sections, .blockRows s ⟨t.count.meaning, done⟩⟩ =
        .ok ⟨sections, .blockRows s ⟨t.count.meaning, u.meaning :: done⟩⟩ := fun u hu done =>
    visit_row u (fun l hl => rowsSpelled l (List.mem_flatMap_of_mem hu hl))
      (takes_blockRows u.first.beginsExpr_start)
  have rows := visit_flatMap_of_ok
    (fun done => (⟨sections, .blockRows s ⟨t.count.meaning, done⟩⟩ : Reader)) row []
  simp only [visit, step, t.keyword.token_eq, require, t.count.token_count, if_true,
    countOf_leaf t.count countSpelled, t.opening.token_eq, Except.map]
  rw [visit_append_of_ok rows]
  simp [visit, step, t.closing.token_eq, Except.map, BlockTree.meaning]

theorem visit_item (t : ItemTree) (spelled : ∀ l ∈ t.lexemes, l.WellSpelled) (s : OpenSection) :
    visit step t.lexemes ⟨sections, .items s⟩ =
      .ok ⟨sections, .items { s with content := t.meaning :: s.content }⟩ := by
  cases t with
  | row t => exact visit_row t spelled (takes_items t.first.beginsExpr_start)
  | block t => exact visit_block t spelled s

theorem visit_section (t : SectionTree) (spelled : ∀ l ∈ t.lexemes, l.WellSpelled)
    (sections : List Section) :
    visit step t.lexemes ⟨sections, .outside⟩ = .ok ⟨t.meaning :: sections, .outside⟩ := by
  simp only [SectionTree.lexemes, SectionHead.lexemes, List.cons_append, List.forall_mem_cons,
    List.forall_mem_append] at spelled ⊢
  obtain ⟨-, -, -, itemsSpelled, -⟩ := spelled
  have item : ∀ u ∈ t.content, ∀ done, visit step u.lexemes
      ⟨sections, .items ⟨t.name.meaning, done⟩⟩ =
        .ok ⟨sections, .items ⟨t.name.meaning, u.meaning :: done⟩⟩ := fun u hu done =>
    visit_item u (fun l hl => itemsSpelled l (List.mem_flatMap_of_mem hu hl)) _
  have items := visit_flatMap_of_ok
    (fun done => (⟨sections, .items ⟨t.name.meaning, done⟩⟩ : Reader)) item []
  obtain ⟨nameToken, nameLiteral⟩ := Lexeme.name?_eq_some_iff.1 t.name.means
  simp only [visit, step, t.keyword.token_eq, require, if_true, nameToken, nameLiteral,
    t.opening.token_eq, Except.map]
  rw [visit_append_of_ok items]
  simp [visit, step, t.closing.token_eq, SectionTree.meaning]

/-- A derivation is read as the sections that it is the tree of. -/
theorem visit_derivation {ls : List Lexeme} (d : Derivation ls)
    (spelled : ∀ l ∈ ls, l.WellSpelled) :
    visit step ls fresh = .ok ⟨d.pattern.reverse, .outside⟩ := by
  have part : ∀ t ∈ d.sections, ∀ done, visit step t.lexemes ⟨done, .outside⟩ =
      .ok ⟨t.meaning :: done, .outside⟩ := fun t ht =>
    visit_section t fun l hl => spelled l (d.spells ▸ List.mem_flatMap_of_mem ht hl)
  have sections := visit_flatMap_of_ok (fun done => (⟨done, .outside⟩ : Reader)) part []
  rw [d.spells] at sections
  simpa [fresh, Derivation.pattern] using sections

end Reader

end Knitting
