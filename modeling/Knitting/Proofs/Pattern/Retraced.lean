import Knitting.Proofs.Pattern.Derived

/-! # What is read is derived

At every moment the lexemes read so far are the leaves of whole sections, followed by those of
the constructs that are still open. The state of the reader is the meaning of these trees, and
one more lexeme either completes a tree or begins or continues an open one.
-/
namespace Knitting

def Leaf.ofToken {l : Lexeme} {t : Token} (h : l.token = t) : Fixed t :=
  ⟨l, (), Lexeme.fixed?_eq_some_iff.2 h⟩

@[simp] theorem Leaf.lexeme_ofToken {l : Lexeme} {t : Token} (h : l.token = t) :
    (ofToken h).lexeme = l := rfl

/-- A row up to some place in it: the trees behind the innermost open parenthesis, and for each
open parenthesis, from the innermost on, the trees before it. -/
structure RowHead where
  content : List ExprTree
  outer : List (List ExprTree × Fixed .groupOpen)

namespace RowHead

def outerLexemes : List (List ExprTree × Fixed .groupOpen) → List Lexeme
  | [] => []
  | (before, opening) :: outer =>
    outerLexemes outer ++ (ExprTree.lexemesAll before ++ [opening.lexeme])

def lexemes (t : RowHead) : List Lexeme := outerLexemes t.outer ++ ExprTree.lexemesAll t.content

/-- The open row that the reader keeps for the trees. -/
def openRow (t : RowHead) (start : Position) : OpenRow :=
  ⟨start, (ExprTree.meanings t.content).reverse,
    t.outer.map fun group => (ExprTree.meanings group.1).reverse⟩

def push (t : RowHead) (u : ExprTree) : RowHead := { t with content := t.content ++ [u] }

@[simp] theorem lexemes_push (t : RowHead) (u : ExprTree) :
    (t.push u).lexemes = t.lexemes ++ u.lexemes := by
  simp [push, lexemes, ExprTree.lexemesAll_eq_flatMap]

@[simp] theorem openRow_push (t : RowHead) (u : ExprTree) (start : Position) :
    (t.push u).openRow start = (t.openRow start).push u.meaning := by
  simp [push, openRow, OpenRow.push, ExprTree.meanings_eq_map]

def openGroup (t : RowHead) (opening : Fixed .groupOpen) : RowHead :=
  ⟨[], (t.content, opening) :: t.outer⟩

@[simp] theorem lexemes_openGroup (t : RowHead) (opening : Fixed .groupOpen) :
    (t.openGroup opening).lexemes = t.lexemes ++ [opening.lexeme] := by
  simp [openGroup, lexemes, outerLexemes, ExprTree.lexemesAll]

@[simp] theorem openRow_openGroup (t : RowHead) (opening : Fixed .groupOpen) (start : Position) :
    (t.openGroup opening).openRow start = (t.openRow start).openGroup := by
  simp [openGroup, openRow, OpenRow.openGroup, ExprTree.meanings]

end RowHead

namespace BlockHead

def openBlock (t : BlockHead) : OpenBlock :=
  ⟨t.count.meaning, (t.rows.map RowTree.meaning).reverse⟩

def push (t : BlockHead) (row : RowTree) : BlockHead := { t with rows := t.rows ++ [row] }

@[simp] theorem lexemes_push (t : BlockHead) (row : RowTree) :
    (t.push row).lexemes = t.lexemes ++ row.lexemes := by
  simp [push, lexemes]

@[simp] theorem openBlock_push (t : BlockHead) (row : RowTree) :
    (t.push row).openBlock = { t.openBlock with rows := row.meaning :: t.openBlock.rows } := by
  simp [push, openBlock]

end BlockHead

namespace SectionHead

def openSection (t : SectionHead) : OpenSection :=
  ⟨t.name.meaning, (t.content.map ItemTree.meaning).reverse⟩

def push (t : SectionHead) (item : ItemTree) : SectionHead :=
  { t with content := t.content ++ [item] }

@[simp] theorem lexemes_push (t : SectionHead) (item : ItemTree) :
    (t.push item).lexemes = t.lexemes ++ item.lexemes := by
  simp [push, lexemes]

@[simp] theorem openSection_push (t : SectionHead) (item : ItemTree) :
    (t.push item).openSection =
      { t.openSection with content := item.meaning :: t.openSection.content } := by
  simp [push, openSection]

end SectionHead

def blockLexemes (b : Option BlockHead) : List Lexeme := b.elim [] BlockHead.lexemes

namespace Reader

/-- The lexemes of an expression whose suffix may be still to come. -/
inductive Pending : Awaiting → List Lexeme → Prop
  | expression : Pending .expression []
  | suffix (u : UnitTree) : Pending (.suffix u.meaning) u.lexemes
  | count (u : UnitTree) (star : Fixed .repeatSuffix) :
    Pending (.count u.meaning) (u.lexemes ++ [star.lexeme])
  | leftover (u : UnitTree) (star : Fixed .repeatSuffix) (minus : Fixed .minus) :
    Pending (.leftover u.meaning) (u.lexemes ++ [star.lexeme, minus.lexeme])

/-- The lexemes of the open section, and the state behind them. -/
inductive Spelled : ReaderState → List Lexeme → Prop
  | outside : Spelled .outside []
  | sectionName (keyword : Fixed .sectionWord) : Spelled .sectionName [keyword.lexeme]
  | sectionOpen (keyword : Fixed .sectionWord) (name : Leaf Lexeme.name?) :
    Spelled (.sectionOpen name.meaning) [keyword.lexeme, name.lexeme]
  | items (h : SectionHead) : Spelled (.items h.openSection) h.lexemes
  | blockCount (h : SectionHead) (keyword : Fixed .repeatWord) :
    Spelled (.blockCount h.openSection) (h.lexemes ++ [keyword.lexeme])
  | blockOpen (h : SectionHead) (keyword : Fixed .repeatWord) (count : Leaf Lexeme.count?) :
    Spelled (.blockOpen h.openSection count.meaning)
      (h.lexemes ++ [keyword.lexeme, count.lexeme])
  | blockRows (h : SectionHead) (b : BlockHead) :
    Spelled (.blockRows h.openSection b.openBlock) (h.lexemes ++ b.lexemes)
  | row (h : SectionHead) (b : Option BlockHead) (r : RowHead) (start : Position)
      {awaiting : Awaiting} {ls : List Lexeme} (pending : Pending awaiting ls)
      (first : (r.lexemes ++ ls).head?.map Lexeme.position = some start) :
    Spelled (.row h.openSection (b.map BlockHead.openBlock) (r.openRow start) awaiting)
      (h.lexemes ++ (blockLexemes b ++ (r.lexemes ++ ls)))

variable {h : SectionHead} {b : Option BlockHead} {r : RowHead} {start : Position} {l : Lexeme}
  {next : ReaderState}

/-- A row that ends becomes a tree of the section or block around it. -/
theorem spelled_of_endRow (closing : Fixed .rowEnd) (flat : r.outer = [])
    (first : (r.lexemes ++ [closing.lexeme]).head?.map Lexeme.position = some start)
    (ok : endRow h.openSection (b.map BlockHead.openBlock) (r.openRow start) = .ok next) :
    Spelled next (h.lexemes ++ (blockLexemes b ++ (r.lexemes ++ [closing.lexeme]))) := by
  obtain ⟨content, outer⟩ := r
  subst flat
  cases content with
  | nil => cases ok
  | cons t ts =>
    let row : RowTree := ⟨t, ts, closing⟩
    have position : row.meaning.position = start :=
      Option.some.inj (row.head?_lexemes.symm.trans first)
    subst position
    have nonempty : ExprTree.meanings row.content ≠ [] := by
      simp [row, RowTree.content, ExprTree.meanings]
    rw [RowHead.openRow, List.map_nil] at ok
    have after := (endRow_eq_ok (s := h.openSection) (b := b.map BlockHead.openBlock) nonempty
      t.start.position []).symm.trans ok
    cases after
    cases b with
    | none =>
      have grown := Spelled.items (h.push (.row row))
      rw [SectionHead.openSection_push, SectionHead.lexemes_push] at grown
      exact grown
    | some b =>
      have grown := Spelled.blockRows h (b.push row)
      rw [BlockHead.openBlock_push, BlockHead.lexemes_push] at grown
      exact grown

/-- An expression that is complete comes behind those of the open group. -/
theorem spelled_push (t : ExprTree) {ls : List Lexeme} (whole : t.lexemes = ls)
    (first : (r.lexemes ++ ls).head?.map Lexeme.position = some start) :
    Spelled (.row h.openSection (b.map BlockHead.openBlock) ((r.openRow start).push t.meaning)
      .expression) (h.lexemes ++ (blockLexemes b ++ (r.lexemes ++ ls))) := by
  subst whole
  have grown := Spelled.row h b (r.push t) start .expression (by simpa using first)
  rwa [RowHead.openRow_push, RowHead.lexemes_push, List.append_nil] at grown

/-- A lexeme that begins an expression, or ends the open group or row, is retraced. -/
theorem spelled_of_stepExpression (spelled : l.WellSpelled)
    (first : (r.lexemes ++ [l]).head?.map Lexeme.position = some start)
    (ok : stepExpression h.openSection (b.map BlockHead.openBlock) (r.openRow start) l = .ok next) :
    Spelled next (h.lexemes ++ (blockLexemes b ++ (r.lexemes ++ [l]))) := by
  unfold stepExpression at ok
  split at ok
  · obtain ⟨u, unit, rfl⟩ := map_eq_ok_iff.1 ok
    let leaf : Leaf Lexeme.unit? := ⟨l, u, (unitOf_eq_ok_iff spelled).1 unit⟩
    exact .row h b r start (.suffix (.stitch leaf)) first
  · split at ok
    · rename_i marker
      obtain ⟨e, action, rfl⟩ := map_eq_ok_iff.1 ok
      obtain ⟨a, means, rfl⟩ := (markerOf_eq_ok_iff spelled marker).1 action
      exact spelled_push (.marker ⟨l, a, means⟩) (by rw [ExprTree.lexemes]) first
    · split at ok
      · rename_i token
        cases ok
        let opening : Fixed .groupOpen := .ofToken token
        have grown := Spelled.row h b (r.openGroup opening) start .expression
          (by simpa [opening] using first)
        rw [RowHead.openRow_openGroup, RowHead.lexemes_openGroup, List.append_nil] at grown
        exact grown
      · rename_i token layers
        obtain ⟨content, outer⟩ := r
        cases outer with
        | nil => cases layers
        | cons group outer =>
          obtain ⟨before, opening⟩ := group
          cases layers
          cases ok
          let closing : Fixed .groupClose := .ofToken token
          have grown := Spelled.row h b ⟨before, outer⟩ start
            (.suffix (.group opening content closing))
            (by simpa [RowHead.lexemes, RowHead.outerLexemes, closing, UnitTree.lexemes]
              using first)
          simpa [RowHead.lexemes, RowHead.outerLexemes, RowHead.openRow, closing,
            UnitTree.lexemes, UnitTree.meaning] using grown
      · rename_i token layers
        obtain ⟨content, outer⟩ := r
        cases outer with
        | nil => exact spelled_of_endRow (.ofToken token) rfl first ok
        | cons group outer => cases layers
      · cases ok
      · cases ok

theorem count?_of_countOf (spelled : l.WellSpelled) (token : l.token = .integer) {n : UInt32}
    (ok : countOf l = .ok n) : l.count? = some n := by
  rw [Lexeme.WellSpelled, token] at spelled
  exact Lexeme.count?_eq_some_iff.2 ⟨token, (countOf_eq_ok_iff spelled).1 ok⟩

/-- What stands first stays first when more follows. -/
theorem position_head?_append {ls : List Lexeme}
    (first : ls.head?.map Lexeme.position = some start) (ms : List Lexeme) :
    (ls ++ ms).head?.map Lexeme.position = some start := by
  cases ls with
  | nil => cases first
  | cons l ls => exact first

theorem spelled_of_stepRow {awaiting : Awaiting} {ls : List Lexeme} (pending : Pending awaiting ls)
    (first : (r.lexemes ++ ls).head?.map Lexeme.position = some start) (spelled : l.WellSpelled)
    (ok : stepRow h.openSection (b.map BlockHead.openBlock) (r.openRow start) l awaiting =
      .ok next) :
    Spelled next (h.lexemes ++ (blockLexemes b ++ (r.lexemes ++ (ls ++ [l])))) := by
  have still := position_head?_append first [l]
  rw [List.append_assoc] at still
  cases pending with
  | expression => exact spelled_of_stepExpression spelled still ok
  | suffix u =>
    rw [stepRow] at ok
    split at ok
    · rename_i token
      cases ok
      exact .row h b r start (.count u (.ofToken token)) still
    · -- Without a star the unit stands alone, and the lexeme comes behind it.
      rw [← show (ExprTree.unit u none).meaning = u.meaning from rfl,
        ← RowHead.openRow_push] at ok
      have lexemes_eq : (r.push (.unit u none)).lexemes = r.lexemes ++ u.lexemes := by
        simp [ExprTree.lexemes, suffixLexemes]
      have grown := spelled_of_stepExpression spelled
        (by rwa [lexemes_eq, List.append_assoc]) ok
      rwa [lexemes_eq, List.append_assoc] at grown
  | count u star =>
    rw [stepRow] at ok
    split at ok
    · rename_i token
      obtain ⟨n, count, rfl⟩ := map_eq_ok_iff.1 ok
      let suffix : SuffixTree := .times star ⟨l, n, count?_of_countOf spelled token count⟩
      have whole : (ExprTree.unit u (some suffix)).lexemes = u.lexemes ++ [star.lexeme] ++ [l] := by
        simp [ExprTree.lexemes, suffixLexemes, SuffixTree.lexemes, suffix]
      exact spelled_push (.unit u (some suffix)) whole still
    · rename_i token
      cases ok
      have grown := Spelled.row h b r start
        (.leftover u star (.ofToken token)) (by simpa using still)
      simpa using grown
    · cases ok
  | leftover u star minus =>
    rw [stepRow] at ok
    split at ok
    · rename_i token
      obtain ⟨n, count, rfl⟩ := map_eq_ok_iff.1 ok
      let suffix : SuffixTree := .leaving star minus ⟨l, n, count?_of_countOf spelled token count⟩
      have whole : (ExprTree.unit u (some suffix)).lexemes =
          u.lexemes ++ [star.lexeme, minus.lexeme] ++ [l] := by
        simp [ExprTree.lexemes, suffixLexemes, SuffixTree.lexemes, suffix]
      exact spelled_push (.unit u (some suffix)) whole still
    · cases ok

theorem spelled_of_beginRow (spelled : l.WellSpelled)
    (ok : beginRow h.openSection (b.map BlockHead.openBlock) l = .ok next) :
    Spelled next (h.lexemes ++ (blockLexemes b ++ [l])) :=
  spelled_of_stepExpression (r := ⟨[], []⟩) spelled rfl ok

theorem require_eq_ok_iff {t : Token} {state : Except ParseError ReaderState} :
    require t l state = .ok next ↔ l.token = t ∧ state = .ok next := by
  unfold require
  split <;> simp_all

theorem step_cases {reader after : Reader} {ls : List Lexeme} (traced : Spelled reader.state ls)
    (spelled : l.WellSpelled) (ok : reader.step l = .ok after) :
    (after.sections = reader.sections ∧ Spelled after.state (ls ++ [l])) ∨
      ∃ t : SectionTree, t.lexemes = ls ++ [l] ∧
        after = ⟨t.meaning :: reader.sections, .outside⟩ := by
  obtain ⟨sections, state⟩ := reader
  cases traced with
  | outside =>
    obtain ⟨state, required, rfl⟩ := map_eq_ok_iff.1 ok
    obtain ⟨token, rest⟩ := require_eq_ok_iff.1 required
    cases rest
    exact .inl ⟨rfl, (.sectionName (.ofToken token))⟩
  | sectionName keyword =>
    obtain ⟨state, required, rfl⟩ := map_eq_ok_iff.1 ok
    obtain ⟨token, rest⟩ := require_eq_ok_iff.1 required
    cases rest
    exact .inl ⟨rfl, .sectionOpen keyword
      ⟨l, l.literal, Lexeme.name?_eq_some_iff.2 ⟨token, rfl⟩⟩⟩
  | sectionOpen keyword name =>
    obtain ⟨state, required, rfl⟩ := map_eq_ok_iff.1 ok
    obtain ⟨token, rest⟩ := require_eq_ok_iff.1 required
    cases rest
    exact .inl ⟨rfl, .items ⟨keyword, name, .ofToken token, []⟩⟩
  | items h =>
    dsimp only [step] at ok
    split at ok
    · rename_i token
      cases ok
      exact .inr ⟨⟨h, .ofToken token⟩, rfl, by simp [SectionTree.meaning, SectionHead.openSection]⟩
    · rename_i token
      cases ok
      exact .inl ⟨rfl, .blockCount h (.ofToken token)⟩
    · obtain ⟨state, row, rfl⟩ := map_eq_ok_iff.1 ok
      exact .inl ⟨rfl, spelled_of_beginRow (b := none) spelled row⟩
  | blockCount h keyword =>
    obtain ⟨state, required, rfl⟩ := map_eq_ok_iff.1 ok
    obtain ⟨token, rest⟩ := require_eq_ok_iff.1 required
    obtain ⟨n, count, rfl⟩ := map_eq_ok_iff.1 rest
    have grown := Spelled.blockOpen h keyword ⟨l, n, count?_of_countOf spelled token count⟩
    exact .inl ⟨rfl, by simpa using grown⟩
  | blockOpen h keyword count =>
    obtain ⟨state, required, rfl⟩ := map_eq_ok_iff.1 ok
    obtain ⟨token, rest⟩ := require_eq_ok_iff.1 required
    cases rest
    have grown := Spelled.blockRows h ⟨keyword, count, .ofToken token, []⟩
    exact .inl ⟨rfl, by simpa [BlockHead.lexemes, BlockHead.openBlock] using grown⟩
  | blockRows h b =>
    dsimp only [step] at ok
    split at ok
    · rename_i token
      cases ok
      have grown := Spelled.items (h.push (.block ⟨b, .ofToken token⟩))
      rw [SectionHead.openSection_push, SectionHead.lexemes_push] at grown
      refine .inl ⟨rfl, ?_⟩
      simpa [ItemTree.lexemes, BlockTree.lexemes, ItemTree.meaning, BlockTree.meaning,
        BlockHead.openBlock] using grown
    · obtain ⟨state, row, rfl⟩ := map_eq_ok_iff.1 ok
      exact .inl ⟨rfl, by simpa [blockLexemes] using spelled_of_beginRow (b := some b) spelled row⟩
  | row h b r start pending first =>
    obtain ⟨state, row, rfl⟩ := map_eq_ok_iff.1 ok
    exact .inl ⟨rfl, by simpa using spelled_of_stepRow pending first spelled row⟩

/-- The lexemes read so far: whole sections, then the open one. -/
def Traced (reader : Reader) (ls : List Lexeme) : Prop :=
  ∃ done : List SectionTree, ∃ ahead : List Lexeme,
    reader.sections = (done.map SectionTree.meaning).reverse ∧ Spelled reader.state ahead ∧
      ls = done.flatMap SectionTree.lexemes ++ ahead

theorem traced_step {reader after : Reader} {ls : List Lexeme} (traced : Traced reader ls)
    (spelled : l.WellSpelled) (ok : reader.step l = .ok after) : Traced after (ls ++ [l]) := by
  obtain ⟨done, ahead, sections, state, rfl⟩ := traced
  obtain ⟨same, grown⟩ | ⟨t, ht, rfl⟩ := step_cases state spelled ok
  · exact ⟨done, ahead ++ [l], same.trans sections, grown, by simp⟩
  · exact ⟨done ++ [t], [], by simp [sections], .outside, by simp [ht]⟩

/-- Whatever is read without an error is traced. -/
theorem traced_visit {reader after : Reader} {ls ms : List Lexeme} (traced : Traced reader ls)
    (spelled : ∀ l ∈ ms, l.WellSpelled) (ok : visit step ms reader = .ok after) :
    Traced after (ls ++ ms) := by
  induction ms generalizing reader ls with
  | nil =>
    cases ok
    simpa using traced
  | cons l ms ih =>
    rw [visit] at ok
    split at ok
    · cases ok
    · rename_i next first
      have here := traced_step traced (spelled l List.mem_cons_self) first
      simpa using ih here (fun m hm => spelled m (List.mem_cons_of_mem l hm)) ok

/-- A source that ends outside of all sections has a derivation. -/
theorem exists_derivation {ls : List Lexeme} {after : Reader} {finish : Position}
    {pattern : List Section} (spelled : ∀ l ∈ ls, l.WellSpelled)
    (ok : visit step ls fresh = .ok after) (closed : after.close finish = .ok pattern) :
    ∃ d : Derivation ls, d.pattern = pattern := by
  have begun : Traced fresh [] := ⟨[], [], rfl, .outside, rfl⟩
  obtain ⟨done, ahead, sections, state, rfl⟩ := traced_visit begun spelled ok
  obtain ⟨afterSections, afterState⟩ := after
  subst sections
  cases state with
  | outside =>
    cases closed
    exact ⟨⟨done, by simp⟩, by simp [Derivation.pattern]⟩
  | row h b r start pending first =>
    -- Inside of a row something is always missing.
    obtain ⟨content, outer⟩ := r
    cases pending <;> cases outer <;> cases closed
  | _ => cases closed

end Reader

end Knitting
