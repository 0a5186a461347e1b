import Knitting.Proofs.Pattern.Language

/-! # Writable patterns

A pattern can be written down if its names are words that mean nothing else, its rows hold
something, its markers are named by capitals, and its repeats work what may stand before a star:
a stitch, a group or a run. Everything that is read is of this form.
-/
namespace Knitting

namespace Expr

/-- The letter of the stitches that have runs. -/
def runLetter? : Expr → Option Char
  | .stitch .knit => some 'k'
  | .stitch .purl => some 'p'
  | _ => none

/-- A stitch, a group or a run, which is an exact repeat of knit or purl. -/
def isUnit : Expr → Bool
  | .stitch _ | .group _ => true
  | .times content _ => content.runLetter?.isSome
  | .leaving _ _ | .marker _ => false

mutual

def Writable : Expr → Prop
  | .stitch _ => True
  | .group es => WritableAll es
  | .times content _ => content.isUnit ∧ content.Writable
  | .leaving content _ => content.isUnit ∧ content.Writable
  | .marker action => action.name.isUpper

def WritableAll : List Expr → Prop
  | [] => True
  | e :: es => e.Writable ∧ WritableAll es

end

theorem writableAll_iff {es : List Expr} : WritableAll es ↔ ∀ e ∈ es, e.Writable := by
  induction es with
  | nil => simp [WritableAll]
  | cons e es ih => simp [WritableAll, ih]

end Expr

structure Row.Writable (r : Row) : Prop where
  nonempty : r.content ≠ []
  content : ∀ e ∈ r.content, e.Writable

def Item.Writable : Item → Prop
  | .row r => r.Writable
  | .block b => ∀ r ∈ b.rows, r.Writable

structure Section.Writable (s : Section) : Prop where
  name : IsName s.name
  content : ∀ i ∈ s.content, i.Writable

/-- What a lexeme stands for in a row is a stitch or a run. -/
theorem Lexeme.stitch_or_run {l : Lexeme} {u : Expr} (h : l.unit? = some u) :
    (∃ s, u = .stitch s) ∨ ∃ e n, e.runLetter?.isSome ∧ u = .times e n := by
  unfold unit? at h
  cases ht : l.token with
  | knit | purl | slipSlipKnit | yarnOver =>
    rw [ht] at h
    cases h
    exact .inl ⟨_, rfl⟩
  | knitTogether | purlTogether | castOn | bindOff =>
    rw [ht] at h
    obtain ⟨n, -, rfl⟩ := Option.map_eq_some_iff.1 h
    exact .inl ⟨_, rfl⟩
  | cable c =>
    rw [ht] at h
    obtain ⟨front, -, h⟩ := Option.bind_eq_some_iff.1 h
    obtain ⟨back, -, rfl⟩ := Option.map_eq_some_iff.1 h
    exact .inl ⟨_, rfl⟩
  | knitRun | purlRun =>
    rw [ht] at h
    obtain ⟨n, -, rfl⟩ := Option.map_eq_some_iff.1 h
    exact .inr ⟨_, n, rfl, rfl⟩
  | _ =>
    rw [ht] at h
    cases h

theorem Expr.writable_of_run {e : Expr} (h : e.runLetter?.isSome) : e.isUnit ∧ e.Writable := by
  unfold runLetter? at h
  split at h
  · exact ⟨rfl, trivial⟩
  · exact ⟨rfl, trivial⟩
  · cases h

theorem Leaf.writable_unit (leaf : Leaf Lexeme.unit?) :
    leaf.meaning.isUnit ∧ leaf.meaning.Writable := by
  obtain ⟨s, hs⟩ | ⟨e, n, run, he⟩ := Lexeme.stitch_or_run leaf.means
  · rw [hs]
    exact ⟨rfl, trivial⟩
  · rw [he]
    exact ⟨run, Expr.writable_of_run run⟩

theorem Leaf.writable_marker (leaf : Leaf Lexeme.action?) (spelled : leaf.lexeme.WellSpelled) :
    (Expr.marker leaf.meaning).Writable := by
  obtain ⟨l, action, means⟩ := leaf
  unfold Lexeme.WellSpelled at spelled
  unfold Lexeme.action? at means
  cases ht : l.token with
  | placeMarker | removeMarker =>
    rw [ht] at spelled means
    obtain ⟨c, upper, literal⟩ := spelled
    rw [literal] at means
    cases means
    exact upper
  | _ =>
    rw [ht] at means
    cases means

theorem writable_suffixed {e : Expr} (unit : e.isUnit) (h : e.Writable)
    (suffix : Option SuffixTree) : (suffixed e suffix).Writable := by
  cases suffix with
  | none => exact h
  | some suffix =>
    cases suffix with
    | times star count => exact ⟨unit, h⟩
    | leaving star minus count => exact ⟨unit, h⟩

namespace ExprTree

theorem writable_meaning (t : ExprTree) :
    (∀ l ∈ t.lexemes, l.WellSpelled) → t.meaning.Writable := by
  induction t with
  | stitch leaf suffix =>
    intro spelled
    exact writable_suffixed leaf.writable_unit.1 leaf.writable_unit.2 suffix
  | group opening content closing suffix ih =>
    intro spelled
    have writable : (Expr.group (meanings content)).Writable := by
      rw [Expr.Writable, Expr.writableAll_iff, meanings_eq_map, List.forall_mem_map]
      intro t ht
      apply ih t ht
      intro l hl
      apply spelled
      simp only [lexemes, UnitTree.lexemes, lexemesAll_eq_flatMap, List.mem_append, List.mem_cons]
      exact .inl (.inl (.inr (List.mem_flatMap_of_mem ht hl)))
    exact writable_suffixed rfl writable suffix
  | marker leaf =>
    intro spelled
    exact leaf.writable_marker (spelled leaf.lexeme (by simp [lexemes]))

theorem writable_of_mem {ts : List ExprTree} (spelled : ∀ l ∈ lexemesAll ts, l.WellSpelled) :
    ∀ e ∈ meanings ts, e.Writable := by
  rw [lexemesAll_eq_flatMap] at spelled
  rw [meanings_eq_map, List.forall_mem_map]
  exact fun t ht => t.writable_meaning fun l hl => spelled l (List.mem_flatMap_of_mem ht hl)

end ExprTree

theorem RowTree.writable_meaning (t : RowTree) (spelled : ∀ l ∈ t.lexemes, l.WellSpelled) :
    t.meaning.Writable where
  nonempty := by simp [meaning, content, ExprTree.meanings]
  content := ExprTree.writable_of_mem fun l hl => spelled l (List.mem_append_left _ hl)

theorem ItemTree.writable_meaning (t : ItemTree) (spelled : ∀ l ∈ t.lexemes, l.WellSpelled) :
    t.meaning.Writable := by
  cases t with
  | row t => exact t.writable_meaning spelled
  | block t =>
    rw [meaning, Item.Writable, BlockTree.meaning, List.forall_mem_map]
    intro r hr
    apply r.writable_meaning
    intro l hl
    apply spelled
    have inside := List.mem_flatMap_of_mem hr hl
    simp [lexemes, BlockTree.lexemes, BlockHead.lexemes, inside]

theorem SectionTree.writable_meaning (t : SectionTree)
    (spelled : ∀ l ∈ t.lexemes, l.WellSpelled) : t.meaning.Writable where
  name := by
    obtain ⟨token, literal⟩ := Lexeme.name?_eq_some_iff.1 t.name.means
    have name := spelled t.name.lexeme (by simp [lexemes, SectionHead.lexemes])
    rw [Lexeme.WellSpelled, token, literal] at name
    exact name
  content := by
    rw [meaning, List.forall_mem_map]
    intro i hi
    apply i.writable_meaning
    intro l hl
    apply spelled
    have inside := List.mem_flatMap_of_mem hi hl
    simp [lexemes, SectionHead.lexemes, inside]

theorem writable_of_parse {source : String} {pattern : List Section}
    (h : parse source = .ok pattern) : ∀ s ∈ pattern, s.Writable := by
  obtain ⟨d, rfl⟩ := parse_eq_ok_iff.1 h
  rw [Derivation.pattern, List.forall_mem_map]
  intro t ht
  apply t.writable_meaning
  intro l hl
  apply LexemeStream.wellSpelled_ofSource source
  rw [← d.spells]
  exact List.mem_flatMap_of_mem ht hl

end Knitting
