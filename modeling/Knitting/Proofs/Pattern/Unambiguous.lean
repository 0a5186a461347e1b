import Knitting.Proofs.Pattern.Grammar
import Knitting.Proofs.Text.Cancel

/-! # The grammar is unambiguous

One lexeme ahead tells how a derivation goes on: what begins an expression cannot end a group, a
row or a block, and only a suffix begins with a star. So two trees that begin the same list of
lexemes are the same tree, provided that no star follows.
-/
namespace Knitting

namespace Leaf

variable {α β : Type} {f : Lexeme → Option α} {g : Lexeme → Option β}

theorem ext_lexeme {a b : Leaf f} (h : a.lexeme = b.lexeme) : a = b := by
  obtain ⟨l, v, hv⟩ := a
  obtain ⟨m, w, hw⟩ := b
  cases h
  rw [hv] at hw
  cases hw
  rfl

theorem cons_eq_cons_iff {a b : Leaf f} {r r' : List Lexeme} :
    a.lexeme :: r = b.lexeme :: r' ↔ a = b ∧ r = r' := by
  rw [List.cons.injEq]
  constructor
  · exact fun h => ⟨ext_lexeme h.1, h.2⟩
  · rintro ⟨rfl, rfl⟩
    exact ⟨rfl, rfl⟩

theorem token_eq {t : Token} (a : Fixed t) : a.lexeme.token = t :=
  Lexeme.fixed?_eq_some_iff.1 a.means

theorem token_count (a : Leaf Lexeme.count?) : a.lexeme.token = .integer :=
  (Lexeme.count?_eq_some_iff.1 a.means).1

theorem unit_ne_opening (a : Leaf Lexeme.unit?) (b : Fixed .groupOpen) : a.lexeme ≠ b.lexeme := by
  intro h
  have stitch := Lexeme.isStitch_of_unit? a.means
  rw [h, b.token_eq] at stitch
  cases stitch

theorem marker_ne_opening (a : Leaf Lexeme.action?) (b : Fixed .groupOpen) :
    a.lexeme ≠ b.lexeme := by
  intro h
  have action := Lexeme.isMarkerAction_of_action? a.means
  rw [h, b.token_eq] at action
  cases action

theorem unit_ne_marker (a : Leaf Lexeme.unit?) (b : Leaf Lexeme.action?) :
    a.lexeme ≠ b.lexeme := by
  intro h
  have stitch := Lexeme.isStitch_of_unit? a.means
  have action := Lexeme.isMarkerAction_of_action? b.means
  rw [h] at stitch
  cases ht : b.lexeme.token <;> simp [ht, Token.isStitch, Token.isMarkerAction] at stitch action

end Leaf

def Token.beginsExpr (t : Token) : Bool := t.isStitch || t.isMarkerAction || t == .groupOpen

/-- The list of lexemes does not begin with a star. -/
def NoStar (ls : List Lexeme) : Prop := ∀ l ∈ ls.head?, l.token ≠ .repeatSuffix

/-- The list of lexemes does not begin with a token of the kind. -/
def NoHead (begins : Token → Bool) (ls : List Lexeme) : Prop :=
  ∀ l ∈ ls.head?, begins l.token = false

theorem noStar_fixed {t : Token} (a : Fixed t) (h : t ≠ .repeatSuffix) (r : List Lexeme) :
    NoStar (a.lexeme :: r) := by
  simpa [NoStar, a.token_eq] using h

theorem noHead_fixed {begins : Token → Bool} {t : Token} (a : Fixed t) (h : begins t = false)
    (r : List Lexeme) : NoHead begins (a.lexeme :: r) := by
  simpa [NoHead, a.token_eq] using h

/-- Lists of trees can be told apart if the trees can, and if what follows the list does not
begin as a tree does. -/
theorem flatMap_cancel {α : Type} {lexemes : α → List Lexeme} {begins : Token → Bool}
    (Follows : List Lexeme → Prop)
    (start : ∀ a, ∃ l ls, lexemes a = l :: ls ∧ begins l.token = true)
    (next : ∀ l ls, begins l.token = true → Follows (l :: ls)) {as : List α}
    (cancel : ∀ a ∈ as, ∀ b r r', Follows r → Follows r' →
      lexemes a ++ r = lexemes b ++ r' → a = b ∧ r = r')
    {bs : List α} {r r' : List Lexeme} (hr : Follows r) (hr' : Follows r')
    (ended : NoHead begins r) (ended' : NoHead begins r')
    (h : as.flatMap lexemes ++ r = bs.flatMap lexemes ++ r') : as = bs ∧ r = r' := by
  have same := flatMap_key_cancel (k := id) Follows start next
    (fun a ha b _ => cancel a ha b) hr hr' ended ended' h
  rwa [List.map_id, List.map_id] at same

theorem suffix_cancel {s s' : Option SuffixTree} {r r' : List Lexeme} (hr : NoStar r)
    (hr' : NoStar r') (h : suffixLexemes s ++ r = suffixLexemes s' ++ r') : s = s' ∧ r = r' := by
  have apart : ∀ t u v, NoStar v → suffixLexemes (some t) ++ u ≠ v := by
    intro t u v hv heq
    subst heq
    cases t <;> simp [NoStar, suffixLexemes, SuffixTree.lexemes, Leaf.token_eq] at hv
  cases s with
  | none =>
    cases s' with
    | none => exact ⟨rfl, h⟩
    | some t => exact absurd h.symm (apart t r' r hr)
  | some t =>
    cases s' with
    | none => exact absurd h (apart t r r' hr')
    | some t' =>
      cases t with
      | times star count =>
        cases t' with
        | times star' count' =>
          simp only [suffixLexemes, Option.elim, SuffixTree.lexemes, List.cons_append,
            List.nil_append, Leaf.cons_eq_cons_iff] at h
          obtain ⟨rfl, rfl, rfl⟩ := h
          exact ⟨rfl, rfl⟩
        | leaving star' minus count' =>
          have same := congrArg Lexeme.token (List.cons.inj (List.cons.inj h).2).1
          rw [count.token_count, minus.token_eq] at same
          cases same
      | leaving star minus count =>
        cases t' with
        | times star' count' =>
          have same := congrArg Lexeme.token (List.cons.inj (List.cons.inj h).2).1
          rw [count'.token_count, minus.token_eq] at same
          cases same
        | leaving star' minus' count' =>
          simp only [suffixLexemes, Option.elim, SuffixTree.lexemes, List.cons_append,
            List.nil_append, Leaf.cons_eq_cons_iff] at h
          obtain ⟨rfl, rfl, rfl, rfl⟩ := h
          exact ⟨rfl, rfl⟩

namespace ExprTree

theorem beginsExpr_start (t : ExprTree) : t.start.token.beginsExpr = true := by
  match t with
  | .unit (.stitch leaf) suffix =>
    simp [start, Token.beginsExpr, Lexeme.isStitch_of_unit? leaf.means]
  | .unit (.group opening content closing) suffix =>
    simp [start, Token.beginsExpr, opening.token_eq]
  | .marker leaf =>
    simp [start, Token.beginsExpr, Lexeme.isMarkerAction_of_action? leaf.means]

theorem begins (t : ExprTree) : ∃ l ls, t.lexemes = l :: ls ∧ l.token.beginsExpr = true := by
  obtain ⟨rest, h⟩ := t.lexemes_eq_start_cons
  exact ⟨t.start, rest, h, t.beginsExpr_start⟩

theorem noStar_of_beginsExpr (l : Lexeme) (ls : List Lexeme) (h : l.token.beginsExpr = true) :
    NoStar (l :: ls) := by
  rw [NoStar, List.head?_cons]
  rintro m ⟨⟩ star
  rw [star] at h
  cases h

/-- Expressions that begin one list of lexemes are the same, if no star goes on with them. -/
theorem cancel (t : ExprTree) : ∀ (t' : ExprTree) (r r' : List Lexeme), NoStar r → NoStar r' →
    t.lexemes ++ r = t'.lexemes ++ r' → t = t' ∧ r = r' := by
  induction t with
  | stitch leaf suffix =>
    rintro (⟨leaf' | ⟨opening', content', closing'⟩, suffix'⟩ | leaf') r r' hr hr' h
    · simp only [lexemes, UnitTree.lexemes, List.cons_append, List.nil_append,
        Leaf.cons_eq_cons_iff] at h
      obtain ⟨rfl, rest⟩ := h
      obtain ⟨rfl, rfl⟩ := suffix_cancel hr hr' rest
      exact ⟨rfl, rfl⟩
    · exact absurd (List.cons.inj h).1 (leaf.unit_ne_opening opening')
    · exact absurd (List.cons.inj h).1 (leaf.unit_ne_marker leaf')
  | group opening content closing suffix ih =>
    rintro (⟨leaf' | ⟨opening', content', closing'⟩, suffix'⟩ | leaf') r r' hr hr' h
    · exact absurd (List.cons.inj h).1.symm (leaf'.unit_ne_opening opening)
    · simp only [lexemes, UnitTree.lexemes, lexemesAll_eq_flatMap, List.append_assoc,
        List.cons_append, List.nil_append, Leaf.cons_eq_cons_iff] at h
      obtain ⟨rfl, inner⟩ := h
      have noClose : Token.beginsExpr .groupClose = false := rfl
      obtain ⟨rfl, behind⟩ := flatMap_cancel NoStar begins noStar_of_beginsExpr ih
        (noStar_fixed closing (by decide) _) (noStar_fixed closing' (by decide) _)
        (noHead_fixed closing noClose _) (noHead_fixed closing' noClose _) inner
      obtain ⟨rfl, rest⟩ := Leaf.cons_eq_cons_iff.1 behind
      obtain ⟨rfl, rfl⟩ := suffix_cancel hr hr' rest
      exact ⟨rfl, rfl⟩
    · exact absurd (List.cons.inj h).1.symm (leaf'.marker_ne_opening opening)
  | marker leaf =>
    rintro (⟨leaf' | ⟨opening', content', closing'⟩, suffix'⟩ | leaf') r r' hr hr' h
    · exact absurd (List.cons.inj h).1.symm (leaf'.unit_ne_marker leaf)
    · exact absurd (List.cons.inj h).1 (leaf.marker_ne_opening opening')
    · obtain ⟨rfl, rfl⟩ := Leaf.cons_eq_cons_iff.1 h
      exact ⟨rfl, rfl⟩

end ExprTree

namespace RowTree

theorem begins (t : RowTree) : ∃ l ls, t.lexemes = l :: ls ∧ l.token.beginsExpr = true := by
  obtain ⟨l, ls, h, begins⟩ := t.first.begins
  exact ⟨l, _, by rw [lexemes, content, ExprTree.lexemesAll, h]; rfl, begins⟩

theorem cancel (t t' : RowTree) (r r' : List Lexeme) (h : t.lexemes ++ r = t'.lexemes ++ r') :
    t = t' ∧ r = r' := by
  obtain ⟨first, more, closing⟩ := t
  obtain ⟨first', more', closing'⟩ := t'
  simp only [lexemes, content, ExprTree.lexemesAll_eq_flatMap, List.append_assoc,
    List.singleton_append] at h
  have noEnd : Token.beginsExpr .rowEnd = false := rfl
  obtain ⟨same, behind⟩ := flatMap_cancel NoStar ExprTree.begins
    ExprTree.noStar_of_beginsExpr (fun t _ => t.cancel) (noStar_fixed closing (by decide) _)
    (noStar_fixed closing' (by decide) _) (noHead_fixed closing noEnd _)
    (noHead_fixed closing' noEnd _) h
  cases same
  obtain ⟨rfl, rfl⟩ := Leaf.cons_eq_cons_iff.1 behind
  exact ⟨rfl, rfl⟩

end RowTree

/-- Lists of trees that need no lexeme behind them can be told apart if the trees can. -/
theorem flatMap_cancel_of_ended {α : Type} {lexemes : α → List Lexeme} {begins : Token → Bool}
    (start : ∀ a, ∃ l ls, lexemes a = l :: ls ∧ begins l.token = true)
    (cancel : ∀ a b r r', lexemes a ++ r = lexemes b ++ r' → a = b ∧ r = r') {as bs : List α}
    {r r' : List Lexeme} (ended : NoHead begins r) (ended' : NoHead begins r')
    (h : as.flatMap lexemes ++ r = bs.flatMap lexemes ++ r') : as = bs ∧ r = r' :=
  flatMap_cancel (fun _ => True) start (fun _ _ _ => trivial)
    (fun a _ b r r' _ _ => cancel a b r r') trivial trivial ended ended' h

theorem BlockTree.cancel (t t' : BlockTree) (r r' : List Lexeme)
    (h : t.lexemes ++ r = t'.lexemes ++ r') : t = t' ∧ r = r' := by
  obtain ⟨⟨keyword, count, opening, rows⟩, closing⟩ := t
  obtain ⟨⟨keyword', count', opening', rows'⟩, closing'⟩ := t'
  simp only [lexemes, BlockHead.lexemes, List.cons_append, List.append_assoc,
    List.nil_append, Leaf.cons_eq_cons_iff] at h
  obtain ⟨rfl, rfl, rfl, inner⟩ := h
  have noClose : Token.beginsExpr .blockClose = false := rfl
  obtain ⟨rfl, behind⟩ := flatMap_cancel_of_ended RowTree.begins RowTree.cancel
    (noHead_fixed closing noClose _) (noHead_fixed closing' noClose _) inner
  obtain ⟨rfl, rfl⟩ := Leaf.cons_eq_cons_iff.1 behind
  exact ⟨rfl, rfl⟩

def Token.beginsItem (t : Token) : Bool := t.beginsExpr || t == .repeatWord

namespace ItemTree

theorem begins (t : ItemTree) : ∃ l ls, t.lexemes = l :: ls ∧ l.token.beginsItem = true := by
  cases t with
  | row t =>
    obtain ⟨l, ls, h, begins⟩ := t.begins
    exact ⟨l, ls, h, by simp [Token.beginsItem, begins]⟩
  | block t =>
    exact ⟨t.keyword.lexeme, _, rfl, by simp [Token.beginsItem, t.keyword.token_eq]⟩

theorem row_ne_block (t : RowTree) (t' : BlockTree) (r r' : List Lexeme) :
    t.lexemes ++ r ≠ t'.lexemes ++ r' := by
  intro h
  obtain ⟨l, ls, hl, begins⟩ := t.begins
  rw [hl] at h
  have same : l = t'.keyword.lexeme := (List.cons.inj h).1
  rw [same, t'.keyword.token_eq] at begins
  cases begins

theorem cancel (t t' : ItemTree) (r r' : List Lexeme) (h : t.lexemes ++ r = t'.lexemes ++ r') :
    t = t' ∧ r = r' := by
  cases t with
  | row t =>
    cases t' with
    | row t' =>
      obtain ⟨rfl, rfl⟩ := t.cancel t' r r' h
      exact ⟨rfl, rfl⟩
    | block t' => exact absurd h (row_ne_block t t' r r')
  | block t =>
    cases t' with
    | row t' => exact absurd h.symm (row_ne_block t' t r' r)
    | block t' =>
      obtain ⟨rfl, rfl⟩ := t.cancel t' r r' h
      exact ⟨rfl, rfl⟩

end ItemTree

namespace SectionTree

theorem begins (t : SectionTree) :
    ∃ l ls, t.lexemes = l :: ls ∧ (l.token == .sectionWord) = true :=
  ⟨t.keyword.lexeme, _, rfl, by simp [t.keyword.token_eq]⟩

theorem cancel (t t' : SectionTree) (r r' : List Lexeme)
    (h : t.lexemes ++ r = t'.lexemes ++ r') : t = t' ∧ r = r' := by
  obtain ⟨⟨keyword, name, opening, content⟩, closing⟩ := t
  obtain ⟨⟨keyword', name', opening', content'⟩, closing'⟩ := t'
  simp only [lexemes, SectionHead.lexemes, List.cons_append, List.append_assoc,
    List.nil_append, Leaf.cons_eq_cons_iff] at h
  obtain ⟨rfl, rfl, rfl, inner⟩ := h
  have noClose : Token.beginsItem .blockClose = false := rfl
  obtain ⟨rfl, behind⟩ := flatMap_cancel_of_ended ItemTree.begins ItemTree.cancel
    (noHead_fixed closing noClose _) (noHead_fixed closing' noClose _) inner
  obtain ⟨rfl, rfl⟩ := Leaf.cons_eq_cons_iff.1 behind
  exact ⟨rfl, rfl⟩

end SectionTree

theorem Derivation.unique {ls : List Lexeme} (d d' : Derivation ls) : d = d' := by
  obtain ⟨sections, spells⟩ := d
  obtain ⟨sections', spells'⟩ := d'
  have nothing : NoHead (· == .sectionWord) [] := by simp [NoHead]
  have h : sections.flatMap SectionTree.lexemes ++ [] =
      sections'.flatMap SectionTree.lexemes ++ [] := by rw [spells, spells']
  obtain ⟨rfl, -⟩ := flatMap_cancel_of_ended SectionTree.begins SectionTree.cancel nothing nothing h
  rfl

end Knitting
