import Knitting.Proofs.Source.Meaning

/-! # The grammar of patterns

    Pattern := Section*
    Section := 'section' name '{' (Block | Row)* '}'
    Block   := 'repeat' count '{' Row* '}'
    Row     := Expr+ ';'
    Expr    := (Stitch | '(' Expr* ')') ['*' (count | '-' count)] | Marker

A derivation is a list of trees with lexemes as their leaves. What a tree means is read off its
leaves, and a list of lexemes has at most one derivation.
-/
namespace Knitting

/-- A lexeme that stands for something of the asked kind. -/
structure Leaf {α : Type} (meaning? : Lexeme → Option α) where
  lexeme : Lexeme
  meaning : α
  means : meaning? lexeme = some meaning

abbrev Fixed (t : Token) := Leaf (Lexeme.fixed? t)

inductive SuffixTree where
  | times (star : Fixed .repeatSuffix) (count : Leaf Lexeme.count?)
  | leaving (star : Fixed .repeatSuffix) (minus : Fixed .minus) (count : Leaf Lexeme.count?)

mutual

inductive UnitTree where
  | stitch (leaf : Leaf Lexeme.unit?)
  | group (opening : Fixed .groupOpen) (content : List ExprTree) (closing : Fixed .groupClose)

inductive ExprTree where
  | unit (unit : UnitTree) (suffix : Option SuffixTree)
  | marker (leaf : Leaf Lexeme.action?)

end

structure RowTree where
  first : ExprTree
  more : List ExprTree
  closing : Fixed .rowEnd

structure BlockHead where
  keyword : Fixed .repeatWord
  count : Leaf Lexeme.count?
  opening : Fixed .blockOpen
  rows : List RowTree

structure BlockTree extends BlockHead where
  closing : Fixed .blockClose

inductive ItemTree where
  | row (tree : RowTree)
  | block (tree : BlockTree)

structure SectionHead where
  keyword : Fixed .sectionWord
  name : Leaf Lexeme.name?
  opening : Fixed .blockOpen
  content : List ItemTree

structure SectionTree extends SectionHead where
  closing : Fixed .blockClose

namespace SuffixTree

def lexemes : SuffixTree → List Lexeme
  | .times star count => [star.lexeme, count.lexeme]
  | .leaving star minus count => [star.lexeme, minus.lexeme, count.lexeme]

/-- The repeat that the suffix makes of the expression before it. -/
def meaning (content : Expr) : SuffixTree → Expr
  | .times _ count => .times content count.meaning
  | .leaving _ _ count => .leaving content count.meaning

end SuffixTree

def suffixLexemes (suffix : Option SuffixTree) : List Lexeme := suffix.elim [] SuffixTree.lexemes

def suffixed (content : Expr) (suffix : Option SuffixTree) : Expr :=
  suffix.elim content (SuffixTree.meaning content)

mutual

def UnitTree.lexemes : UnitTree → List Lexeme
  | .stitch leaf => [leaf.lexeme]
  | .group opening content closing =>
    opening.lexeme :: ExprTree.lexemesAll content ++ [closing.lexeme]

def ExprTree.lexemes : ExprTree → List Lexeme
  | .unit unit suffix => unit.lexemes ++ suffixLexemes suffix
  | .marker leaf => [leaf.lexeme]

def ExprTree.lexemesAll : List ExprTree → List Lexeme
  | [] => []
  | t :: ts => t.lexemes ++ ExprTree.lexemesAll ts

end

mutual

def UnitTree.meaning : UnitTree → Expr
  | .stitch leaf => leaf.meaning
  | .group _ content _ => .group (ExprTree.meanings content)

def ExprTree.meaning : ExprTree → Expr
  | .unit unit suffix => suffixed unit.meaning suffix
  | .marker leaf => .marker leaf.meaning

def ExprTree.meanings : List ExprTree → List Expr
  | [] => []
  | t :: ts => t.meaning :: ExprTree.meanings ts

end

def ExprTree.start : ExprTree → Lexeme
  | .unit (.stitch leaf) _ => leaf.lexeme
  | .unit (.group opening _ _) _ => opening.lexeme
  | .marker leaf => leaf.lexeme

namespace RowTree

def content (t : RowTree) : List ExprTree := t.first :: t.more

def lexemes (t : RowTree) : List Lexeme := ExprTree.lexemesAll t.content ++ [t.closing.lexeme]

def meaning (t : RowTree) : Row := ⟨ExprTree.meanings t.content, t.first.start.position⟩

end RowTree

namespace BlockHead

def lexemes (t : BlockHead) : List Lexeme :=
  t.keyword.lexeme :: t.count.lexeme :: t.opening.lexeme :: t.rows.flatMap RowTree.lexemes

end BlockHead

namespace BlockTree

def lexemes (t : BlockTree) : List Lexeme := t.toBlockHead.lexemes ++ [t.closing.lexeme]

def meaning (t : BlockTree) : Block := ⟨t.rows.map RowTree.meaning, t.count.meaning⟩

end BlockTree

namespace ItemTree

def lexemes : ItemTree → List Lexeme
  | .row t => t.lexemes
  | .block t => t.lexemes

def meaning : ItemTree → Item
  | .row t => .row t.meaning
  | .block t => .block t.meaning

end ItemTree

namespace SectionHead

def lexemes (t : SectionHead) : List Lexeme :=
  t.keyword.lexeme :: t.name.lexeme :: t.opening.lexeme :: t.content.flatMap ItemTree.lexemes

end SectionHead

namespace SectionTree

def lexemes (t : SectionTree) : List Lexeme := t.toSectionHead.lexemes ++ [t.closing.lexeme]

def meaning (t : SectionTree) : Section := ⟨t.name.meaning, t.content.map ItemTree.meaning⟩

end SectionTree

/-- A derivation of lexemes from `Pattern`. -/
structure Derivation (ls : List Lexeme) where
  sections : List SectionTree
  spells : sections.flatMap SectionTree.lexemes = ls

def Derivation.pattern {ls : List Lexeme} (d : Derivation ls) : List Section :=
  d.sections.map SectionTree.meaning

namespace ExprTree

/-- Induction on trees of expressions; the hypothesis for a group speaks of each of its members. -/
@[elab_as_elim, induction_eliminator]
theorem induction {P : ExprTree → Prop} (stitch : ∀ leaf suffix, P (.unit (.stitch leaf) suffix))
    (group : ∀ opening content closing suffix, (∀ t ∈ content, P t) →
      P (.unit (.group opening content closing) suffix))
    (marker : ∀ leaf, P (.marker leaf)) : ∀ t, P t
  | .unit (.stitch leaf) suffix => stitch leaf suffix
  | .unit (.group opening content closing) suffix =>
    group opening content closing suffix fun t _ => induction stitch group marker t
  | .marker leaf => marker leaf

theorem lexemesAll_eq_flatMap (ts : List ExprTree) : lexemesAll ts = ts.flatMap lexemes := by
  induction ts with
  | nil => rfl
  | cons t ts ih => rw [lexemesAll, ih, List.flatMap_cons]

theorem meanings_eq_map (ts : List ExprTree) : meanings ts = ts.map meaning := by
  induction ts with
  | nil => rfl
  | cons t ts ih => rw [meanings, ih, List.map_cons]

theorem lexemes_eq_start_cons (t : ExprTree) : ∃ rest, t.lexemes = t.start :: rest := by
  match t with
  | .unit (.stitch leaf) suffix =>
    exact ⟨suffixLexemes suffix, by simp [lexemes, UnitTree.lexemes, start]⟩
  | .unit (.group opening content closing) suffix =>
    exact ⟨_, by rw [lexemes, UnitTree.lexemes, List.cons_append, List.cons_append, start]⟩
  | .marker leaf => exact ⟨[], by rw [lexemes, start]⟩

end ExprTree

theorem RowTree.head?_lexemes (t : RowTree) :
    t.lexemes.head?.map Lexeme.position = some t.meaning.position := by
  obtain ⟨rest, h⟩ := t.first.lexemes_eq_start_cons
  simp [lexemes, content, ExprTree.lexemesAll, h, meaning]

end Knitting
