import Knitting.Proofs.Pattern.Spelling

/-! # Writing a pattern and reading it back

The lexemes of the canonical spelling have a derivation, built along the pattern itself: every
part gives the leaves of one construct, and the blanks between the parts give none. What is read
is therefore the pattern, but for the places of its rows.
-/
namespace Knitting
open Text

def Row.unplaced (r : Row) : Row := { r with position := .start }

def Block.unplaced (b : Block) : Block := { b with rows := b.rows.map Row.unplaced }

def Item.unplaced : Item → Item
  | .row r => .row r.unplaced
  | .block b => .block b.unplaced

def Section.unplaced (s : Section) : Section := { s with content := s.content.map Item.unplaced }

/-- The lexemes are those of the parts, wherever they stand. -/
def Spells (ls : List Lexeme) (parts : List (List Char)) : Prop :=
  ls.map Lexeme.bare = parts.flatMap bareLexemes

theorem spells_append_iff {ls : List Lexeme} {ps qs : List (List Char)} :
    Spells ls (ps ++ qs) ↔ ∃ ms ns, ls = ms ++ ns ∧ Spells ms ps ∧ Spells ns qs := by
  rw [Spells, List.flatMap_append, List.map_eq_append_iff]
  rfl

theorem spells_cons_iff {ls : List Lexeme} {p : List Char} {ps : List (List Char)} :
    Spells ls (p :: ps) ↔ ∃ ms ns, ls = ms ++ ns ∧ Spells ms [p] ∧ Spells ns ps := by
  rw [← List.singleton_append, spells_append_iff]

theorem bareLexemes_word {word : List Char} (h : pieces word = [⟨.word, word⟩]) :
    bareLexemes word = [classify word] := by
  simp [bareLexemes, h, Piece.bare?, Lexeme.bare, Lexeme.ofPiece]

theorem bareLexemes_digits (n : UInt32) :
    bareLexemes (digits n) = [(.integer, String.ofList (digits n))] := by
  simp [bareLexemes, pieces_digits (isDigitRun_digits n), Piece.bare?, Lexeme.bare,
    Lexeme.ofPiece]

@[simp] theorem bareLexemes_nil : bareLexemes [] = [] := by
  simp [bareLexemes, pieces]

theorem bareLexemes_punctuation {c : Char} {kind : PieceKind} (blank : isBlank c = false)
    (h : punctuation? c = some kind) (cs : List Char) :
    bareLexemes (c :: cs) = (Piece.bare? ⟨kind, [c]⟩).toList ++ bareLexemes cs := by
  rw [bareLexemes, pieces_punctuation blank h, List.filterMap_cons]
  cases Piece.bare? ⟨kind, [c]⟩ <;> rfl

theorem spells_word {ls : List Lexeme} {word : List Char} (h : pieces word = [⟨.word, word⟩])
    (spells : Spells ls [word]) : ∃ l, ls = [l] ∧ l.bare = classify word := by
  rw [Spells, List.flatMap_singleton, bareLexemes_word h] at spells
  exact List.map_eq_singleton_iff.1 spells

theorem spells_digits {ls : List Lexeme} {n : UInt32} (spells : Spells ls [digits n]) :
    ∃ count : Leaf Lexeme.count?, ls = [count.lexeme] ∧ count.meaning = n := by
  rw [Spells, List.flatMap_singleton, bareLexemes_digits] at spells
  obtain ⟨l, rfl, bare⟩ := List.map_eq_singleton_iff.1 spells
  exact ⟨⟨l, n, Lexeme.count?_of_digits bare⟩, rfl, rfl⟩

/-- Characters that are a part of their own, with the tokens that they become. -/
def marks : List (Char × Token) :=
  [('(', .groupOpen), (')', .groupClose), ('{', .blockOpen), ('}', .blockClose), (';', .rowEnd)]

theorem spells_mark {ls : List Lexeme} {c : Char} {t : Token} (h : (c, t) ∈ marks)
    (spells : Spells ls [[c]]) : ∃ leaf : Fixed t, ls = [leaf.lexeme] := by
  have known : ∀ m ∈ marks, ∃ kind literal, isBlank m.1 = false ∧ punctuation? m.1 = some kind ∧
      Piece.bare? ⟨kind, [m.1]⟩ = some (m.2, literal) := by
    simp only [marks, List.forall_mem_cons]
    refine ⟨?_, ?_, ?_, ?_, ?_, List.forall_mem_nil _⟩ <;> exact ⟨_, _, by decide, rfl, rfl⟩
  obtain ⟨kind, literal, blank, punctuation, bare⟩ := known _ h
  rw [Spells, List.flatMap_singleton, bareLexemes_punctuation blank punctuation, bare,
    bareLexemes_nil] at spells
  obtain ⟨l, rfl, bare⟩ := List.map_eq_singleton_iff.1 spells
  exact ⟨.ofToken (congrArg Prod.fst bare), rfl⟩

def openers : List (String × Token) := [("repeat", .repeatWord), ("section", .sectionWord)]

theorem pieces_opener {word : String} {t : Token} (h : (word, t) ∈ openers) :
    pieces word.toList = [⟨.word, word.toList⟩] := by
  simp only [openers, List.mem_cons, Prod.mk.injEq, List.not_mem_nil, or_false] at h
  rcases h with ⟨rfl, -⟩ | ⟨rfl, -⟩
  · exact pieces_of_letters (c := 'r') rfl (by decide) (by decide)
  · exact pieces_of_letters (c := 's') rfl (by decide) (by decide)

theorem spells_opener {ls : List Lexeme} {word : String} {t : Token} (h : (word, t) ∈ openers)
    (spells : Spells ls [word.toList]) : ∃ leaf : Fixed t, ls = [leaf.lexeme] := by
  have known : ∀ o ∈ openers, (classify o.1.toList).1 = o.2 := by decide +kernel
  have opener : (classify word.toList).1 = t := known (word, t) h
  obtain ⟨l, rfl, bare⟩ := spells_word (pieces_opener h) spells
  have token : l.token = t := by rw [← opener, ← bare, Lexeme.bare]
  exact ⟨.ofToken token, rfl⟩

theorem bareLexemes_star (cs : List Char) :
    bareLexemes ('*' :: cs) = (.repeatSuffix, String.ofList ['*']) :: bareLexemes cs :=
  bareLexemes_punctuation (c := '*') (by decide) rfl cs

theorem bareLexemes_minus (cs : List Char) :
    bareLexemes ('-' :: cs) = (.minus, String.ofList ['-']) :: bareLexemes cs :=
  bareLexemes_punctuation (c := '-') (by decide) rfl cs

theorem spells_times {ls : List Lexeme} {n : UInt32} (spells : Spells ls ['*' :: digits n]) :
    ∃ suffix : SuffixTree, suffix.lexemes = ls ∧ ∀ e, suffix.meaning e = .times e n := by
  rw [Spells, List.flatMap_singleton, bareLexemes_star, List.map_eq_cons_iff] at spells
  obtain ⟨star, rest, rfl, bare, spells⟩ := spells
  obtain ⟨count, rfl, rfl⟩ := spells_digits (n := n) (by rwa [Spells, List.flatMap_singleton])
  exact ⟨.times (.ofToken (congrArg Prod.fst bare)) count, rfl, fun _ => rfl⟩

theorem spells_leaving {ls : List Lexeme} {n : UInt32}
    (spells : Spells ls ['*' :: '-' :: digits n]) :
    ∃ suffix : SuffixTree, suffix.lexemes = ls ∧ ∀ e, suffix.meaning e = .leaving e n := by
  rw [Spells, List.flatMap_singleton, bareLexemes_star, bareLexemes_minus,
    List.map_eq_cons_iff] at spells
  obtain ⟨star, rest, rfl, bareStar, spells⟩ := spells
  obtain ⟨minus, rest, rfl, bareMinus, spells⟩ := List.map_eq_cons_iff.1 spells
  obtain ⟨count, rfl, rfl⟩ := spells_digits (n := n) (by rwa [Spells, List.flatMap_singleton])
  exact ⟨.leaving (.ofToken (congrArg Prod.fst bareStar))
    (.ofToken (congrArg Prod.fst bareMinus)) count, rfl, fun _ => rfl⟩

theorem spells_braced {ls : List Lexeme} {word : String} {t : Token} {label : List Char}
    {inside : List (List Char)} (h : (word, t) ∈ openers)
    (spells : Spells ls (braced word label inside)) :
    ∃ (keyword : Fixed t) (opening : Fixed .blockOpen) (closing : Fixed .blockClose)
      (ms ns : List Lexeme), Spells ms [label] ∧ Spells ns inside ∧
        ls = keyword.lexeme :: (ms ++ opening.lexeme :: (ns ++ [closing.lexeme])) := by
  obtain ⟨_, _, rfl, first, afterWord⟩ := spells_cons_iff.1 spells
  obtain ⟨keyword, rfl⟩ := spells_opener h first
  obtain ⟨ms, _, rfl, labelled, afterLabel⟩ := spells_cons_iff.1 afterWord
  obtain ⟨_, _, rfl, left, afterLeft⟩ := spells_cons_iff.1 afterLabel
  obtain ⟨opening, rfl⟩ := spells_mark (t := .blockOpen) (by decide) left
  obtain ⟨ns, _, rfl, spelled, right⟩ := spells_append_iff.1 afterLeft
  obtain ⟨closing, rfl⟩ := spells_mark (t := .blockClose) (by decide) right
  exact ⟨keyword, opening, closing, ms, ns, labelled, spelled, rfl⟩

/-- If every member has a tree of its lexemes, the lexemes of all members have trees in turn. -/
theorem exists_trees {α β γ : Type} {parts : α → List (List Char)} {lexemes : β → List Lexeme}
    {f : α → γ} {g : β → γ} {as : List α}
    (h : ∀ a ∈ as, ∀ ls, Spells ls (parts a) → ∃ b, lexemes b = ls ∧ g b = f a)
    {ls : List Lexeme} (spells : Spells ls (as.flatMap parts)) :
    ∃ bs : List β, bs.flatMap lexemes = ls ∧ bs.map g = as.map f := by
  induction as generalizing ls with
  | nil =>
    rw [List.flatMap_nil, Spells, List.flatMap_nil, List.map_eq_nil_iff] at spells
    exact ⟨[], spells.symm, rfl⟩
  | cons a as ih =>
    rw [List.flatMap_cons, spells_append_iff] at spells
    obtain ⟨ms, ns, rfl, first, more⟩ := spells
    obtain ⟨b, hb, hf⟩ := h a List.mem_cons_self ms first
    obtain ⟨bs, hbs, hfs⟩ := ih (fun c hc => h c (List.mem_cons_of_mem a hc)) more
    exact ⟨b :: bs, by rw [List.flatMap_cons, hb, hbs],
      by rw [List.map_cons, List.map_cons, hf, hfs]⟩

/-- The lexemes have a tree that means the expression, and a unit if the expression is one. -/
structure Treed (e : Expr) (ls : List Lexeme) : Prop where
  unit : e.isUnit → ∃ u : UnitTree, u.lexemes = ls ∧ u.meaning = e
  tree : ∃ t : ExprTree, t.lexemes = ls ∧ t.meaning = e

theorem treed_unit (u : UnitTree) : Treed u.meaning u.lexemes where
  unit _ := ⟨u, rfl, rfl⟩
  tree := ⟨.unit u none, by simp [ExprTree.lexemes, suffixLexemes], rfl⟩

namespace Expr

theorem partsAll_eq_flatMap (es : List Expr) : partsAll es = es.flatMap parts := by
  induction es with
  | nil => rfl
  | cons e es ih => rw [partsAll, ih, List.flatMap_cons]

theorem treed_suffixed {e e' : Expr} {ms ns : List Lexeme} {suffix : SuffixTree}
    (unit : e.isUnit) (treed : Treed e ms) (hs : suffix.lexemes = ns) (he : suffix.meaning e = e')
    (noUnit : e'.isUnit = false) : Treed e' (ms ++ ns) := by
  obtain ⟨u, rfl, rfl⟩ := treed.unit unit
  subst hs he
  refine ⟨fun h => absurd h (by simp [noUnit]), .unit u (some suffix), ?_, rfl⟩
  rw [ExprTree.lexemes]
  rfl

/-- Lexemes that spell a writable expression have a tree that means it. -/
theorem treed_of_spells (e : Expr) :
    e.Writable → ∀ ls, Spells ls e.parts → Treed e ls := by
  induction e with
  | stitch s =>
    intro _ ls spells
    obtain ⟨l, rfl, bare⟩ := spells_word s.pieces_word spells
    exact treed_unit (.stitch ⟨l, .stitch s, Lexeme.unit?_of_word bare⟩)
  | group es ih =>
    intro writable ls spells
    rw [Writable, writableAll_iff] at writable
    rw [parts, List.cons_append, spells_cons_iff] at spells
    obtain ⟨_, _, rfl, first, rest⟩ := spells
    obtain ⟨opening, rfl⟩ := spells_mark (t := .groupOpen) (by decide) first
    obtain ⟨_, _, rfl, inside, last⟩ := spells_append_iff.1 rest
    obtain ⟨closing, rfl⟩ := spells_mark (t := .groupClose) (by decide) last
    rw [partsAll_eq_flatMap] at inside
    obtain ⟨ts, rfl, meanings⟩ :=
      exists_trees (f := id) (fun e he ls h => (ih e he (writable e he) ls h).tree) inside
    have treed := treed_unit (.group opening ts closing)
    rw [UnitTree.lexemes, UnitTree.meaning, ExprTree.meanings_eq_map, meanings, List.map_id,
      ExprTree.lexemesAll_eq_flatMap] at treed
    exact treed
  | times e n ih =>
    intro writable ls spells
    obtain ⟨unit, writable⟩ := writable
    rw [parts] at spells
    -- A run is one word; every other repeat is its content and a suffix.
    cases run : e.runLetter? with
    | some letter =>
      rw [run] at spells
      obtain ⟨l, rfl, bare⟩ := spells_word (pieces_run run (isDigitRun_digits n)) spells
      let leaf : Leaf Lexeme.unit? := ⟨l, .times e n,
        Lexeme.unit?_of_run run (isDigitRun_digits n) (decimalValue_digits n) bare⟩
      exact treed_unit (.stitch leaf)
    | none =>
      rw [run] at spells
      obtain ⟨ms, ns, rfl, content, behind⟩ := spells_append_iff.1 spells
      obtain ⟨suffix, hs, he⟩ := spells_times behind
      exact treed_suffixed unit (ih writable ms content) hs (he e) (by simp [isUnit, run])
  | leaving e n ih =>
    intro writable ls spells
    obtain ⟨unit, writable⟩ := writable
    rw [parts, spells_append_iff] at spells
    obtain ⟨ms, ns, rfl, content, behind⟩ := spells
    obtain ⟨suffix, hs, he⟩ := spells_leaving behind
    exact treed_suffixed unit (ih writable ms content) hs (he e) rfl
  | marker action =>
    intro writable ls spells
    obtain ⟨l, rfl, bare⟩ := spells_word (action.pieces_word writable) spells
    let leaf : Leaf Lexeme.action? := ⟨l, action, Lexeme.action?_of_word writable bare⟩
    exact ⟨fun h => absurd h (by simp [isUnit]), .marker leaf, by rw [ExprTree.lexemes], rfl⟩

end Expr

theorem Row.tree_of_spells (r : Row) (writable : r.Writable) (ls : List Lexeme)
    (spells : Spells ls r.parts) :
    ∃ t : RowTree, t.lexemes = ls ∧ t.meaning.unplaced = r.unplaced := by
  obtain ⟨_, _, rfl, inside, last⟩ := spells_append_iff.1 spells
  obtain ⟨closing, rfl⟩ := spells_mark (t := .rowEnd) (by decide) last
  rw [Expr.partsAll_eq_flatMap] at inside
  obtain ⟨ts, rfl, meanings⟩ := exists_trees (f := id)
    (fun e he ls h => (e.treed_of_spells (writable.content e he) ls h).tree) inside
  rw [List.map_id] at meanings
  cases ts with
  | nil => exact absurd meanings.symm writable.nonempty
  | cons first more =>
    refine ⟨⟨first, more, closing⟩, ?_, ?_⟩
    · rw [RowTree.lexemes, RowTree.content, ExprTree.lexemesAll_eq_flatMap]
    · rw [Row.unplaced, Row.unplaced, RowTree.meaning, RowTree.content, ExprTree.meanings_eq_map,
        meanings]

theorem Block.tree_of_spells (b : Block) (writable : ∀ r ∈ b.rows, r.Writable) (ls : List Lexeme)
    (spells : Spells ls b.parts) :
    ∃ t : BlockTree, t.lexemes = ls ∧ t.meaning.unplaced = b.unplaced := by
  obtain ⟨keyword, opening, closing, _, _, number, inside, rfl⟩ :=
    spells_braced (t := .repeatWord) (by decide) spells
  obtain ⟨count, rfl, hcount⟩ := spells_digits number
  obtain ⟨rows, rfl, meanings⟩ :=
    exists_trees (fun r hr => r.tree_of_spells (writable r hr)) inside
  refine ⟨⟨⟨keyword, count, opening, rows⟩, closing⟩, rfl, ?_⟩
  simpa [BlockTree.meaning, unplaced, hcount, Function.comp_def] using meanings

theorem Item.tree_of_spells (i : Item) (writable : i.Writable) (ls : List Lexeme)
    (spells : Spells ls i.parts) :
    ∃ t : ItemTree, t.lexemes = ls ∧ t.meaning.unplaced = i.unplaced := by
  cases i with
  | row r =>
    obtain ⟨t, lexemes, meaning⟩ := r.tree_of_spells writable ls spells
    exact ⟨.row t, lexemes, congrArg Item.row meaning⟩
  | block b =>
    obtain ⟨t, lexemes, meaning⟩ := b.tree_of_spells writable ls spells
    exact ⟨.block t, lexemes, congrArg Item.block meaning⟩

theorem Section.tree_of_spells (s : Section) (writable : s.Writable) (ls : List Lexeme)
    (spells : Spells ls s.parts) :
    ∃ t : SectionTree, t.lexemes = ls ∧ t.meaning.unplaced = s.unplaced := by
  obtain ⟨keyword, opening, closing, _, _, named, inside, rfl⟩ :=
    spells_braced (t := .sectionWord) (by decide) spells
  obtain ⟨l, rfl, bare⟩ := spells_word writable.name.1 named
  obtain ⟨content, rfl, meanings⟩ :=
    exists_trees (fun i hi => i.tree_of_spells (writable.content i hi)) inside
  let name : Leaf Lexeme.name? := ⟨l, s.name, Lexeme.name?_of_isName writable.name bare⟩
  refine ⟨⟨⟨keyword, name, opening, content⟩, closing⟩, rfl, ?_⟩
  simpa [SectionTree.meaning, unplaced, name, Function.comp_def] using meanings

theorem plain_mark {c : Char} {t : Token} (h : (c, t) ∈ marks) : Plain [c] := by
  have known : ∀ m ∈ marks, isBlank m.1 = false ∧ (punctuation? m.1).isSome := by decide
  obtain ⟨blank, punctuation⟩ := known _ h
  obtain ⟨kind, punctuation⟩ := Option.isSome_iff_exists.1 punctuation
  exact plain_punctuation blank punctuation plain_nil

theorem plain_braced {word : String} {t : Token} {label : List Char} {inside : List (List Char)}
    (h : (word, t) ∈ openers) (plainLabel : Plain label) (plainInside : ∀ p ∈ inside, Plain p) :
    ∀ p ∈ braced word label inside, Plain p := by
  have keyword := plain_word (pieces_opener h)
  have opening := plain_mark (c := '{') (t := .blockOpen) (by decide)
  have closing := plain_mark (c := '}') (t := .blockClose) (by decide)
  simp only [braced, List.forall_mem_cons, List.forall_mem_append]
  exact ⟨keyword, plainLabel, opening, plainInside, closing, List.forall_mem_nil _⟩

theorem plain_times (n : UInt32) : Plain ('*' :: digits n) :=
  plain_punctuation (by decide) rfl (plain_digits (isDigitRun_digits n))

theorem plain_leaving (n : UInt32) : Plain ('*' :: '-' :: digits n) :=
  plain_punctuation (by decide) rfl
    (plain_punctuation (by decide) rfl (plain_digits (isDigitRun_digits n)))

theorem Expr.plain_parts (e : Expr) : e.Writable → ∀ p ∈ e.parts, Plain p := by
  induction e with
  | stitch s => simpa [parts] using fun _ => plain_word s.pieces_word
  | group es ih =>
    intro writable
    rw [Writable, writableAll_iff] at writable
    have inside : ∀ p ∈ partsAll es, Plain p := by
      rw [partsAll_eq_flatMap, List.forall_mem_flatMap]
      exact fun e he => ih e he (writable e he)
    have opening := plain_mark (c := '(') (t := .groupOpen) (by decide)
    have closing := plain_mark (c := ')') (t := .groupClose) (by decide)
    simpa [parts, or_imp, forall_and] using ⟨opening, inside, closing⟩
  | times e n ih =>
    intro writable
    rw [parts]
    cases run : e.runLetter? with
    | some letter => simpa using plain_word (pieces_run run (isDigitRun_digits n))
    | none => simpa [or_imp, forall_and] using ⟨ih writable.2, plain_times n⟩
  | leaving e n ih =>
    intro writable
    simpa [parts, or_imp, forall_and] using ⟨ih writable.2, plain_leaving n⟩
  | marker action =>
    intro writable
    simpa [parts] using plain_word (action.pieces_word writable)

theorem Row.plain_parts (r : Row) (writable : r.Writable) : ∀ p ∈ r.parts, Plain p := by
  have inside : ∀ p ∈ Expr.partsAll r.content, Plain p := by
    rw [Expr.partsAll_eq_flatMap, List.forall_mem_flatMap]
    exact fun e he => e.plain_parts (writable.content e he)
  have closing := plain_mark (c := ';') (t := .rowEnd) (by decide)
  simpa [parts, or_imp, forall_and] using ⟨inside, closing⟩

theorem Item.plain_parts (i : Item) (writable : i.Writable) : ∀ p ∈ i.parts, Plain p := by
  cases i with
  | row r => exact r.plain_parts writable
  | block b =>
    have rows : ∀ p ∈ b.rows.flatMap Row.parts, Plain p :=
      List.forall_mem_flatMap.2 fun r hr => r.plain_parts (writable r hr)
    exact plain_braced (t := .repeatWord) (by decide)
      (plain_digits (isDigitRun_digits b.count)) rows

theorem Section.plain_parts (s : Section) (writable : s.Writable) : ∀ p ∈ s.parts, Plain p := by
  have items : ∀ p ∈ s.content.flatMap Item.parts, Plain p :=
    List.forall_mem_flatMap.2 fun i hi => i.plain_parts (writable.content i hi)
  exact plain_braced (t := .sectionWord) (by decide) (plain_word writable.name.1) items

theorem spells_spelling {pattern : List Section} (writable : ∀ s ∈ pattern, s.Writable) :
    Spells (LexemeStream.ofSource (spelling pattern)).lexemes (pattern.flatMap Section.parts) := by
  rw [Spells, LexemeStream.bare_ofSource, spelling, String.toList_ofList]
  exact bareLexemes_intercalate
    (List.forall_mem_flatMap.2 fun s hs => s.plain_parts (writable s hs))

theorem parse_spelling {pattern : List Section} (writable : ∀ s ∈ pattern, s.Writable) :
    ∃ read, parse (spelling pattern) = .ok read ∧
      read.map Section.unplaced = pattern.map Section.unplaced := by
  obtain ⟨sections, spells, meanings⟩ :=
    exists_trees (fun s hs => s.tree_of_spells (writable s hs)) (spells_spelling writable)
  refine ⟨_, parse_eq_ok_iff.2 ⟨⟨sections, spells⟩, rfl⟩, ?_⟩
  simpa [Derivation.pattern, Function.comp_def] using meanings

/-- A section with a run, an inferred repeat of a group, markers and a block. -/
def cuff : Section :=
  ⟨"cuff",
    [.row ⟨[.times (.stitch .knit) 3,
        .leaving (.group [.times (.times (.stitch .purl) 2) 0, .marker (.place 'A')]) 2], .start⟩,
      .block ⟨[⟨[.times (.stitch (.cable .purlForward 2 1)) 4, .marker (.remove 'A')], .start⟩],
        4294967295⟩]⟩

example : spelling [cuff] = "section cuff \x7b k3 ( p2 *0 mA ) *-2 ; " ++
    "repeat 4294967295 \x7b p2/1r *4 rmA ; \x7d \x7d" := by decide +kernel

theorem writable_cuff : cuff.Writable where
  name := by
    exact ⟨pieces_of_letters (c := 'c') rfl (by decide) (by decide), by decide +kernel⟩
  content := by
    simp only [cuff, List.forall_mem_cons]
    refine ⟨⟨by simp, ?_⟩, ?_, List.forall_mem_nil _⟩
    · simp [Expr.Writable, Expr.WritableAll, Expr.isUnit, Expr.runLetter?, MarkerAction.name]
    · simp only [Item.Writable, List.forall_mem_cons]
      refine ⟨⟨by simp, ?_⟩, List.forall_mem_nil _⟩
      simp [Expr.Writable, Expr.isUnit, MarkerAction.name]

/-- What is read is writable, and what is writable is read back from its canonical spelling, but
for the positions of the rows. -/
theorem parse_spelling_roundTrip :
    (∀ source pattern, parse source = .ok pattern → ∀ s ∈ pattern, s.Writable) ∧
      ∀ pattern : List Section, (∀ s ∈ pattern, s.Writable) →
        ∃ read, parse (spelling pattern) = .ok read ∧
          read.map Section.unplaced = pattern.map Section.unplaced :=
  ⟨fun _ _ => writable_of_parse, fun _ => parse_spelling⟩

theorem parse_spelling_roundTrip_cuff :
    ∃ read, parse (spelling [cuff]) = .ok read ∧ read.map Section.unplaced = [cuff] ∧
      ∀ s ∈ read, s.Writable := by
  obtain ⟨writable, back⟩ := parse_spelling_roundTrip
  have all : ∀ s ∈ [cuff], s.Writable := by
    simpa using writable_cuff
  obtain ⟨read, parsed, same⟩ := back [cuff] all
  exact ⟨read, parsed, same, writable _ read parsed⟩

end Knitting
