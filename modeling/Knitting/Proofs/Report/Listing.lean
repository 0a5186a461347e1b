import Knitting.Proofs.Pattern.Openings
import Knitting.Proofs.Pattern.RoundTrip
import Knitting.Proofs.Source.Continued
import Knitting.Proofs.Text.Lines
import Knitting.Report.Basic

/-! # What the listing of a pattern tells

Brackets and commas end what an expression begins with, and the indentation of a line tells a row
of a block from a row of a section. So a listing tells the pattern, all but the places of its rows.
-/
namespace Knitting

namespace Expr

def opening : Expr → Opening
  | .stitch s => .stitch s
  | .group _ => .group
  | .times _ n => .times n
  | .leaving _ n => .leaving n
  | .marker action => .marker action

def inside? : Expr → Option (List Expr)
  | .group es => some es
  | .times e _ | .leaving e _ => some [e]
  | .stitch _ | .marker _ => none

def listed (es : List Expr) : List Char := (", ".intercalate (texts es)).toList

def bracketed : Option (List Expr) → List Char
  | some es => '(' :: (listed es ++ [')'])
  | none => []

theorem listed_cons (e : Expr) (es : List Expr) :
    listed (e :: es) = e.text.toList ++ es.flatMap fun e => ',' :: ' ' :: e.text.toList := by
  induction es generalizing e with
  | nil => simp [listed, texts]
  | cons e' es ih =>
    rw [List.flatMap_cons, List.cons_append, List.cons_append, ← ih e', listed, texts, texts,
      String.intercalate_cons_cons]
    simp [listed, texts]

theorem listed_singleton (e : Expr) : listed [e] = e.text.toList := by
  rw [listed_cons, List.flatMap_nil, List.append_nil]

theorem toList_text (e : Expr) :
    e.text.toList = e.opening.text.toList ++ bracketed e.inside? := by
  cases e with
  | stitch s => simp [text, opening, Opening.text, inside?, bracketed]
  | group es => simp [text, opening, Opening.text, inside?, bracketed, listed]
  | times e n =>
    by_cases none : n = 0 <;>
      simp [text, opening, Opening.text, inside?, bracketed, listed_singleton, none,
        toString_string]
  | leaving e n =>
    simp [text, opening, Opening.text, inside?, bracketed, listed_singleton, toString_string]
  | marker action =>
    cases action <;> simp [text, opening, Opening.text, inside?, bracketed]

theorem ext_opening {e e' : Expr} (opening : e.opening = e'.opening)
    (inside : e.inside? = e'.inside?) : e = e' := by
  cases e <;> cases e' <;> cases opening <;> cases inside <;> rfl

theorem named_opening {e : Expr} (writable : e.Writable) : e.opening.Named := by
  cases e with
  | marker action => exact writable
  | _ => trivial

theorem writable_inside {e : Expr} {es : List Expr} (writable : e.Writable)
    (inside : e.inside? = some es) : ∀ x ∈ es, x.Writable := by
  cases e with
  | stitch _ | marker _ => cases inside
  | group es =>
    cases inside
    exact writableAll_iff.1 writable
  | times e n | leaving e n =>
    cases inside
    exact List.forall_mem_singleton.2 writable.2

/-- Nothing, or a closing bracket, is first in the list. -/
def Closes (r : List Char) : Prop := NotFirst (· != ')') r

theorem Closes.notFirst {r : List Char} (closes : Closes r) {p : Char → Bool}
    (bracket : p ')' = false) : NotFirst p r :=
  closes.mono fun c same => by rwa [bne_eq_false_iff_eq.1 same]

theorem text_ne_of_closes {e : Expr} (writable : e.Writable) {r s : List Char} (closes : Closes r) :
    r ≠ e.text.toList ++ s := by
  have named := named_opening writable
  rw [toList_text]
  cases opening : e.opening.text.toList with
  | cons c cs =>
    have listed := (e.opening.known named).isListed_text c (by simp [opening])
    have other : (c != ')') = true := bne_iff_ne.2 (by rintro rfl; exact absurd listed (by decide))
    rw [List.cons_append, ← List.cons_append, List.append_assoc]
    exact closes.ne_append other
  | nil =>
    have group : e.opening = .group :=
      Opening.text_injective named trivial (String.toList_inj.1 opening)
    cases e with
    | group es => exact closes.ne_append (by decide)
    | _ => cases group

/-- The text of the expression tells what it is and where it ends. -/
def Told (e : Expr) : Prop :=
  e.Writable → ∀ e' : Expr, e'.Writable → ∀ r r' : List Char, NotFirst isListed r →
    NotFirst isListed r' → e.text.toList ++ r = e'.text.toList ++ r' → e = e' ∧ r = r'

section Listed
variable {es es' : List Expr} {r r' : List Char}

theorem comma_listed (nonempty : es ≠ []) :
    ',' :: ' ' :: listed es = es.flatMap fun e => ',' :: ' ' :: e.text.toList := by
  cases es with
  | nil => exact absurd rfl nonempty
  | cons e es =>
    rw [listed_cons, List.flatMap_cons]
    rfl

theorem listed_cancel (told : ∀ e ∈ es, e.Told) (writable : ∀ e ∈ es, e.Writable)
    (writable' : ∀ e ∈ es', e.Writable) (hr : Closes r) (hr' : Closes r')
    (h : listed es ++ r = listed es' ++ r') : es = es' ∧ r = r' := by
  have apart : ∀ (e : Expr) (es : List Expr) (s s' : List Char), e.Writable → Closes s' →
      listed (e :: es) ++ s ≠ s' := by
    intro e es s s' writable closes same
    rw [listed_cons, List.append_assoc] at same
    exact text_ne_of_closes writable closes same.symm
  cases es with
  | nil =>
    cases es' with
    | nil => exact ⟨rfl, h⟩
    | cons e' es' => exact absurd h.symm (apart e' es' r' r (writable' e' List.mem_cons_self) hr)
  | cons e es =>
    cases es' with
    | nil => exact absurd h (apart e es r r' (writable e List.mem_cons_self) hr')
    | cons e' es' =>
      -- With a comma in front of the first of them too, they are spelled one behind the other.
      have behind := congrArg (fun cs => ',' :: ' ' :: cs) h
      simp only [← List.cons_append, comma_listed (List.cons_ne_nil _ _)] at behind
      have same : (e :: es).map id = (e' :: es').map id ∧ r = r' := by
        have comma (e : Expr) : ∃ c cs, ',' :: ' ' :: e.text.toList = c :: cs ∧ (c == ',') = true :=
          ⟨',', _, rfl, rfl⟩
        refine flatMap_key_cancel (NotFirst isListed) comma ?_ ?_ (hr.notFirst (by decide))
          (hr'.notFirst (by decide)) (hr.notFirst (by decide)) (hr'.notFirst (by decide)) behind
        · intro c cs comma
          obtain rfl : c = ',' := beq_iff_eq.1 comma
          exact notFirst_cons.2 (by decide)
        · intro a ha a' ha' s s' hs hs' same
          exact told a ha (writable a ha) a' (writable' a' ha') s s' hs hs'
            (List.cons.inj (List.cons.inj same).2).2
      rwa [List.map_id, List.map_id] at same

end Listed

theorem notFirst_bracketed (inside : Option (List Expr)) {r : List Char}
    (hr : NotFirst isListed r) : NotFirst isListed (bracketed inside ++ r) := by
  cases inside with
  | none => exact hr
  | some es => exact notFirst_cons.2 (by decide)

theorem isSome_inside {e e' : Expr} (opening : e.opening = e'.opening) :
    e.inside?.isSome = e'.inside?.isSome := by
  cases e <;> cases e' <;> cases opening <;> rfl

theorem told_of_inside {e : Expr} (told : ∀ es, e.inside? = some es → ∀ x ∈ es, x.Told) :
    e.Told := by
  intro writable e' writable' r r' hr hr' h
  have named := named_opening writable
  have named' := named_opening writable'
  rw [toList_text, toList_text, List.append_assoc, List.append_assoc] at h
  -- No bracket can stand in an opening, so it goes on as far as its characters do.
  obtain ⟨openings, behind⟩ := (notFirst_bracketed e.inside? hr).cancel
    (notFirst_bracketed e'.inside? hr') (e.opening.known named).isListed_text
    (e'.opening.known named').isListed_text h
  have opening := Opening.text_injective named named' (String.toList_inj.1 openings)
  have both := isSome_inside opening
  cases inside : e.inside? with
  | none =>
    have inside' : e'.inside? = none := by simpa [inside] using both.symm
    rw [inside, inside'] at behind
    exact ⟨ext_opening opening (inside.trans inside'.symm), behind⟩
  | some es =>
    obtain ⟨es', inside'⟩ : ∃ es', e'.inside? = some es' := by
      simpa [inside, Option.isSome_iff_exists] using both.symm
    rw [inside, inside', bracketed, bracketed, List.cons_append, List.cons_append,
      List.append_assoc, List.append_assoc] at behind
    have closes : ∀ s, Closes (')' :: s) := fun _ => notFirst_cons.2 rfl
    obtain ⟨rfl, rest⟩ := listed_cancel (told es inside) (writable_inside writable inside)
      (writable_inside writable' inside') (closes r) (closes r') (List.cons.inj behind).2
    exact ⟨ext_opening opening (inside.trans inside'.symm), (List.cons.inj rest).2⟩

/-- Induction on what stands in the brackets. -/
@[elab_as_elim]
theorem inside_induction {P : Expr → Prop}
    (step : ∀ e, (∀ es, e.inside? = some es → ∀ x ∈ es, P x) → P e) (e : Expr) : P e := by
  induction e with
  | stitch s => exact step _ nofun
  | group es ih =>
    refine step _ ?_
    rintro _ ⟨⟩
    exact ih
  | times e n ih | leaving e n ih =>
    refine step _ ?_
    rintro _ ⟨⟩
    exact List.forall_mem_singleton.2 ih
  | marker action => exact step _ nofun

/-- Texts of expressions tell them from what stands behind them. -/
theorem told (e : Expr) : e.Told := inside_induction (fun _ => told_of_inside) e

theorem mem_listed {c : Char} {es : List Expr} (h : c ∈ listed es) :
    c = ',' ∨ c = ' ' ∨ ∃ e ∈ es, c ∈ e.text.toList := by
  have comma : c ∈ ',' :: ' ' :: listed es := by simp [h]
  rw [comma_listed (by rintro rfl; cases h), List.mem_flatMap] at comma
  obtain ⟨e, mem, text⟩ := comma
  rw [List.mem_cons, List.mem_cons] at text
  exact text.imp_right (Or.imp_right fun text => ⟨e, mem, text⟩)

theorem lineFeed_notMem_text (e : Expr) : e.Writable → '\n' ∉ e.text.toList := by
  induction e using inside_induction with
  | step e ih =>
    intro writable mem
    rw [toList_text, List.mem_append] at mem
    obtain opening | brackets := mem
    · exact absurd ((e.opening.known (named_opening writable)).isListed_text _ opening) (by decide)
    · cases inside : e.inside? with
      | none =>
        rw [inside] at brackets
        cases brackets
      | some es =>
        simp only [inside, bracketed, List.mem_cons, List.mem_append, List.not_mem_nil, or_false,
          Char.reduceEq, false_or] at brackets
        obtain comma | blank | ⟨x, mem, text⟩ := mem_listed brackets
        · cases comma
        · cases blank
        · exact ih es inside x mem (writable_inside writable inside x mem) text

end Expr

namespace Row
variable {r r' : Row}

theorem unplaced_eq_of_text (writable : r.Writable) (writable' : r'.Writable)
    (h : r.text = r'.text) : r.unplaced = r'.unplaced := by
  have same : Expr.listed r.content ++ [] = Expr.listed r'.content ++ [] := by
    rw [Expr.listed, Expr.listed]
    exact congrArg (· ++ []) (congrArg String.toList h)
  obtain ⟨content, -⟩ := Expr.listed_cancel (fun e _ => e.told) writable.content writable'.content
    (notFirst_nil _) (notFirst_nil _) same
  rw [unplaced, unplaced, content]

theorem lineFeed_notMem_text (writable : r.Writable) : '\n' ∉ r.text.toList := by
  intro mem
  obtain comma | blank | ⟨e, he, text⟩ := Expr.mem_listed mem
  · cases comma
  · cases blank
  · exact e.lineFeed_notMem_text (writable.content e he) text

end Row

def indent (l : String) : Nat := (l.toList.takeWhile (· == ' ')).length

/-- Nothing, or a line without blanks before it, is first in the list. -/
def Unindented (ls : List String) : Prop := NotFirst (indent · != 0) ls

theorem Unindented.notFirst {ls : List String} (h : Unindented ls) {n : Nat} (deeper : 0 ≠ n) :
    NotFirst (indent · == n) ls :=
  h.mono fun l same => by rw [bne_eq_false_iff_eq.1 same, beq_eq_false_iff_ne.2 deeper]

theorem notFirst_of_indent {l : String} {ls : List String} {m n : Nat} (h : (indent l == m) = true)
    (other : m ≠ n) : NotFirst (indent · == n) (l :: ls) := by
  rw [notFirst_cons, beq_iff_eq.1 h, beq_eq_false_iff_ne]
  exact other

def Row.blockLine (r : Row) : String := s!"    Row: {r.text}"

section Lines
variable {ls ls' : List String}

theorem Row.unplaced_of_lines {rows rows' : List Row} (writable : ∀ r ∈ rows, r.Writable)
    (writable' : ∀ r ∈ rows', r.Writable) (hl : NotFirst (indent · == 4) ls)
    (hl' : NotFirst (indent · == 4) ls')
    (h : rows.map Row.blockLine ++ ls = rows'.map Row.blockLine ++ ls') :
    rows.map Row.unplaced = rows'.map Row.unplaced ∧ ls = ls' := by
  rw [List.map_eq_flatMap, List.map_eq_flatMap] at h
  refine flatMap_key_cancel (fun _ => True) (fun r => ⟨_, _, rfl, ?_⟩) (fun _ _ _ => trivial) ?_
    trivial trivial hl hl' h
  · simp [indent, blockLine, toString_string]
  · intro r hr r' hr' ms ms' _ _ same
    obtain ⟨line, rest⟩ := List.cons.inj same
    have text : r.text = r'.text := by
      simpa [blockLine, toString_string, ← String.toList_inj] using line
    exact ⟨r.unplaced_eq_of_text (writable r hr) (writable' r' hr') text, rest⟩

namespace Item

theorem row_ne_block {r : Row} {b : Block} : (row r).lines ++ ls ≠ (block b).lines ++ ls' := by
  intro same
  have line := (List.cons.inj same).1
  simp [toString_string, ← String.toList_inj] at line

theorem unplaced_of_lines {i i' : Item} (writable : i.Writable) (writable' : i'.Writable)
    (hl : NotFirst (indent · == 4) ls) (hl' : NotFirst (indent · == 4) ls')
    (h : i.lines ++ ls = i'.lines ++ ls') : i.unplaced = i'.unplaced ∧ ls = ls' := by
  cases i with
  | row r =>
    cases i' with
    | block b => exact absurd h row_ne_block
    | row r' =>
      obtain ⟨line, rest⟩ := List.cons.inj h
      have text : r.text = r'.text := by
        simpa [toString_string, ← String.toList_inj] using line
      exact ⟨congrArg row (r.unplaced_eq_of_text writable writable' text), rest⟩
  | block b =>
    cases i' with
    | row r => exact absurd h.symm row_ne_block
    | block b' =>
      obtain ⟨line, inside⟩ := List.cons.inj h
      obtain ⟨rows, rest⟩ := Row.unplaced_of_lines writable writable' hl hl' inside
      have counts : digits b.count ++ " times:".toList = digits b'.count ++ " times:".toList := by
        simpa [toString_string, digits, ← String.toList_inj] using line
      have blank : NotFirst Char.isDigit " times:".toList := by simp [NotFirst]
      obtain ⟨count, -⟩ := digits_cancel blank blank counts
      exact ⟨congrArg block (by rw [Block.unplaced, Block.unplaced, rows, count]), rest⟩

theorem lines_start (i : Item) : ∃ l more, i.lines = l :: more ∧ (indent l == 2) = true := by
  cases i with
  | row r => exact ⟨_, _, rfl, by simp [indent, toString_string]⟩
  | block b => exact ⟨_, _, rfl, by simp [indent, toString_string]⟩

end Item

namespace Section

theorem unplaced_of_lines {s s' : Section} (writable : s.Writable) (writable' : s'.Writable)
    (hl : Unindented ls) (hl' : Unindented ls') (h : s.lines ++ ls = s'.lines ++ ls') :
    s.unplaced = s'.unplaced ∧ ls = ls' := by
  obtain ⟨line, inside⟩ := List.cons.inj h
  have name : s.name = s'.name := by
    simpa [toString_string, ← String.toList_inj] using line
  obtain ⟨content, rest⟩ := flatMap_key_cancel (NotFirst (indent · == 4)) Item.lines_start
    (fun _ _ begins => notFirst_of_indent begins (by decide))
    (fun i hi i' hi' _ _ =>
      Item.unplaced_of_lines (writable.content i hi) (writable'.content i' hi'))
    (hl.notFirst (by decide)) (hl'.notFirst (by decide)) (hl.notFirst (by decide))
    (hl'.notFirst (by decide)) inside
  exact ⟨by rw [unplaced, unplaced, name, content], rest⟩

end Section
end Lines

theorem Item.lineFeed_notMem_lines {i : Item} (writable : i.Writable) :
    ∀ l ∈ i.lines, '\n' ∉ l.toList := by
  cases i with
  | row r =>
    have text := Row.lineFeed_notMem_text writable
    simpa [lines, toString_string] using text
  | block b =>
    have rows : ∀ r ∈ b.rows, '\n' ∉ r.text.toList := fun r hr =>
      Row.lineFeed_notMem_text (writable r hr)
    have count : '\n' ∉ digits b.count := fun mem => absurd (isDigit_of_mem_digits mem) (by decide)
    simp only [lines, List.forall_mem_cons, List.forall_mem_map]
    simpa [toString_string, digits] using ⟨count, rows⟩

theorem Section.Writable.lineFeed_notMem_lines {s : Section} (writable : s.Writable) :
    ∀ l ∈ s.lines, '\n' ∉ l.toList := by
  have name := lineFeed_notMem_word writable.name.1
  have items : ∀ l ∈ s.content.flatMap Item.lines, '\n' ∉ l.toList :=
    List.forall_mem_flatMap.2 fun i hi => Item.lineFeed_notMem_lines (writable.content i hi)
  refine List.forall_mem_cons.2 ⟨?_, items⟩
  simpa [toString_string] using name

theorem Row.text_unplaced (r : Row) : r.unplaced.text = r.text := rfl

theorem Item.lines_unplaced (i : Item) : i.unplaced.lines = i.lines := by
  cases i with
  | row r => rfl
  | block b => simp [unplaced, lines, Block.unplaced, Row.text_unplaced]

theorem Section.lines_unplaced (s : Section) : s.unplaced.lines = s.lines := by
  simp [unplaced, lines, List.flatMap_map, Item.lines_unplaced]

/-- The lines of a writable pattern tell what it is. -/
theorem lines_eq_iff {pattern pattern' : List Section} (writable : ∀ s ∈ pattern, s.Writable)
    (writable' : ∀ s ∈ pattern', s.Writable) :
    pattern.flatMap Section.lines = pattern'.flatMap Section.lines ↔
      pattern.map Section.unplaced = pattern'.map Section.unplaced := by
  constructor
  · intro same
    have start : ∀ s : Section, ∃ l more, s.lines = l :: more ∧ (indent l == 0) = true := fun s =>
      ⟨_, _, rfl, by simp [indent, toString_string]⟩
    have ended : pattern.flatMap Section.lines ++ [] = pattern'.flatMap Section.lines ++ [] := by
      rw [same]
    refine (flatMap_key_cancel Unindented start ?_ ?_ (notFirst_nil _) (notFirst_nil _)
      (notFirst_nil _) (notFirst_nil _) ended).1
    · intro l ls zero
      exact notFirst_cons.2 (by simpa [bne] using zero)
    · intro s hs s' hs' ls ls'
      exact Section.unplaced_of_lines (writable s hs) (writable' s' hs')
  · intro same
    have lines := congrArg (List.flatMap Section.lines) same
    simpa [List.flatMap_map, Section.lines_unplaced] using lines

/-- Listings of patterns that were read are the same exactly if the patterns are, but for the places
of their rows. -/
theorem listing_tells_pattern {source source' : String} {pattern pattern' : List Section}
    (policy : Policy) (options : ChartOptions) (read : parse source = .ok pattern)
    (read' : parse source' = .ok pattern') :
    report ⟨.ast, .simple⟩ policy options source =
      .ok (String.join (pattern.map Section.text)) ∧
    (String.join (pattern.map Section.text) = String.join (pattern'.map Section.text) ↔
      pattern.map Section.unplaced = pattern'.map Section.unplaced) := by
  have writable := writable_of_parse read
  have writable' := writable_of_parse read'
  have plain : ∀ {pattern : List Section}, (∀ s ∈ pattern, s.Writable) →
      ∀ l ∈ pattern.flatMap Section.lines, '\n' ∉ l.toList := fun writable =>
    List.forall_mem_flatMap.2 fun s hs => (writable s hs).lineFeed_notMem_lines
  have listing : ∀ pattern : List Section,
      String.join (pattern.map Section.text) = unlines (pattern.flatMap Section.lines) :=
    join_map_unlines Section.lines
  refine ⟨by simp only [report, read], ?_⟩
  rw [listing, listing, ← lines_eq_iff writable writable']
  exact ⟨unlines_inj (plain writable) (plain writable'), congrArg unlines⟩

/-- A repeat of a group is told from a group of a repeat. -/
theorem listings_of_repeats :
    report ⟨.ast, .simple⟩ .strict {} "section s \x7b (k)*2; \x7d" ≠
      report ⟨.ast, .simple⟩ .strict {} "section s \x7b (k*2); \x7d" := by
  have repeated : parse "section s \x7b (k)*2; \x7d" =
      .ok [⟨"s", [.row ⟨[.times (.group [.stitch .knit]) 2], ⟨1, 13⟩⟩]⟩] := by
    have lexemes : LexemeStream.ofSource "section s \x7b (k)*2; \x7d" =
        ⟨[⟨⟨1, 1⟩, .sectionWord, "section"⟩, ⟨⟨1, 9⟩, .identifier, "s"⟩,
          ⟨⟨1, 11⟩, .blockOpen, "\x7b"⟩, ⟨⟨1, 13⟩, .groupOpen, "("⟩, ⟨⟨1, 14⟩, .knit, "k"⟩,
          ⟨⟨1, 15⟩, .groupClose, ")"⟩, ⟨⟨1, 16⟩, .repeatSuffix, "*"⟩, ⟨⟨1, 17⟩, .integer, "2"⟩,
          ⟨⟨1, 18⟩, .rowEnd, ";"⟩, ⟨⟨2, 2⟩, .blockClose, "\x7d"⟩], ⟨2, 3⟩⟩ := by decide +kernel
    rw [parse, lexemes]
    rfl
  have grouped : parse "section s \x7b (k*2); \x7d" =
      .ok [⟨"s", [.row ⟨[.group [.times (.stitch .knit) 2]], ⟨1, 13⟩⟩]⟩] := by
    have lexemes : LexemeStream.ofSource "section s \x7b (k*2); \x7d" =
        ⟨[⟨⟨1, 1⟩, .sectionWord, "section"⟩, ⟨⟨1, 9⟩, .identifier, "s"⟩,
          ⟨⟨1, 11⟩, .blockOpen, "\x7b"⟩, ⟨⟨1, 13⟩, .groupOpen, "("⟩, ⟨⟨1, 14⟩, .knit, "k"⟩,
          ⟨⟨1, 15⟩, .repeatSuffix, "*"⟩, ⟨⟨1, 16⟩, .integer, "2"⟩, ⟨⟨1, 17⟩, .groupClose, ")"⟩,
          ⟨⟨1, 18⟩, .rowEnd, ";"⟩, ⟨⟨2, 2⟩, .blockClose, "\x7d"⟩], ⟨2, 3⟩⟩ := by decide +kernel
    rw [parse, lexemes]
    rfl
  obtain ⟨shown, same⟩ := listing_tells_pattern .strict {} repeated grouped
  obtain ⟨shown', -⟩ := listing_tells_pattern .strict {} grouped repeated
  rw [shown, shown']
  intro listings
  cases same.1 (Except.ok.inj listings)

end Knitting
