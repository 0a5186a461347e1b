import Knitting.Pattern.Listing
import Knitting.Report.Chart
import Mathlib.Algebra.GroupWithZero.Nat
import Mathlib.Data.List.Forall2
import Mathlib.Data.Nat.Bits

/-! # What a chart shows

Every row that has a cell has a line. A cable that crosses no stitches has a cell, and nothing
stands in it.
-/
namespace Knitting

namespace Stitch

def castOnCount : Stitch → Nat
  | .castOn n => n.toNat
  | _ => 0

def isCable : Stitch → Bool
  | .cable .. => true
  | _ => false

/-- There is nothing to draw: the stitch is cast on or bound off, or crosses no stitches. -/
def isBlank : Stitch → Bool
  | .castOn _ | .bindOff _ => true
  | .cable _ front back => front == 0 && back == 0
  | _ => false

/-- The characters the stitch is drawn with. -/
def width (s : Stitch) : Nat := (s.symbol?.getD []).length

/-- The weight of a stitch is what is drawn of it and what it casts on. -/
theorem width_add_castOnCount (s : Stitch) : s.width + s.castOnCount = s.weight := by
  cases s with
  | cable crossing front back => cases crossing <;> simp [width, symbol?, castOnCount, weight]
  | _ => simp [width, symbol?, castOnCount, weight]

theorem symbol?_eq_none_iff {s : Stitch} : s.symbol? = none ↔ s.isBlank ∧ ¬ s.isCable := by
  cases s with
  | cable crossing front back => cases crossing <;> simp [symbol?, isCable]
  | _ => simp [symbol?, isBlank, isCable]

end Stitch

namespace StitchRow

def castOnCount (r : StitchRow) : Nat := (r.stitches.map Stitch.castOnCount).sum

def isBlank (r : StitchRow) : Bool := r.stitches.all Stitch.isBlank

end StitchRow

namespace Chart

variable {options : ChartOptions} {rows : List StitchRow} {r : StitchRow}

def width (r : StitchRow) : Nat := (cells r).flatten.length

def tag (options : ChartOptions) (r : StitchRow) : String :=
  if options.rowNumbers then numberTag r.number else ""

def symbols (options : ChartOptions) (reversed : Bool) (r : StitchRow) : String :=
  String.ofList
    (if options.alternateRows && reversed then (cells r).reverse else cells r).flatten

theorem line_eq (options : ChartOptions) (reversed : Bool) (r : StitchRow) :
    line options reversed r = tag options r ++ symbols options reversed r := by
  unfold line tag
  cases options.rowNumbers with
  | true => rfl
  | false => exact String.empty_append.symm

theorem cells_eq_nil_iff : cells r = [] ↔ ∀ s ∈ r.stitches, s.isBlank ∧ ¬ s.isCable := by
  simp only [cells, List.filterMap_eq_nil_iff, Stitch.symbol?_eq_none_iff]

theorem width_eq_sum (r : StitchRow) : width r = (r.stitches.map Stitch.width).sum := by
  obtain ⟨number, stitches⟩ := r
  simp only [width, cells]
  induction stitches with
  | nil => rfl
  | cons s stitches ih =>
    rw [List.map_cons, List.sum_cons, ← ih, Stitch.width, List.filterMap_cons]
    cases s.symbol? with
    | none => exact (Nat.zero_add _).symm
    | some symbol => exact List.length_append

/-- Both tables over the stitches agree on a whole row. -/
theorem width_add_castOnCount (r : StitchRow) : width r + r.castOnCount = r.weight := by
  obtain ⟨number, stitches⟩ := r
  rw [width_eq_sum, StitchRow.castOnCount, StitchRow.weight]
  induction stitches with
  | nil => rfl
  | cons s stitches ih =>
    have first := s.width_add_castOnCount
    simp only [List.map_cons, List.sum_cons, List.foldr_cons] at ih ⊢
    omega

theorem length_symbols (options : ChartOptions) (reversed : Bool) (r : StitchRow) :
    (symbols options reversed r).length = width r := by
  rw [symbols, String.length_ofList, width]
  split
  · simp only [List.length_flatten, List.map_reverse, List.sum_reverse]
  · rfl

/-- The rows that have cells are drawn one after the other, every other one of them reversed. -/
theorem lines_eq_mapIdx (options : ChartOptions) (reversed : Bool) (rows : List StitchRow) :
    lines options reversed rows = (rows.filter fun r => !(cells r).isEmpty).mapIdx
      fun i r => line options (reversed ^^ i.bodd) r := by
  induction rows generalizing reversed with
  | nil => rfl
  | cons r rows ih =>
    rw [lines]
    split
    next empty => rw [ih, List.filter_cons_of_neg (by simpa using empty)]
    next cell =>
      rw [ih, List.filter_cons_of_pos (by simpa using cell), List.mapIdx_cons, Nat.bodd_zero,
        Bool.xor_false]
      simp only [Nat.bodd_succ, Bool.not_xor, Bool.xor_not]

theorem lines_filter {keep : StitchRow → Bool} (reversed : Bool)
    (gone : ∀ r ∈ rows, keep r = false → cells r = []) :
    lines options reversed (rows.filter keep) = lines options reversed rows := by
  have same : (rows.filter keep).filter (fun r => !(cells r).isEmpty) =
      rows.filter fun r => !(cells r).isEmpty := by
    rw [List.filter_filter]
    refine List.filter_congr fun r hr => ?_
    cases kept : keep r with
    | true => rw [Bool.and_true]
    | false => simp [gone r hr kept]
  rw [lines_eq_mapIdx, same, ← lines_eq_mapIdx]

/-- Rows without anything to draw may be left out, if there is no cable in them. -/
theorem blank_rows_invisible (options : ChartOptions) (rows : List StitchRow)
    (keep : StitchRow → Bool)
    (gone : ∀ r ∈ rows, keep r = false → r.isBlank ∧ ∀ s ∈ r.stitches, ¬ s.isCable) :
    render options (rows.filter keep) = render options rows := by
  have empty : ∀ r ∈ rows, keep r = false → cells r = [] := by
    intro r hr dropped
    obtain ⟨blank, plain⟩ := gone r hr dropped
    exact cells_eq_nil_iff.2 fun s hs => ⟨List.all_eq_true.1 blank s hs, plain s hs⟩
  rw [render, lines_filter true empty, render]

theorem blank_rows_invisible_edges :
    let rows : List StitchRow :=
      [⟨1, [.castOn 3]⟩, ⟨2, [.knit, .knit, .purl]⟩, ⟨3, [.bindOff 3]⟩]
    render {} (rows.filter (!·.isBlank)) = render {} rows :=
  blank_rows_invisible {} _ _ (by decide)

/-- A cable that crosses no stitches draws a line all the same, and the row above it is turned. -/
theorem empty_cable_shifts_rows :
    ¬ ∀ options rows, render options (rows.filter (!·.isBlank)) = render options rows := by
  intro invisible
  have same := invisible {}
    [⟨1, [.cable .knitForward 0 0]⟩, ⟨2, [.castOn 3]⟩, ⟨3, [.knit, .purl, .purl]⟩]
  exact absurd same (by decide)

/-- A chart without lines, or with one on which nothing stands, is empty. -/
theorem intercalate_eq_empty_iff {ls : List String} :
    "\n".intercalate ls = "" ↔ ls = [] ∨ ls = [""] := by
  cases ls with
  | nil => simp
  | cons l ls => cases ls <;> simp

theorem intercalate_append_lineFeed {ls : List String} (h : ls ≠ []) :
    "\n".intercalate ls ++ "\n" = unlines ls := by
  induction ls with
  | nil => exact absurd rfl h
  | cons l ls ih =>
    cases ls with
    | nil => simp [unlines]
    | cons m ls =>
      have rest := ih (List.cons_ne_nil m ls)
      rw [String.intercalate_cons_cons, String.append_assoc, rest]
      simp [unlines]

theorem render_eq_unlines (h : lines options true rows ≠ [""]) :
    render options rows = unlines (lines options true rows).reverse := by
  simp only [render, String.isEmpty_iff]
  split
  next empty =>
    rw [empty]
    obtain none | alone := intercalate_eq_empty_iff.1 empty
    · rw [none]
      rfl
    · exact absurd (List.reverse_eq_iff.1 alone) h
  next some =>
    refine intercalate_append_lineFeed fun none => some ?_
    rw [none]
    rfl

/-- The characters that rows are drawn with. -/
def alphabet : List Char := ['|', '-', '\\', '/', '⁄', 'o', '>', '<', '\x7d', '\x7b']

theorem mem_alphabet_of_symbol? {s : Stitch} {symbol : List Char} (h : s.symbol? = some symbol) :
    ∀ c ∈ symbol, c ∈ alphabet := by
  cases s with
  | cable crossing front back =>
    cases crossing <;> cases h <;> intro c hc <;> obtain rfl := List.eq_of_mem_replicate hc <;>
      decide
  | castOn n | bindOff n => cases h
  | _ => cases h; simp [alphabet]

theorem lineFeed_notMem_symbol {s : Stitch} {symbol : List Char} (h : s.symbol? = some symbol) :
    '\n' ∉ symbol :=
  fun lineFeed => absurd (mem_alphabet_of_symbol? h _ lineFeed) (by decide)

theorem lineFeed_notMem_symbols (reversed : Bool) :
    '\n' ∉ (symbols options reversed r).toList := by
  have drawn : ∀ symbol ∈ cells r, '\n' ∉ symbol := by
    intro symbol h
    obtain ⟨s, -, symbol⟩ := List.mem_filterMap.1 h
    exact lineFeed_notMem_symbol symbol
  rw [symbols, String.toList_ofList, List.mem_flatten]
  rintro ⟨symbol, h, lineFeed⟩
  refine drawn symbol ?_ lineFeed
  split at h
  · exact List.mem_reverse.1 h
  · exact h

/-- Characters that stand before the symbols: blanks and the digits of a row number. -/
def isTagChar (c : Char) : Bool := c == ' ' || c.isDigit

theorem isTagChar_of_mem_tag (options : ChartOptions) (r : StitchRow) :
    ∀ c ∈ (tag options r).toList, isTagChar c = true := by
  have digits : ∀ c ∈ Nat.toDigits 10 r.number.toNat, c.isDigit = true := fun c hc =>
    Nat.isDigit_of_mem_toDigits (by decide) (by decide) hc
  unfold tag
  split
  · intro c hc
    simp only [numberTag, String.toList_append, String.toList_ofList, List.mem_append] at hc
    rcases hc with (blank | digit) | blank
    · rw [List.eq_of_mem_replicate blank]
      rfl
    · simp [isTagChar, digits c (by simpa using digit)]
    · rw [List.mem_singleton.1 blank]
      rfl
  · simp

theorem lineFeed_notMem_tag : '\n' ∉ (tag options r).toList :=
  fun lineFeed => absurd (isTagChar_of_mem_tag options r _ lineFeed) (by decide)

theorem lineFeed_notMem_line (reversed : Bool) :
    '\n' ∉ (line options reversed r).toList := by
  rw [line_eq, String.toList_append, List.mem_append, not_or]
  exact ⟨lineFeed_notMem_tag, lineFeed_notMem_symbols reversed⟩

theorem line_ne_empty (reversed : Bool) (drawn : 0 < width r) : line options reversed r ≠ "" := by
  rw [line_eq]
  intro empty
  have none := (String.append_eq_empty_iff.1 empty).2
  rw [← length_symbols options reversed, none] at drawn
  exact absurd drawn (by decide)

theorem exists_of_mem_lines {l : String} {reversed : Bool} (h : l ∈ lines options reversed rows) :
    ∃ r ∈ rows, ∃ turned, l = line options turned r := by
  rw [lines_eq_mapIdx, List.mem_mapIdx] at h
  obtain ⟨i, hi, rfl⟩ := h
  exact ⟨_, List.mem_of_mem_filter (List.getElem_mem hi), _, rfl⟩

/-- If every row has cells, every row has a line. -/
theorem forall₂_lines (reversed : Bool) (h : ∀ r ∈ rows, cells r ≠ []) :
    List.Forall₂ (fun l r => ∃ turned, l = line options turned r)
      (lines options reversed rows) rows := by
  induction rows generalizing reversed with
  | nil => exact .nil
  | cons r rows ih =>
    rw [List.forall_mem_cons] at h
    rw [lines, if_neg (by simpa using h.1)]
    exact .cons ⟨reversed, rfl⟩ (ih (!reversed) h.2)

/-- If there is something to draw in every row, the chart has one line for every row, the last row
on top. Behind its tag a line is as wide as the row is heavy, less the stitches cast on. -/
theorem lines_draw_weight (options : ChartOptions) (rows : List StitchRow)
    (drawn : ∀ r ∈ rows, 0 < width r) :
    ∃ shown : List String, render options rows = unlines shown ∧
      (∀ l ∈ shown, '\n' ∉ l.toList) ∧
      List.Forall₂ (fun l r => ∃ symbols, l = tag options r ++ symbols ∧
        symbols.length + r.castOnCount = r.weight) shown rows.reverse := by
  have celled : ∀ r ∈ rows, cells r ≠ [] := by
    intro r hr none
    have wide := drawn r hr
    rw [width, none] at wide
    exact absurd wide (by decide)
  have alone : lines options true rows ≠ [""] := by
    intro alone
    obtain ⟨r, hr, reversed, empty⟩ := exists_of_mem_lines (alone ▸ List.mem_singleton_self "")
    exact line_ne_empty reversed (drawn r hr) empty.symm
  refine ⟨_, render_eq_unlines alone, ?_, ?_⟩
  · intro l hl
    obtain ⟨r, -, reversed, rfl⟩ := exists_of_mem_lines (List.mem_reverse.1 hl)
    exact lineFeed_notMem_line reversed
  · refine (List.forall₂_reverse_iff.2 (forall₂_lines true celled)).imp ?_
    rintro l r ⟨reversed, rfl⟩
    refine ⟨symbols options reversed r, line_eq options reversed r, ?_⟩
    rw [length_symbols, width_add_castOnCount]

theorem lines_draw_weight_cable :
    let rows : List StitchRow :=
      [⟨1, [.castOn 4, .yarnOver]⟩, ⟨2, [.purl, .cable .knitForward 2 2]⟩]
    ∃ shown : List String, render ⟨true, true⟩ rows = unlines shown ∧
      (∀ l ∈ shown, '\n' ∉ l.toList) ∧
      List.Forall₂ (fun l r => ∃ symbols, l = tag ⟨true, true⟩ r ++ symbols ∧
        symbols.length + r.castOnCount = r.weight) shown rows.reverse :=
  lines_draw_weight ⟨true, true⟩ _ (by decide)

end Chart
end Knitting
