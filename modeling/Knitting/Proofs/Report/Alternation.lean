import Knitting.Proofs.Report.Chart
import Knitting.Proofs.Text.Cancel
import Knitting.Proofs.Text.Lines

/-! # Both sides of a chart

Alternation changes a chart in one way: on the first line from the bottom, and on every other line
above it, the symbols are reversed. The cells of a row are reversed as wholes, and every cell reads
the same from either end.
-/
namespace Knitting.Chart

variable {r : StitchRow}

def heading (l : String) : List Char := l.toList.takeWhile isTagChar

def drawing (l : String) : List Char := l.toList.dropWhile isTagChar

def turned (l : String) : String := String.ofList (heading l ++ (drawing l).reverse)

/-- The lines, the lowest of them first, with every other one turned, beginning with the lowest. -/
def everyOtherTurned (ls : List String) : List String :=
  ls.mapIdx fun i l => if i.bodd then l else turned l

/-- The chart with the symbols reversed on the first line from the bottom, on the third and so
on. -/
def mirrored (chart : String) : String :=
  unlines (everyOtherTurned (linesOf chart).reverse).reverse

section
variable {tagged drawn : List Char} (tag : ∀ c ∈ tagged, isTagChar c = true)
  (symbols : ∀ c ∈ drawn, isTagChar c = false)
include tag symbols

theorem heading_append : heading (String.ofList (tagged ++ drawn)) = tagged := by
  have stop : NotFirst isTagChar drawn := fun c first => symbols c (List.mem_of_mem_head? first)
  rw [heading, String.toList_ofList, takeWhile_append_of_notFirst tag stop]

theorem drawing_append : drawing (String.ofList (tagged ++ drawn)) = drawn := by
  have start : drawn.dropWhile isTagChar = drawn :=
    List.dropWhile_eq_self_iff.2 fun nonempty => by simp [symbols _ (List.getElem_mem nonempty)]
  rw [drawing, String.toList_ofList, List.dropWhile_append_of_pos tag, start]

theorem turned_append :
    turned (String.ofList (tagged ++ drawn)) = String.ofList (tagged ++ drawn.reverse) := by
  rw [turned, heading_append tag symbols, drawing_append tag symbols]

end

/-- A cell reads the same from either end. -/
theorem reverse_symbol {s : Stitch} {symbol : List Char} (h : s.symbol? = some symbol) :
    symbol.reverse = symbol := by
  cases s with
  | cable crossing front back => cases crossing <;> cases h <;> exact List.reverse_replicate
  | castOn n | bindOff n => cases h
  | _ => cases h; rfl

theorem reverse_cells (r : StitchRow) : (cells r).reverse.flatten = (cells r).flatten.reverse := by
  have same : (cells r).map List.reverse = (cells r).map id := by
    refine List.map_congr_left fun symbol h => ?_
    obtain ⟨s, -, symbol⟩ := List.mem_filterMap.1 h
    exact reverse_symbol symbol
  rw [List.reverse_flatten, same, List.map_id]

theorem mem_alphabet_of_mem_cells (r : StitchRow) : ∀ c ∈ (cells r).flatten, c ∈ alphabet := by
  intro c hc
  obtain ⟨symbol, h, hc⟩ := List.mem_flatten.1 hc
  obtain ⟨s, -, symbol⟩ := List.mem_filterMap.1 h
  exact mem_alphabet_of_symbol? symbol c hc

def drawn (options : ChartOptions) (reversed : Bool) (r : StitchRow) : List Char :=
  if options.alternateRows && reversed then (cells r).flatten.reverse else (cells r).flatten

theorem line_eq_ofList (options : ChartOptions) (reversed : Bool) (r : StitchRow) :
    line options reversed r =
      String.ofList ((tag options r).toList ++ drawn options reversed r) := by
  rw [line_eq, symbols, drawn, String.ofList_append, String.ofList_toList, ← reverse_cells]
  split <;> rfl

theorem isTagChar_of_mem_drawn (options : ChartOptions) (reversed : Bool) (r : StitchRow) :
    ∀ c ∈ drawn options reversed r, isTagChar c = false := by
  have apart : ∀ c ∈ alphabet, isTagChar c = false := by simp [alphabet, isTagChar]
  intro c hc
  refine apart c (mem_alphabet_of_mem_cells r c ?_)
  unfold drawn at hc
  split at hc
  · exact List.mem_reverse.1 hc
  · exact hc

theorem heading_line (options : ChartOptions) (reversed : Bool) (r : StitchRow) :
    heading (line options reversed r) = (tag options r).toList := by
  rw [line_eq_ofList, heading_append (isTagChar_of_mem_tag options r)
    (isTagChar_of_mem_drawn options reversed r)]

variable {alternate numbers : Bool} {rows : List StitchRow}

/-- A line that is reversed by alternation is that of the other chart turned. -/
theorem turned_line (r : StitchRow) :
    turned (line ⟨alternate, numbers⟩ true r) = line ⟨!alternate, numbers⟩ true r := by
  rw [line_eq_ofList, line_eq_ofList, turned_append (isTagChar_of_mem_tag _ r)
    (isTagChar_of_mem_drawn _ true r)]
  cases alternate <;> simp [drawn, tag]

theorem line_not_reversed (r : StitchRow) :
    line ⟨alternate, numbers⟩ false r = line ⟨!alternate, numbers⟩ false r := by
  simp [line]

theorem everyOtherTurned_lines :
    everyOtherTurned (lines ⟨alternate, numbers⟩ true rows) =
      lines ⟨!alternate, numbers⟩ true rows := by
  rw [lines_eq_mapIdx, lines_eq_mapIdx, everyOtherTurned, List.mapIdx_mapIdx]
  congr 1
  funext i r
  cases odd : i.bodd with
  | true => simpa [odd] using line_not_reversed r
  | false => simpa [odd] using turned_line r

/-- If the only line of a chart is empty, it is so from either side. -/
theorem lines_eq_singleton_empty (h : lines ⟨alternate, numbers⟩ true rows = [""]) :
    lines ⟨!alternate, numbers⟩ true rows = [""] := by
  rw [← everyOtherTurned_lines, h]
  rfl

theorem lineFeed_notMem_lines (options : ChartOptions) (rows : List StitchRow) :
    ∀ l ∈ (lines options true rows).reverse, '\n' ∉ l.toList := by
  intro l hl
  obtain ⟨r, -, reversed, rfl⟩ := exists_of_mem_lines (List.mem_reverse.1 hl)
  exact lineFeed_notMem_line reversed

theorem mirrored_render (alternate numbers : Bool) (rows : List StitchRow) :
    mirrored (render ⟨alternate, numbers⟩ rows) = render ⟨!alternate, numbers⟩ rows := by
  by_cases alone : lines ⟨alternate, numbers⟩ true rows = [""]
  · -- Without a tag, a line without symbols does not show if it is the only one.
    have alone' := lines_eq_singleton_empty alone
    rw [render, render, alone, alone']
    rfl
  · have alone' : lines ⟨!alternate, numbers⟩ true rows ≠ [""] := by
      intro h
      have back := lines_eq_singleton_empty h
      rw [Bool.not_not] at back
      exact alone back
    rw [render_eq_unlines alone, render_eq_unlines alone', mirrored,
      linesOf_unlines (lineFeed_notMem_lines _ rows), List.reverse_reverse,
      everyOtherTurned_lines]

/-- Alternation mirrors a chart and changes nothing else: the symbols on the first, the third and
every other line from the bottom are reversed, and reversing them again gives the chart without
alternation back. What stands before the symbols is the tag of the row. -/
theorem alternation_mirrors (numbers : Bool) (rows : List StitchRow) :
    render ⟨true, numbers⟩ rows = mirrored (render ⟨false, numbers⟩ rows) ∧
      mirrored (render ⟨true, numbers⟩ rows) = render ⟨false, numbers⟩ rows ∧
      ∀ alternate reversed r, heading (line ⟨alternate, numbers⟩ reversed r) =
        (tag ⟨alternate, numbers⟩ r).toList :=
  ⟨(mirrored_render false numbers rows).symm, mirrored_render true numbers rows,
    fun alternate reversed r => heading_line ⟨alternate, numbers⟩ reversed r⟩

example : mirrored "  3 |->>\n  2 \\o\n  1 |-\n" = "  3 >>-|\n  2 \\o\n  1 -|\n" := by
  decide

/-- The lower of two rows that are drawn is mirrored, its heading is not. -/
example :
    let rows : List StitchRow := [⟨1, [.castOn 3]⟩, ⟨2, [.knit, .purl, .yarnOver, .knit]⟩,
      ⟨3, [.knit, .knitTogether 2, .purl]⟩]
    render ⟨false, true⟩ rows = "  3 |/-\n  2 |-o|\n" ∧
      render ⟨true, true⟩ rows = "  3 |/-\n  2 |o-|\n" := by
  decide +kernel

end Knitting.Chart
