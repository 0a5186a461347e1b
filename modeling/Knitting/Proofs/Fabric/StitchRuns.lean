import Knitting.Proofs.Fabric.Filled
import Knitting.Proofs.Pattern.RoundTrip

/-! # Runs of stitches

A letter with a number behind it stands for that many knit or purl stitches. The digits are the
literal of a lexeme, the lexeme means a repeat of one stitch, and the repeat makes a pass for each
stitch. From one stitch on the number comes through all of this. A run of no stitches does not: it
is the repeat that takes the number of its passes from the row below.
-/
namespace Knitting
open Text

variable {e : Expr} {s : Stitch} {letter : Char} {ds : List Char}

/-- A section of one row, which holds the word alone. -/
def rowSource (word : List Char) : String :=
  String.ofList ([' '].intercalate (braced "section" "s".toList [word, [';']]))

theorem isName_rowLabel : IsName "s" :=
  ⟨pieces_of_letters (c := 's') rfl (by decide) (by decide), by decide +kernel⟩

theorem spells_rowSource {word : List Char} (h : pieces word = [⟨.word, word⟩]) :
    Spells (LexemeStream.ofSource (rowSource word)).lexemes
      (braced "section" "s".toList [word, [';']]) := by
  have label := plain_word isName_rowLabel.1
  have rowEnd := plain_mark (c := ';') (t := .rowEnd) (by decide)
  have inside : ∀ part ∈ [word, [';']], Plain part := by
    simpa using ⟨plain_word h, rowEnd⟩
  rw [Spells, LexemeStream.bare_ofSource, rowSource, String.toList_ofList]
  exact bareLexemes_intercalate (plain_braced (t := .sectionWord) (by decide) label inside)

/-- The word of a unit is read as that unit. -/
theorem parse_rowSource {word : List Char} {u : Expr} (h : pieces word = [⟨.word, word⟩])
    (means : ∀ l : Lexeme, l.bare = classify word → l.unit? = some u) :
    ∃ p, parse (rowSource word) = .ok [⟨"s", [.row ⟨[u], p⟩]⟩] := by
  obtain ⟨keyword, opening, closing, _, inside, named, content, spelled⟩ :=
    spells_braced (t := .sectionWord) (by decide) (spells_rowSource h)
  obtain ⟨label, rfl, labelled⟩ := spells_word isName_rowLabel.1 named
  obtain ⟨_, _, rfl, worked, ended⟩ := spells_cons_iff.1 content
  obtain ⟨l, rfl, bare⟩ := spells_word h worked
  obtain ⟨rowEnd, rfl⟩ := spells_mark (t := .rowEnd) (by decide) ended
  let name : Leaf Lexeme.name? := ⟨label, "s", Lexeme.name?_of_isName isName_rowLabel labelled⟩
  let row : RowTree := ⟨.unit (.stitch ⟨l, u, means l bare⟩) none, [], rowEnd⟩
  let tree : SectionTree := ⟨⟨keyword, name, opening, [.row row]⟩, closing⟩
  refine ⟨l.position, parse_eq_ok_iff.2 ⟨⟨[tree], ?_⟩, rfl⟩⟩
  rw [spelled]
  rfl

/-- Wherever it stands, the word of a run is a repeat of its stitch for the reader. -/
theorem Reader.unitOf_run {n : UInt32} (known : e.runLetter? = some letter)
    (digits : IsDigitRun ds) (value : decimalValue ds = n.toNat) (p : Position) :
    unitOf (.ofPiece p ⟨.word, letter :: ds⟩) = .ok (.times e n) := by
  have formed : Piece.WellFormed ⟨.word, letter :: ds⟩ :=
    ⟨nofun, fun _ => pieces_run known digits⟩
  rw [unitOf_eq_ok_iff (Lexeme.wellSpelled_ofPiece formed p)]
  exact Lexeme.unit?_of_run known digits value rfl

/-- A run is read as a repeat of its stitch, whatever its number is. -/
theorem parse_run {n : UInt32} (known : e.runLetter? = some letter) (digits : IsDigitRun ds)
    (value : decimalValue ds = n.toNat) :
    ∃ p, parse (rowSource (letter :: ds)) = .ok [⟨"s", [.row ⟨[.times e n], p⟩]⟩] :=
  parse_rowSource (pieces_run known digits) fun _ => Lexeme.unit?_of_run known digits value

theorem Action.stitches_replicate_work (k : Nat) (s : Stitch) :
    stitches (List.replicate k (.work s)) = List.replicate k s := by
  rw [← List.map_replicate, stitches_map_work]

theorem Expr.written_times_stitch (s : Stitch) (count : UInt32) :
    (times (.stitch s) count).written = List.replicate count.toNat (.work s) := by
  rw [written, written, List.flatten_replicate_singleton]

namespace Needle

variable {n m : Needle} {snag : Snag} {k : Nat}

/-- The row has room for so many stitches that work one stitch each, and the row below has what
they work. -/
structure HasRoom (n : Needle) (k : Nat) : Prop where
  room : n.count + k ≤ rowLimit
  fits : ∀ available ∈ n.available, n.worked + k ≤ available

/-- The fault names what so many stitches lack: room in the row, or stitches of the row below, all
of which have been worked by then. -/
def Lacks (n : Needle) (k : Nat) (snag : Snag) : Prop :=
  (rowLimit < n.count + k ∧ snag.fault = .rowTooLong snag.needle.place) ∨
    ∃ available, n.available = some available ∧ available < n.worked + k ∧
      snag.fault = .budgetExceeded snag.needle.place available (available + 1)

theorem Lacks.not_hasRoom (h : n.Lacks k snag) : ¬n.HasRoom k := by
  rintro ⟨room, fits⟩
  rcases h with ⟨full, -⟩ | ⟨available, below, short, -⟩
  · omega
  · exact absurd (fits available below) (by omega)

theorem hasRoom_of_actAll_replicate (course : n.OnCourse) (single : s.advance = 1)
    (done : n.actAll (List.replicate k (.work s)) = .ok m) : n.HasRoom k := by
  obtain ⟨-, column, stitches⟩ := row_of_actAll done
  have moved : Stitch.totalAdvance (Action.stitches (List.replicate k (.work s))) = k := by
    rw [← List.flatten_replicate_singleton, Action.totalAdvance_stitches_replicate]
    simp [single]
  have later := actAll_keeps (fun _ _ _ => onCourse_of_act) done course
  have same : m.available = n.available :=
    actAll_keeps (P := fun m => m.available = n.available)
      (fun _ _ _ acted h => (extends_of_act acted).available.trans h) done rfl
  constructor
  · have count := congrArg List.length stitches
    have short := later.short
    rw [Action.stitches_replicate_work, List.length_append, List.length_replicate, length_row,
      length_row] at count
    omega
  · intro available below
    have within := later.within available (same ▸ below)
    have begun := course.column
    rw [worked] at within ⊢
    omega

theorem lacks_of_actAll_replicate (course : n.OnCourse) (single : s.advance = 1)
    (stopped : n.actAll (List.replicate k (.work s)) = .error snag) : n.Lacks k snag := by
  induction k generalizing n with
  | zero => cases stopped
  | succ k ih =>
    rw [List.replicate_succ, actAll, visit] at stopped
    cases acted : n.act (.work s) with
    | error other =>
      rw [acted] at stopped
      cases stopped
      rw [Lacks, act_error_needle acted]
      rcases work_eq_error acted with ⟨full, tooLong⟩ | ⟨available, below, beyond, exceeded⟩
      · exact .inl ⟨by omega, tooLong⟩
      · have within := course.within available below
        have all : n.worked + s.advance = available + 1 := by omega
        rw [all] at exceeded
        exact .inr ⟨available, below, by omega, exceeded⟩
    | ok next =>
      rw [acted] at stopped
      obtain ⟨admits, rfl⟩ := work_eq_ok_iff.1 acted
      have begun := course.column
      rcases ih (course.append admits) stopped with
        ⟨full, tooLong⟩ | ⟨available, below, short, exceeded⟩
      · rw [append] at full
        dsimp only at full
        exact .inl ⟨by omega, tooLong⟩
      · rw [worked, append] at short
        dsimp only at short
        exact .inr ⟨available, below, by rw [worked]; omega, exceeded⟩

end Needle

namespace Fabric

/-- A run of knit or purl stitches means its length. If that is at least one and less than 2 ^ 32,
leading zeros or not, the word is read, wherever it stands, as an expression that at every point of
the work on a row adds just so many of the stitches, if the row has room for them and the row below
has what they work. Otherwise it fails for what they lack. -/
theorem run_means_its_length (policy : Policy) (calls : List Call) (s : Stitch) (letter : Char)
    (ds : List Char) (known : (Expr.stitch s).runLetter? = some letter) (digits : IsDigitRun ds)
    (positive : 0 < decimalValue ds) (small : decimalValue ds < 2 ^ 32) :
    ∃ e, (∀ p, Reader.unitOf (.ofPiece p ⟨.word, letter :: ds⟩) = .ok e) ∧
      (∃ p, parse (rowSource (letter :: ds)) = .ok [⟨"s", [.row ⟨[e], p⟩]⟩]) ∧
      ∀ as n, (Fabric.run policy calls).needle.actAll as = .ok n →
        ((∃ m, e.expand n = .ok m) ↔ n.HasRoom (decimalValue ds)) ∧
        (∀ m, e.expand n = .ok m →
          m.row.stitches = n.row.stitches ++ List.replicate (decimalValue ds) s) ∧
        ∀ snag, e.expand n = .error snag → n.Lacks (decimalValue ds) snag := by
  let count : UInt32 := .ofNat (decimalValue ds)
  have value : decimalValue ds = count.toNat := (UInt32.toNat_ofNat_of_lt small).symm
  have single : s.advance = 1 := by
    unfold Expr.runLetter? at known
    split at known <;> rename_i is <;> cases known <;> cases is <;> rfl
  have counted : (Expr.times (.stitch s) count).counted = true := by
    have nonzero : count ≠ 0 := by
      intro zero
      rw [value, zero] at positive
      cases positive
    simp [Expr.counted, nonzero]
  refine ⟨.times (.stitch s) count, Reader.unitOf_run known digits value,
    parse_run known digits value, ?_⟩
  intro as n acted
  have course : n.OnCourse :=
    Needle.actAll_keeps (fun _ _ _ => Needle.onCourse_of_act) acted (onCourse_needle _)
  rw [Expr.expand_eq_actAll _ counted, Expr.written_times_stitch, ← value]
  have stops : ∀ snag, n.actAll (List.replicate (decimalValue ds) (.work s)) = .error snag →
      n.Lacks (decimalValue ds) snag := fun _ => Needle.lacks_of_actAll_replicate course single
  refine ⟨⟨?_, ?_⟩, ?_, stops⟩
  · rintro ⟨m, done⟩
    exact Needle.hasRoom_of_actAll_replicate course single done
  · intro room
    cases done : n.actAll (List.replicate (decimalValue ds) (.work s)) with
    | ok m => exact ⟨m, rfl⟩
    | error snag => exact absurd room (stops snag done).not_hasRoom
  · intro m done
    rw [(Needle.row_of_actAll done).2.2, Action.stitches_replicate_work]

/-- Behind the first of eight stitches, three stitches are worked where a run of three is read. A
run of eight finds only seven left. -/
theorem run_means_its_length_edging :
    ∃ n, (Fabric.run .strict edging).needle.actAll [.work .purl] = .ok n ∧
      (∃ e p m, parse (rowSource ['k', '0', '3']) = .ok [⟨"s", [.row ⟨[e], p⟩]⟩] ∧
        e.expand n = .ok m ∧ m.row.stitches = [.purl, .knit, .knit, .knit]) ∧
      ∃ e p snag, parse (rowSource ['p', '8']) = .ok [⟨"s", [.row ⟨[e], p⟩]⟩] ∧
        e.expand n = .error snag ∧ n.Lacks 8 snag := by
  obtain ⟨n, acted⟩ : ∃ n, (Fabric.run .strict edging).needle.actAll [.work .purl] = .ok n :=
    ⟨_, rfl⟩
  refine ⟨n, acted, ?_, ?_⟩
  · obtain ⟨e, -, ⟨p, parsed⟩, works⟩ := run_means_its_length .strict edging .knit 'k'
      ['0', '3'] rfl ⟨by decide, rfl⟩ (by decide) (by decide)
    obtain ⟨fits, added, -⟩ := works _ n acted
    have room : n.HasRoom 3 := by
      cases acted
      exact ⟨by decide, by decide⟩
    obtain ⟨m, done⟩ := fits.2 room
    refine ⟨e, p, m, parsed, done, ?_⟩
    rw [added m done]
    cases acted
    rfl
  · obtain ⟨e, -, ⟨p, parsed⟩, works⟩ := run_means_its_length .strict edging .purl 'p'
      ['8'] rfl ⟨by decide, rfl⟩ (by decide) (by decide)
    obtain ⟨fits, -, lacks⟩ := works _ n acted
    cases done : e.expand n with
    | ok m =>
      have seven := (fits.1 ⟨m, done⟩).fits 8
      cases acted
      exact absurd (seven rfl) (by decide)
    | error snag => exact ⟨e, p, snag, parsed, done, lacks snag done⟩

/-- A run of no stitches is read as a repeat without a count. Over eight stitches it works eight,
and in a first row it fails for want of a row below. -/
theorem run_of_none_fills_the_row :
    ∃ e p, parse (rowSource ['k', '0']) = .ok [⟨"s", [.row ⟨[e], p⟩]⟩] ∧
      (∃ m, e.expand (Fabric.run .strict edging).needle = .ok m ∧
        m.row.stitches = List.replicate 8 .knit) ∧
      ∃ snag, e.expand (Fabric.run .strict []).needle = .error snag ∧
        snag.fault = .noPreviousRow ⟨1, 1⟩ := by
  have digits : IsDigitRun ['0'] := ⟨by decide, rfl⟩
  obtain ⟨p, parsed⟩ := parse_run (e := .stitch .knit) (n := 0) rfl digits rfl
  exact ⟨_, p, parsed, ⟨_, rfl, rfl⟩, ⟨_, rfl, rfl⟩⟩

end Fabric
end Knitting
