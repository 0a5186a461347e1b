import Knitting.Pattern.Descent
import Knitting.Proofs.Pattern.Language

/-! # Descent and reader

The procedures of the descent and the reader take the same lexemes and come to the same end. What a
procedure is called for is what the reader has open, and where it returns, the reader has gone on to
the state behind the construct. So the claim for a procedure is about all that may be done with its
result: whatever goes on from there as the reader does, goes on so from the call.
-/
namespace Knitting

namespace Intake

variable (finish : Position) (ls taken : List Lexeme)

def behind : Intake := ⟨⟨ls, finish⟩, taken.head?, none, taken⟩

def holding : Intake := ⟨⟨ls.tail, finish⟩, none, some (ls.headD (.endAt finish)), taken⟩

/-- The lexemes `ls` are ahead, whether the first of them is in the slot or not. -/
def Stands (intake : Intake) : Prop :=
  intake = behind finish ls taken ∨ intake = holding finish ls taken

end Intake

open Intake

/-- What the reader gives for the lexemes ahead, and the intake that has taken as many as it
takes. -/
def Reader.readOn (finish : Position) (reader : Reader) :
    List Lexeme → List Lexeme → Except Breakdown (List Section) × Intake
  | [], taken =>
    ((reader.close finish).mapError .fault, behind finish [] (.endAt finish :: taken))
  | l :: ls, taken =>
    match reader.step l with
    | .ok next => next.readOn finish ls (l :: taken)
    | .error e => (.error (.fault e), behind finish ls (l :: taken))

namespace Descent
open Reader

section Running

variable {α β : Type} {m : Descent α} {k : α → Descent β} {intake after : Intake}

theorem bind_of_ok {a : α} (h : m intake = (.ok a, after)) : (m >>= k) intake = k a after := by
  change ExceptT.bindCont k (m intake).1 (m intake).2 = _
  rw [h]
  rfl

@[simp] theorem fail_bind (e : ParseError) : (fail e : Descent α) >>= k = fail e := rfl

end Running

variable {finish : Position} {ls taken : List Lexeme} {intake : Intake}

theorem scan_eq (h : intake.Stands finish ls taken) :
    scan intake = (.ok (ls.headD (.endAt finish)),
      behind finish ls.tail (ls.headD (.endAt finish) :: taken)) := by
  rcases h with rfl | rfl
  · cases ls <;> rfl
  · rfl

theorem unscan_eq (finish : Position) (ls taken : List Lexeme) :
    unscan (behind finish ls.tail (ls.headD (.endAt finish) :: taken)) =
      (.ok (), holding finish ls taken) := rfl

/-- With the lexemes ahead, the procedure does what the reader does. -/
def Agrees (finish : Position) (m : Descent (List Section)) (reader : Reader) (ls : List Lexeme) :
    Prop :=
  (∀ l ∈ ls, l.token ≠ .endOfInput) → ∀ taken (intake : Intake), intake.Stands finish ls taken →
    m intake = reader.readOn finish ls taken

section Lexeme

variable {reader : Reader} {l : Lexeme} {f : Lexeme → Descent (List Section)}
  {m : Descent (List Section)}

theorem agrees_cons (h : l.token ≠ .endOfInput → Agrees finish m reader (l :: ls)) :
    Agrees finish m reader (l :: ls) :=
  fun inside => h (inside l List.mem_cons_self) inside

theorem agrees_step (next : Reader) (ok : reader.step l = .ok next)
    (rest : Agrees finish (f l) next ls) : Agrees finish (scan >>= f) reader (l :: ls) := by
  intro inside taken intake stands
  have there := rest (fun m hm => inside m (List.mem_cons_of_mem l hm)) (l :: taken) _ (.inl rfl)
  rw [bind_of_ok (scan_eq stands), readOn, ok]
  exact there

theorem agrees_fail {e : ParseError} (wrong : reader.step l = .error e) (same : f l = fail e) :
    Agrees finish (scan >>= f) reader (l :: ls) := by
  intro _ taken intake stands
  rw [bind_of_ok (scan_eq stands), readOn, wrong, List.headD_cons, same]
  rfl

/-- The reader goes on with what it makes of the lexeme, or has nothing to go on with. -/
theorem agrees_except {α : Type} (result : Except ParseError α) (after : α → Reader)
    (k : α → Descent (List Section)) (step : reader.step l = result.map after)
    (same : f l = ofExcept result >>= k)
    (rest : ∀ a, result = .ok a → Agrees finish (k a) (after a) ls) :
    Agrees finish (scan >>= f) reader (l :: ls) := by
  cases result with
  | ok a =>
    apply agrees_step (after a) step
    rw [same]
    exact rest a rfl
  | error e => exact agrees_fail step same

theorem agrees_end (same : f (.endAt finish) = ofExcept (reader.close finish)) :
    Agrees finish (scan >>= f) reader [] := by
  intro _ taken intake stands
  rw [bind_of_ok (scan_eq stands), readOn, List.headD_nil, same]
  cases reader.close finish <;> rfl

theorem agrees_missing (expected : Expected) (missed : missing reader.state = some expected)
    (same : f (.endAt finish) = fail (.unexpectedEnd finish expected)) :
    Agrees finish (scan >>= f) reader [] := by
  apply agrees_end
  rw [same, close, missed]
  rfl

/-- A lexeme that is pulled and put back is only looked at. -/
theorem agrees_putBack (same : f (ls.headD (.endAt finish)) = unscan >>= fun _ => m)
    (rest : Agrees finish m reader ls) : Agrees finish (scan >>= f) reader ls := by
  intro inside taken intake stands
  rw [bind_of_ok (scan_eq stands), same, bind_of_ok (unscan_eq finish ls taken)]
  exact rest inside taken _ (.inr rfl)

end Lexeme

section Expect

variable {t : Token} {reader : Reader} {l : Lexeme} {k : Lexeme → Descent (List Section)}

theorem expect_bind (t : Token) (k : Lexeme → Descent (List Section)) :
    expect t >>= k =
      scan >>= fun l => if l.token = t then k l else fail (unexpected (.token t) l) := by
  rw [expect, bind_assoc]
  congr 1
  funext l
  split <;> rfl

theorem agrees_expect_head (next : Reader) (token : l.token = t) (ok : reader.step l = .ok next)
    (rest : Agrees finish (k l) next ls) : Agrees finish (expect t >>= k) reader (l :: ls) := by
  rw [expect_bind]
  apply agrees_step next ok
  rwa [if_pos token]

/-- A procedure expects a token where the reader requires it. -/
theorem agrees_expect {α : Type} (result : Lexeme → Except ParseError α) (after : α → Reader)
    (g : α → Descent (List Section)) (lexeme : t ≠ .endOfInput)
    (missed : ls = [] → missing reader.state = some (.token t))
    (step : ∀ l, reader.step l =
      if l.token = t then (result l).map after else .error (unexpected (.token t) l))
    (same : ∀ l, k l = ofExcept (result l) >>= g)
    (rest : ∀ a ls', ls'.length < ls.length → Agrees finish (g a) (after a) ls') :
    Agrees finish (expect t >>= k) reader ls := by
  rw [expect_bind]
  cases ls with
  | nil =>
    apply agrees_missing (.token t) (missed rfl)
    rw [if_neg (by exact fun h => lexeme h.symm)]
    rfl
  | cons l ls =>
    by_cases token : l.token = t
    · apply agrees_except (result l) after g ((step l).trans (if_pos token))
        ((if_pos token).trans (same l))
      exact fun a _ => rest a ls (Nat.lt_succ_self _)
    · exact agrees_fail ((step l).trans (if_neg token)) (if_neg token)

theorem agrees_require {sections : List Section} {state : ReaderState}
    (after : Lexeme → ReaderState) (lexeme : t ≠ .endOfInput)
    (missed : ls = [] → missing state = some (.token t))
    (step : ∀ l, Reader.step ⟨sections, state⟩ l =
      (require t l (.ok (after l))).map fun next => ⟨sections, next⟩)
    (rest : ∀ l ls', ls'.length < ls.length → Agrees finish (k l) ⟨sections, after l⟩ ls') :
    Agrees finish (expect t >>= k) ⟨sections, state⟩ ls := by
  apply agrees_expect .ok (fun l => ⟨sections, after l⟩) k lexeme missed _ (fun _ => rfl) rest
  intro l
  rw [step, require]
  split <;> rfl

end Expect

/-- In the open row, an expression may come next, or the end of the row or of the open group. -/
structure InRow (reader : Reader) (s : OpenSection) (b : Option OpenBlock) (r : OpenRow)
    (ls : List Lexeme) : Prop where
  takes : ∀ l ∈ ls.head?, Takes reader s b r l
  missing : ls = [] →
    missing reader.state = some (.token (if r.outer.isEmpty then .rowEnd else .groupClose))

variable {sections : List Section} {state : ReaderState} {s : OpenSection} {b : Option OpenBlock}
  {r : OpenRow} {l : Lexeme}

theorem inRow_expression (sections : List Section) (s : OpenSection) (b : Option OpenBlock)
    (r : OpenRow) (ls : List Lexeme) : InRow ⟨sections, .row s b r .expression⟩ s b r ls where
  takes _ _ := rfl
  missing _ := by
    obtain ⟨start, content, outer⟩ := r
    cases outer <;> rfl

theorem inRow_suffix (sections : List Section) (s : OpenSection) (b : Option OpenBlock)
    (r : OpenRow) (u : Expr) (noStar : ∀ l ∈ ls.head?, l.token ≠ .repeatSuffix) :
    InRow ⟨sections, .row s b r (.suffix u)⟩ s b (r.push u) ls where
  takes l hl := takes_of_awaits sections (.suffix r u) (noStar l hl)
  missing _ := by
    obtain ⟨start, content, outer⟩ := r
    cases outer <;> rfl

/-- With an expression behind the open row, `k` goes on as the reader does, if fewer than `n`
lexemes are ahead. -/
def GoesOn (finish : Position) (k : Expr → Descent (List Section)) (sections : List Section)
    (s : OpenSection) (b : Option OpenBlock) (r : OpenRow) (n : Nat) : Prop :=
  ∀ e state ls, ls.length < n → InRow ⟨sections, state⟩ s b (r.push e) ls →
    Agrees finish (k e) ⟨sections, state⟩ ls

section Expressions

variable {k : Expr → Descent (List Section)} {n rounds : Nat}

theorem GoesOn.agrees_expression (h : GoesOn finish k sections s b r n) (shorter : ls.length < n)
    (e : Expr) : Agrees finish (k e) ⟨sections, .row s b (r.push e) .expression⟩ ls :=
  h e _ ls shorter (inRow_expression sections s b (r.push e) ls)

theorem GoesOn.mono (h : GoesOn finish k sections s b r n) {m : Nat} (le : m ≤ n) :
    GoesOn finish k sections s b r m :=
  fun e state ls shorter => h e state ls (Nat.lt_of_lt_of_le shorter le)

theorem agrees_readRepeat (u : Expr) (h : GoesOn finish k sections s b r (ls.length + 1)) :
    Agrees finish (readRepeat u >>= k) ⟨sections, .row s b r (.count u)⟩ ls := by
  rw [readRepeat, bind_assoc]
  cases ls with
  | nil => exact agrees_missing .repeatCount rfl rfl
  | cons l ls =>
    by_cases integer : l.token = .integer
    · apply agrees_except (countOf l)
        (fun n => ⟨sections, .row s b (r.push (.times u n)) .expression⟩)
        (fun n => k (.times u n))
      · simp only [step, stepRow, integer]
        cases countOf l <;> rfl
      · rw [integer]
        cases countOf l <;> rfl
      · intro n _
        exact h.agrees_expression (by rw [List.length_cons]; omega) (.times u n)
    · by_cases minus : l.token = .minus
      · apply agrees_step ⟨sections, .row s b r (.leftover u)⟩
        · simp [step, stepRow, minus, Except.map]
        · simp only [minus, bind_assoc]
          apply agrees_expect countOf
            (fun n => ⟨sections, .row s b (r.push (.leaving u n)) .expression⟩)
            (fun n => k (.leaving u n)) (t := .integer) (by decide) fun _ => rfl
          · intro l
            simp only [step, stepRow]
            split
            · cases countOf l <;> rfl
            · rfl
          · intro l
            cases countOf l <;> rfl
          · intro n ls' shorter
            exact h.agrees_expression (by simp; omega) (.leaving u n)
      · apply agrees_fail (e := unexpected .repeatCount l)
        · simp only [step, stepRow]
          rfl
        · split <;> simp_all

theorem agrees_readSuffix (u : Expr) (h : GoesOn finish k sections s b r (ls.length + 1)) :
    Agrees finish (readSuffix u >>= k) ⟨sections, .row s b r (.suffix u)⟩ ls := by
  rw [readSuffix, bind_assoc]
  have plain (noStar : ∀ l ∈ ls.head?, l.token ≠ .repeatSuffix) :
      Agrees finish (k u) ⟨sections, .row s b r (.suffix u)⟩ ls :=
    h u _ ls (Nat.lt_succ_self _) (inRow_suffix sections s b r u noStar)
  cases ls with
  | nil =>
    apply agrees_putBack (m := k u)
    · rw [List.headD_nil, if_neg (by simp [Lexeme.endAt]), bind_assoc]
      rfl
    · exact plain (by simp)
  | cons l ls =>
    by_cases star : l.token = .repeatSuffix
    · apply agrees_step ⟨sections, .row s b r (.count u)⟩
      · simp [step, stepRow, star, Except.map]
      · rw [if_pos star]
        exact agrees_readRepeat u (h.mono (by simp))
    · apply agrees_putBack (m := k u)
      · rw [List.headD_cons, if_neg star, bind_assoc]
        rfl
      · exact plain (by simpa using star)

/-- A lexeme that neither begins an expression nor ends what is open is one too many. -/
theorem stepExpression_unexpected (stitch : ¬l.token.isStitch = true)
    (marker : ¬l.token.isMarkerAction = true) (group : l.token ≠ .groupOpen)
    (inside : if r.outer.isEmpty then l.token ≠ .rowEnd ∧ l.token ≠ .blockClose
      else l.token ≠ .groupClose) :
    stepExpression s b r l = .error (unexpected .expression l) := by
  rw [stepExpression, if_neg stitch, if_neg marker]
  split <;> simp_all

/-- What is said of the members of a group: behind its end, `k` goes on with the group as the reader
does where a suffix may follow. -/
def MembersAgree (finish : Position) (sections : List Section) (s : OpenSection)
    (b : Option OpenBlock) (rounds : Nat) (ls : List Lexeme) : Prop :=
  ∀ state start done content outer (k : Expr → Descent (List Section)),
    InRow ⟨sections, state⟩ s b ⟨start, done, content :: outer⟩ ls →
    (∀ es ls', ls'.length < ls.length → Agrees finish (k (.group es))
      ⟨sections, .row s b ⟨start, content, outer⟩ (.suffix (.group es))⟩ ls') →
    Agrees finish (readMembers rounds done >>= k) ⟨sections, state⟩ ls

theorem agrees_readExpr (row : InRow ⟨sections, state⟩ s b r (l :: ls))
    (inside : if r.outer.isEmpty then l.token ≠ .rowEnd ∧ l.token ≠ .blockClose
      else l.token ≠ .groupClose)
    (members : MembersAgree finish sections s b rounds ls)
    (h : GoesOn finish k sections s b r (ls.length + 1)) :
    Agrees finish (readExpr rounds >>= k) ⟨sections, state⟩ (l :: ls) := by
  have takes : Takes ⟨sections, state⟩ s b r l := row.takes l rfl
  rw [readExpr, bind_assoc]
  by_cases stitch : l.token.isStitch = true
  · apply agrees_putBack (m := readStitch >>= fun u => readSuffix u >>= k)
    · rw [List.headD_cons, if_pos stitch, bind_assoc]
      simp only [bind_assoc]
    · rw [readStitch, bind_assoc]
      apply agrees_except (unitOf l) (fun u => ⟨sections, .row s b r (.suffix u)⟩)
        (fun u => readSuffix u >>= k) _ rfl
      · exact fun u _ => agrees_readSuffix u h
      · rw [takes, stepExpression, if_pos stitch]
        cases unitOf l <;> rfl
  · by_cases group : l.token = .groupOpen
    · apply agrees_putBack (m := readGroup rounds >>= fun u => readSuffix u >>= k)
      · rw [List.headD_cons, if_neg stitch, if_pos group, bind_assoc]
        simp only [bind_assoc]
      · rw [readGroup, bind_assoc]
        apply agrees_expect_head ⟨sections, .row s b r.openGroup .expression⟩ group
        · exact step_of_takes takes (stepExpression_groupOpen (.ofToken group))
        · apply members _ r.start [] r.content r.outer
          · exact inRow_expression sections s b r.openGroup ls
          · intro es ls' shorter
            exact agrees_readSuffix (.group es) (h.mono (by omega))
    · by_cases marker : l.token.isMarkerAction = true
      · apply agrees_putBack (m := readMarker >>= k)
        · rw [List.headD_cons, if_neg stitch, if_neg group, if_pos marker, bind_assoc]
        · rw [readMarker, bind_assoc]
          apply agrees_except (markerOf l) (fun e => ⟨sections, .row s b (r.push e) .expression⟩) k
            _ rfl
          · exact fun e _ => h.agrees_expression (Nat.lt_succ_self _) e
          · rw [takes, stepExpression, if_neg stitch, if_pos marker]
            cases markerOf l <;> rfl
      · apply agrees_fail (e := unexpected .expression l)
        · rw [takes, stepExpression_unexpected stitch marker group inside]
          rfl
        · simp only [if_neg stitch, if_neg group, if_neg marker, fail_bind]

end Expressions

/-- A lexeme that does not end the group is put back for the expression that it begins. -/
theorem agrees_readMembers {rounds : Nat} (enough : ls.length < rounds) :
    MembersAgree finish sections s b rounds ls := by
  induction rounds generalizing ls with
  | zero => exact absurd enough (Nat.not_lt_zero _)
  | succ rounds ih =>
    intro state start done content outer k row after
    rw [readMembers, bind_assoc]
    cases ls with
    | nil => exact agrees_missing (.token .groupClose) (row.missing rfl) rfl
    | cons l ls =>
      rw [List.length_cons] at enough
      apply agrees_cons
      intro lexeme
      by_cases close : l.token = .groupClose
      · apply agrees_step
          ⟨sections, .row s b ⟨start, content, outer⟩ (.suffix (.group done.reverse))⟩
        · exact step_of_takes (row.takes l rfl)
            (stepExpression_groupClose (.ofToken close) content outer rfl)
        · rw [close]
          exact after done.reverse ls (Nat.lt_succ_self _)
      · apply agrees_putBack
          (m := readExpr rounds >>= fun e => readMembers rounds (e :: done) >>= k)
        · rw [List.headD_cons]
          split
          · contradiction
          · contradiction
          · simp only [bind_assoc]
        · apply agrees_readExpr row (by simpa using close) (ih (by omega))
          intro e next ls' shorter here
          apply ih (by omega) next start (e :: done) content outer k here
          exact fun es ls'' least => after es ls'' (Nat.lt_trans least shorter)

section Constructs

variable {rounds : Nat}

theorem agrees_readRowRest {start : Position} {done : List Expr} {k : Row → Descent (List Section)}
    (enough : ls.length < rounds) (row : InRow ⟨sections, state⟩ s b ⟨start, done, []⟩ ls)
    (after : ∀ t ls', ls'.length < ls.length →
      Agrees finish (k t) ⟨sections, afterRow s b t⟩ ls') :
    Agrees finish (readRowRest start rounds done >>= k) ⟨sections, state⟩ ls := by
  induction rounds generalizing ls state done with
  | zero => exact absurd enough (Nat.not_lt_zero _)
  | succ rounds ih =>
    rw [readRowRest, bind_assoc]
    cases ls with
    | nil => exact agrees_missing (.token .rowEnd) (row.missing rfl) rfl
    | cons l ls =>
      rw [List.length_cons] at enough
      apply agrees_cons
      intro lexeme
      have takes := row.takes l rfl
      by_cases ended : l.token = .rowEnd
      · have here := stepExpression_rowEnd (s := s) (b := b) (r := ⟨start, done, []⟩)
          (.ofToken ended) rfl
        rw [Leaf.lexeme_ofToken] at here
        cases done with
        | nil =>
          apply agrees_fail (e := .emptyRow start)
          · rw [takes, here]
            rfl
          · rw [ended]
            rfl
        | cons e es =>
          have whole := endRow_eq_ok (s := s) (b := b) (List.reverse_ne_nil_iff.2
            (List.cons_ne_nil e es)) start []
          rw [List.reverse_reverse] at whole
          apply agrees_step ⟨sections, afterRow s b ⟨(e :: es).reverse, start⟩⟩
          · exact step_of_takes takes (here.trans whole)
          · rw [ended]
            exact after _ ls (Nat.lt_succ_self _)
      · by_cases close : l.token = .blockClose
        · apply agrees_fail (e := unexpected (.token .rowEnd) l)
          · rw [takes]
            simp [stepExpression, close, Token.isStitch, Token.isMarkerAction, Except.map]
          · rw [close]
            rfl
        · apply agrees_putBack
            (m := readExpr (rounds + 1) >>= fun e => readRowRest start rounds (e :: done) >>= k)
          · rw [List.headD_cons]
            split
            · contradiction
            · contradiction
            · contradiction
            · simp only [bind_assoc]
          · apply agrees_readExpr row ⟨ended, close⟩ (agrees_readMembers (by omega))
            intro e next ls' shorter here
            apply ih (by omega) here
            exact fun t ls'' least => after t ls'' (Nat.lt_trans least shorter)

theorem agrees_readRow {k : Row → Descent (List Section)} (enough : (l :: ls).length < rounds)
    (takes : Takes ⟨sections, state⟩ s b ⟨l.position, [], []⟩ l)
    (after : ∀ t ls', ls'.length < (l :: ls).length →
      Agrees finish (k t) ⟨sections, afterRow s b t⟩ ls') :
    Agrees finish (readRow rounds >>= k) ⟨sections, state⟩ (l :: ls) := by
  rw [readRow, bind_assoc]
  apply agrees_putBack (m := readRowRest l.position rounds [] >>= k)
  · rw [List.headD_cons, bind_assoc]
  · apply agrees_readRowRest enough _ after
    exact ⟨by simpa using takes, nofun⟩

theorem agrees_readBlockRows (s : OpenSection) (b : OpenBlock)
    {k : Block → Descent (List Section)} (enough : ls.length < rounds)
    (after : ∀ t ls', ls'.length < ls.length → Agrees finish (k t)
      ⟨sections, .items { s with content := .block t :: s.content }⟩ ls') :
    Agrees finish (readBlockRows b.count rounds b.rows >>= k) ⟨sections, .blockRows s b⟩ ls := by
  induction rounds generalizing ls b with
  | zero => exact absurd enough (Nat.not_lt_zero _)
  | succ rounds ih =>
    rw [readBlockRows, bind_assoc]
    cases ls with
    | nil => exact agrees_missing (.token .blockClose) rfl rfl
    | cons l ls =>
      apply agrees_cons
      intro lexeme
      by_cases close : l.token = .blockClose
      · apply agrees_step
          ⟨sections, .items { s with content := .block ⟨b.rows.reverse, b.count⟩ :: s.content }⟩
        · simp [step, close, Except.map]
        · rw [close]
          exact after _ ls (Nat.lt_succ_self _)
      · apply agrees_putBack
          (m := readRow (rounds + 1) >>= fun t => readBlockRows b.count rounds (t :: b.rows) >>= k)
        · rw [List.headD_cons]
          split
          · contradiction
          · contradiction
          · simp only [bind_assoc]
        · apply agrees_readRow (s := s) (b := some b) enough
          · simp only [Takes, step]
            rfl
          · intro t ls' shorter
            apply ih { b with rows := t :: b.rows } (by omega)
            exact fun u ls'' least => after u ls'' (Nat.lt_trans least shorter)

theorem agrees_readBlock (s : OpenSection) {k : Block → Descent (List Section)}
    (enough : (l :: ls).length < rounds) (token : l.token = .repeatWord)
    (after : ∀ t ls', ls'.length < (l :: ls).length → Agrees finish (k t)
      ⟨sections, .items { s with content := .block t :: s.content }⟩ ls') :
    Agrees finish (readBlock rounds >>= k) ⟨sections, .items s⟩ (l :: ls) := by
  rw [List.length_cons] at enough after
  simp only [readBlock, bind_assoc]
  apply agrees_expect_head ⟨sections, .blockCount s⟩ token
  · simp [step, token, Except.map]
  · apply agrees_expect countOf (fun n => ⟨sections, .blockOpen s n⟩)
      (fun n => expect .blockOpen >>= fun _ => readBlockRows n rounds [] >>= k) (by decide)
      fun _ => rfl
    · intro l
      simp only [step, require]
      split
      · cases countOf l <;> rfl
      · rfl
    · intro l
      rfl
    · intro n ls' shorter
      apply agrees_require (fun _ => .blockRows s ⟨n, []⟩) (by decide) (fun _ => rfl) fun _ => rfl
      intro _ ls'' least
      apply agrees_readBlockRows s ⟨n, []⟩ (by omega)
      exact fun t rest shortest => after t rest (by omega)

theorem agrees_readItems (s : OpenSection) {k : Section → Descent (List Section)}
    (enough : ls.length < rounds)
    (after : ∀ t ls', ls'.length < ls.length → Agrees finish (k t) ⟨t :: sections, .outside⟩ ls') :
    Agrees finish (readItems s.name rounds s.content >>= k) ⟨sections, .items s⟩ ls := by
  induction rounds generalizing ls s with
  | zero => exact absurd enough (Nat.not_lt_zero _)
  | succ rounds ih =>
    have onward (item : Item) (ls' : List Lexeme) (shorter : ls'.length < ls.length) :
        Agrees finish (readItems s.name rounds (item :: s.content) >>= k)
          ⟨sections, .items { s with content := item :: s.content }⟩ ls' :=
      ih { s with content := item :: s.content } (by omega)
        fun t rest least => after t rest (Nat.lt_trans least shorter)
    rw [readItems, bind_assoc]
    cases ls with
    | nil => exact agrees_missing (.token .blockClose) rfl rfl
    | cons l ls =>
      apply agrees_cons
      intro lexeme
      by_cases close : l.token = .blockClose
      · apply agrees_step ⟨⟨s.name, s.content.reverse⟩ :: sections, .outside⟩
        · simp [step, close]
        · rw [close]
          exact after _ ls (Nat.lt_succ_self _)
      · by_cases block : l.token = .repeatWord
        · apply agrees_putBack
            (m := readBlock (rounds + 1) >>= fun t =>
              readItems s.name rounds (.block t :: s.content) >>= k)
          · rw [List.headD_cons, block]
            simp only [bind_assoc]
          · exact agrees_readBlock s enough block fun t => onward (.block t)
        · apply agrees_putBack
            (m := readRow (rounds + 1) >>= fun t =>
              readItems s.name rounds (.row t :: s.content) >>= k)
          · rw [List.headD_cons]
            split
            · contradiction
            · contradiction
            · contradiction
            · simp only [bind_assoc]
          · apply agrees_readRow (s := s) (b := none) enough
            · simp only [Takes, step]
              rfl
            · exact fun t => onward (.row t)

theorem agrees_readSection {k : Section → Descent (List Section)}
    (enough : (l :: ls).length < rounds)
    (after : ∀ t ls', ls'.length < (l :: ls).length →
      Agrees finish (k t) ⟨t :: sections, .outside⟩ ls') :
    Agrees finish (readSection rounds >>= k) ⟨sections, .outside⟩ (l :: ls) := by
  simp only [readSection, bind_assoc]
  apply agrees_require (fun _ => .sectionName) (by decide)
    (absurd · (List.cons_ne_nil l ls)) fun _ => rfl
  intro _ named shorter
  apply agrees_require (fun l => .sectionOpen l.literal) (by decide) (fun _ => rfl) fun _ => rfl
  intro name opened shorter'
  apply agrees_require (fun _ => .items ⟨name.literal, []⟩) (by decide) (fun _ => rfl) fun _ => rfl
  intro _ content least
  apply agrees_readItems ⟨name.literal, []⟩ (by omega)
  exact fun t rest shortest => after t rest (by omega)

theorem agrees_readSections (enough : ls.length < rounds) :
    Agrees finish (readSections rounds sections) ⟨sections, .outside⟩ ls := by
  induction rounds generalizing ls sections with
  | zero => exact absurd enough (Nat.not_lt_zero _)
  | succ rounds ih =>
    rw [readSections]
    cases ls with
    | nil => exact agrees_end rfl
    | cons l ls =>
      apply agrees_cons
      intro lexeme
      apply agrees_putBack
        (m := readSection (rounds + 1) >>= fun s => readSections rounds (s :: sections))
      · rw [List.headD_cons, if_neg lexeme]
      · exact agrees_readSection enough fun t ls' shorter => ih (by omega)

end Constructs

theorem readPattern_apply (intake : Intake) :
    readPattern intake = readSections (intake.stream.lexemes.length + 1) [] intake :=
  bind_of_ok (m := get) (a := intake) rfl

/-- A pattern that is read from an empty slot on is read as the reader reads it. -/
theorem readPattern_eq (finish : Position) (ls taken : List Lexeme)
    (inside : ∀ l ∈ ls, l.token ≠ .endOfInput) :
    readPattern (behind finish ls taken) = Reader.fresh.readOn finish ls taken := by
  rw [readPattern_apply]
  exact agrees_readSections (Nat.lt_succ_self _) inside taken _ (.inl rfl)

end Descent
end Knitting
