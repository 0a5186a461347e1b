import Knitting.Proofs.Pattern.Retraced

/-! # The language of patterns

Reading a source succeeds exactly if its lexemes have a derivation, and gives the sections that
the derivation is the tree of.
-/
namespace Knitting

/-- What is ahead is read lexeme by lexeme, and then closed where it ends. -/
theorem LexemeStream.readSections_fst (s : LexemeStream) :
    s.readSections.1 =
      (visit Reader.step s.lexemes .fresh).bind fun reader => reader.close s.finish := by
  rw [readSections, ← Reader.run_fst]
  obtain ⟨result, rest⟩ := Reader.fresh.run s.lexemes
  cases result <;> rfl

theorem parse_eq_visit (source : String) :
    parse source = (visit Reader.step (LexemeStream.ofSource source).lexemes .fresh).bind
      fun reader => reader.close (LexemeStream.ofSource source).finish :=
  (LexemeStream.ofSource source).readSections_fst

theorem parse_eq_ok_iff {source : String} {pattern : List Section} :
    parse source = .ok pattern ↔
      ∃ d : Derivation (LexemeStream.ofSource source).lexemes, d.pattern = pattern := by
  have spelled := LexemeStream.wellSpelled_ofSource source
  rw [parse_eq_visit]
  constructor
  · intro h
    cases visited : visit Reader.step (LexemeStream.ofSource source).lexemes .fresh with
    | ok after =>
      rw [visited] at h
      exact Reader.exists_derivation spelled visited h
    | error e =>
      rw [visited] at h
      cases h
  · rintro ⟨d, rfl⟩
    rw [Reader.visit_derivation d spelled]
    simp [Except.bind, Reader.close, Reader.missing]

/-- A source is read without an error exactly if the lexemes before the end of input can be
derived from the grammar; the derivation is then the only one, and what is read is its tree. -/
theorem parse_ok_iff_derivable (source : String) :
    (∀ pattern, parse source = .ok pattern ↔
      ∃ d : Derivation ((tokenize source).takeWhile (·.token ≠ .endOfInput)),
        d.pattern = pattern) ∧
    ∀ d d' : Derivation ((tokenize source).takeWhile (·.token ≠ .endOfInput)), d = d' := by
  rw [tokenize_takeWhile]
  exact ⟨fun _ => parse_eq_ok_iff, Derivation.unique⟩

end Knitting
