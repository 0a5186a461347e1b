import Knitting.Proofs.Format.JsonTaken
import Knitting.Proofs.Format.JsonWritten
import Knitting.Session.Record

/-! # Sessions read back

A session is read back from the text that is written to its file.
-/
namespace Knitting
open Json (Decoder Writes writes_quote writes_natural)

theorem Json.once_takes {α : Type} {d : Decoder α} {ts rest : List Json.Token} {a : α}
    (h : d.Takes ts a rest) : (Json.once none d).Takes (.mark ':' :: ts) a rest := by
  rw [Json.once, if_neg (by simp)]
  exact (Json.expect_takes ':').bind h

namespace Timestamp

def fieldTokens (t : Timestamp) : List Json.Token :=
  [.text (.ok "secs_since_epoch") none, .mark ':', .number (.ok (some t.seconds)) none, .mark ',',
    .text (.ok "nanos_since_epoch") none, .mark ':', .number (.ok (some t.nanoseconds)) none]

theorem writes_document (t : Timestamp) :
    Writes (Json.compact t.document) (.mark '\x7b' :: (t.fieldTokens ++ [.mark '\x7d'])) := by
  have seconds := writes_natural (Nat.lt_trans t.seconds_lt (by decide : _ < 2 ^ 64))
  have nanoseconds := writes_natural (Nat.lt_trans t.nanoseconds_lt (by decide : _ < 2 ^ 64))
  exact ((seconds.field "secs_since_epoch").comma (nanoseconds.field "nanos_since_epoch")).record

theorem carried_of_timestamp (t : Timestamp) :
    carried t.seconds t.nanoseconds = .ok (t.seconds, ⟨t.nanoseconds, t.nanoseconds_lt⟩) := by
  have whole : t.nanoseconds / nanosecondsPerSecond = 0 := Nat.div_eq_of_lt t.nanoseconds_lt
  have left : t.nanoseconds % nanosecondsPerSecond = t.nanoseconds :=
    Nat.mod_eq_of_lt t.nanoseconds_lt
  have seconds : t.seconds < UInt64.size := Nat.lt_of_lt_of_le t.seconds_lt (by decide)
  simp [carried, whole, left, seconds]

theorem decoder_takes (t : Timestamp) (rest : List Json.Token) :
    decoder.Takes (.mark '\x7b' :: (t.fieldTokens ++ .mark '\x7d' :: rest)) t rest := by
  have seconds (ts : List Json.Token) : (field {} "secs_since_epoch").Takes
      (.mark ':' :: .number (.ok (some t.seconds)) none :: ts) ⟨some t.seconds, none⟩ ts := by
    have bound : t.seconds < UInt64.size := Nat.lt_of_lt_of_le t.seconds_lt (by decide)
    rw [field, if_pos rfl]
    exact (Json.once_takes (Json.natural_takes bound none)).map _
  have nanoseconds (ts : List Json.Token) : (field ⟨some t.seconds, none⟩ "nanos_since_epoch").Takes
      (.mark ':' :: .number (.ok (some t.nanoseconds)) none :: ts)
      ⟨some t.seconds, some t.nanoseconds⟩ ts := by
    have bound : t.nanoseconds < UInt32.size := Nat.lt_of_lt_of_le t.nanoseconds_lt (by decide)
    rw [field, if_neg (by decide), if_pos rfl]
    exact (Json.once_takes (Json.natural_takes bound none)).map _
  have fields := Json.fields_take (Json.fieldName_takes_first none) (seconds _)
    (Json.fields_take (Json.fieldName_takes_next none) (nanoseconds _)
      (Json.fields_take_end false rest))
  have finished : Draft.finish ⟨some t.seconds, some t.nanoseconds⟩ =
      .ok (t.seconds, ⟨t.nanoseconds, t.nanoseconds_lt⟩) := t.carried_of_timestamp
  exact (Json.structured_takes (fields.check finished)).check (dif_pos t.seconds_lt)

end Timestamp

namespace Session

def tokens (s : Session) : List Json.Token :=
  .mark '\x7b' ::
    .text (.ok "id") none :: .mark ':' :: .number (.ok (some s.id.toNat)) none ::
    .mark ',' :: .text (.ok "name") none :: .mark ':' :: .text (.ok s.name) none ::
    .mark ',' :: .text (.ok "row") none :: .mark ':' :: .number (.ok (some s.row.toNat)) none ::
    .mark ',' :: .text (.ok "lastModify") none :: .mark ':' ::
    .mark '\x7b' :: (s.modified.fieldTokens ++ [.mark '\x7d', .mark '\x7d'])

theorem tokens_text (s : Session) : Json.tokens s.text.toList = s.tokens := by
  have row : s.row.toNat < 2 ^ 64 := Nat.lt_trans s.row.toNat_lt (by decide)
  have fields := (((writes_natural s.id.toNat_lt).field "id").comma
    ((writes_quote s.name).field "name")).comma ((writes_natural row).field "row")
  have cut := Json.tokens_record (fields.comma (s.modified.writes_document.field "lastModify")) []
  rw [List.append_nil] at cut
  refine Eq.trans cut ?_
  simp [tokens, Json.tokens]

theorem decoder_takes (s : Session) : decoder.Takes s.tokens s [] := by
  have id (ts : List Json.Token) : (field {} "id").Takes
      (.mark ':' :: .number (.ok (some s.id.toNat)) none :: ts)
      ⟨some (UInt64.ofNat s.id.toNat), none, none, none⟩ ts := by
    rw [field, if_pos rfl]
    exact (Json.once_takes ((Json.natural_takes s.id.toNat_lt none).map _)).map _
  have name (id : UInt64) (ts : List Json.Token) : (field ⟨some id, none, none, none⟩ "name").Takes
      (.mark ':' :: .text (.ok s.name) none :: ts) ⟨some id, some s.name, none, none⟩ ts := by
    rw [field, if_neg (by decide), if_pos rfl]
    exact (Json.once_takes (Json.text_takes s.name none)).map _
  have row (id : UInt64) (ts : List Json.Token) :
      (field ⟨some id, some s.name, none, none⟩ "row").Takes
        (.mark ':' :: .number (.ok (some s.row.toNat)) none :: ts)
        ⟨some id, some s.name, some (UInt32.ofNat s.row.toNat), none⟩ ts := by
    rw [field, if_neg (by decide), if_neg (by decide), if_pos rfl]
    exact (Json.once_takes ((Json.natural_takes s.row.toNat_lt none).map _)).map _
  have modified (id : UInt64) (row : UInt32) (ts : List Json.Token) :
      (field ⟨some id, some s.name, some row, none⟩ "lastModify").Takes
        (.mark ':' :: .mark '\x7b' :: (s.modified.fieldTokens ++ .mark '\x7d' :: ts))
        ⟨some id, some s.name, some row, some s.modified⟩ ts := by
    rw [field, if_neg (by decide), if_neg (by decide), if_neg (by decide), if_pos rfl]
    exact (Json.once_takes (s.modified.decoder_takes ts)).map _
  have fields := Json.fields_take (Json.fieldName_takes_first none) (id _)
    (Json.fields_take (Json.fieldName_takes_next none) (name _ _)
      (Json.fields_take (Json.fieldName_takes_next none) (row _ _)
        (Json.fields_take (Json.fieldName_takes_next none) (modified _ _ _)
          (Json.fields_take_end false []))))
  have finished : Draft.finish ⟨some (UInt64.ofNat s.id.toNat), some s.name,
      some (UInt32.ofNat s.row.toNat), some s.modified⟩ = .ok s := by
    rw [UInt64.ofNat_toNat, UInt32.ofNat_toNat]
    rfl
  exact Json.structured_takes (fields.check finished)

/-- A session is read back from what is written to its file. -/
theorem ofText_text (s : Session) : ofText s.text = .ok s := by
  have taken := s.decoder_takes
  rw [← s.tokens_text] at taken
  exact taken.decode

end Session

end Knitting
