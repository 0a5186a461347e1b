import Knitting.Proofs.Session.Store

/-! # What beginning a session leaves

Beginning a session makes the folder of the store, if need be, and writes one file. Every other
file is read as before; a session whose file is the one that is written is lost.
-/
namespace Knitting.SessionStore

section Stored

variable [SessionFormat] {store : SessionStore} {t u : FileTree} {name : String} {now : Timestamp}
  {s : Session}

theorem writes_of_create (h : (store.create name now : Doing Session).run t = (.ok s, u)) :
    s.name = name ∧ ∃ made place, t.AddsFolders made ∧
      made.resolve (store.path (sessionFileName name)) = .ok place ∧
      made.node? place ≠ some .folder ∧ made.put place (.file (SessionFormat.text s)) = u := by
  rw [run_create] at h
  split at h
  · cases h
  · split at h
    · cases h
    · rw [run_save] at h
      split at h
      · cases h
      · rename_i made folder
        split at h
        · cases h
        · rename_i written file
          cases h
          obtain ⟨place, resolved, free, put⟩ := FileTree.write_eq_ok.1 file
          have adds := t.makeFolders_adds store.directory
          rw [folder] at adds
          exact ⟨rfl, made, place, adds, resolved, free, put⟩

theorem loaded_put [LawfulSessionFormat] {place : FilePlace} {file : String} (below : place ≠ [])
    (free : t.node? place ≠ some .folder) (resolved : t.resolve (store.path file) = .ok place)
    (s : Session) : store.loaded (t.put place (.file (SessionFormat.text s))) file = .ok s := by
  have resolved' := (FileTree.keeps_put (.file (SessionFormat.text s)) below free).resolve resolved
  refine store.loaded_eq_ok.2 ⟨SessionFormat.text s, FileTree.read_eq_ok.2 ⟨place, resolved', ?_⟩,
    LawfulSessionFormat.ofText_text s⟩
  rw [FileTree.node?_put below, if_pos rfl]

theorem loaded_put_ne {place place' : FilePlace} {file : String} {s₀ : Session}
    (adds : t.AddsFolders u) (below : place ≠ []) (free : u.node? place ≠ some .folder)
    (resolved : t.resolve (store.path file) = .ok place') (other : place' ≠ place)
    (loaded : store.loaded t file = .ok s₀) (content : String) :
    store.loaded (u.put place (.file content)) file = .ok s₀ := by
  obtain ⟨text, read, decoded⟩ := store.loaded_eq_ok.1 loaded
  obtain ⟨place'', resolved'', node⟩ := FileTree.read_eq_ok.1 read
  obtain rfl : place'' = place' := Except.ok.inj (resolved''.symm.trans resolved)
  have keeps := adds.keeps.trans (FileTree.keeps_put (.file content) below free)
  refine store.loaded_eq_ok.2 ⟨text, FileTree.read_eq_ok.2 ⟨place'', keeps.resolve resolved, ?_⟩,
    decoded⟩
  rw [FileTree.node?_put below, if_neg other, adds.file_iff, node]

/-- A session that has begun is read from its file. Every session that could be read before, by
whatever path, is read as before unless its path leads to that same file; in the folder of the
store, only the name of that file does. -/
theorem beginning_keeps_other_files [LawfulSessionFormat]
    (h : (store.create name now : Doing Session).run t = (.ok s, u)) :
    store.loaded u (sessionFileName name) = .ok s ∧
      ∀ file s₀, store.loaded t file = .ok s₀ →
        u.resolve (store.path file) ≠ u.resolve (store.path (sessionFileName name)) ∨
          '/' ∉ file.toList ∧ file ≠ sessionFileName name →
        store.loaded u file = .ok s₀ := by
  obtain ⟨-, made, place, adds, resolved, free, rfl⟩ := writes_of_create h
  have below := FileTree.ne_nil_of_node? free
  have keeps := FileTree.keeps_put (.file (SessionFormat.text s)) below free
  refine ⟨loaded_put below free resolved s, fun file s₀ loaded differ => ?_⟩
  obtain ⟨text, read, -⟩ := store.loaded_eq_ok.1 loaded
  obtain ⟨place', resolved', -⟩ := FileTree.read_eq_ok.1 read
  refine loaded_put_ne adds below free resolved' ?_ loaded (SessionFormat.text s)
  rcases differ with places | ⟨plain, files⟩
  · rintro rfl
    exact places ((keeps.resolve (adds.keeps.resolve resolved')).trans
      (keeps.resolve resolved).symm)
  · exact FileTree.resolve_join_ne (isName_sessionFileName name) plain files resolved
      (adds.keeps.resolve resolved')

end Stored

theorem beginning_keeps_other_files_hat :
    let store : SessionStore := ⟨"lib"⟩
    let hat : Session := ⟨0, "Hat", 12, .epoch⟩
    let scarf : Session := ⟨1, "Scarf", 0, .epoch⟩
    let t : FileTree :=
      ⟨[(["hat.json", "lib"], .file hat.text), (["lib"], .folder)], [], by decide⟩
    let u := ((store.create "Scarf" .epoch : Doing Session).run t).2
    (store.create "Scarf" .epoch : Doing Session).run t = (.ok scarf, u) ∧
      store.loaded t "hat.json" = .ok hat ∧
      store.loaded u "scarf.json" = .ok scarf ∧ store.loaded u "hat.json" = .ok hat := by
  intro store hat scarf t u
  have begun : (store.create "Scarf" .epoch : Doing Session).run t = (.ok scarf, u) :=
    Prod.ext (by decide +kernel) rfl
  have loaded : store.loaded t "hat.json" = .ok hat := by decide +kernel
  obtain ⟨new, kept⟩ := beginning_keeps_other_files begun
  exact ⟨begun, loaded, new, kept _ _ loaded (.inr ⟨by decide, by decide +kernel⟩)⟩

/-- A session whose name gives the file of another session takes its place. -/
theorem beginning_overwrites_a_session :
    let store : SessionStore := ⟨"lib"⟩
    let hat : Session := ⟨0, "Hat", 12, .epoch⟩
    let t : FileTree :=
      ⟨[(["hat.json", "lib"], .file hat.text), (["lib"], .folder)], [], by decide⟩
    let u := ((store.create "hat" .epoch : Doing Session).run t).2
    store.loaded t "hat.json" = .ok hat ∧
      (store.create "hat" .epoch : Doing Session).run t = (.ok ⟨1, "hat", 0, .epoch⟩, u) ∧
      store.loaded u "hat.json" = .ok ⟨1, "hat", 0, .epoch⟩ := by
  intro store hat t u
  exact ⟨by decide +kernel, Prod.ext (by decide +kernel) rfl, by decide +kernel⟩

end Knitting.SessionStore
