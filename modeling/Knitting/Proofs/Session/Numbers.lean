import Knitting.Proofs.Session.Runs

/-! # Numbers of sessions

A session has the number of the files there were when it began. As long as every session has a file
of its own, the numbers count the sessions and tell them apart. When a session begins in place of
another one, no file comes with it, and the session that begins next has its number as well.
-/
namespace Knitting

theorem fileCount_of_nodup {names : List String} (distinct : (names.map sessionFileName).Nodup) :
    fileCount names = names.length := by
  rw [fileCount, distinct.dedup, List.length_map]

/-- Among sessions with files of their own, no two have the same number. -/
theorem Session.IsLatest.name_eq {s s' : Session} {begun : List String} (h : s.IsLatest begun)
    (h' : s'.IsLatest begun) (distinct : (begun.map sessionFileName).Nodup)
    (few : begun.length ≤ UInt64.size) (same : s.id = s'.id) : s.name = s'.name := by
  have counted (earlier later : List String) (name : String)
      (all : begun = earlier ++ name :: later) :
      fileCount earlier = earlier.length ∧ earlier.length < UInt64.size := by
    rw [all, List.map_append] at distinct
    rw [all, List.length_append, List.length_cons] at few
    exact ⟨fileCount_of_nodup distinct.of_append_left, by omega⟩
  obtain ⟨earlier, later, all, -, number⟩ := h
  obtain ⟨earlier', later', all', -, number'⟩ := h'
  obtain ⟨count, small⟩ := counted earlier later s.name all
  obtain ⟨count', small'⟩ := counted earlier' later' s'.name all'
  have lengths : earlier.length = earlier'.length := by
    rw [number, number', count, count'] at same
    have words := congrArg UInt64.toNat same
    rwa [UInt64.toNat_ofNat_of_lt' small, UInt64.toNat_ofNat_of_lt' small'] at words
  exact (List.cons.inj (List.append_inj (all.symm.trans all') lengths).2).1

namespace SessionStore

/-- After any steps, from a folder that is not there, the number of each session that is listed is
that of the files there were when a session last began with its file. If each session that has begun
has a file of its own, no two have the same number. -/
theorem numbers_tell_sessions_apart [SessionFormat] [LawfulSessionFormat] {store : SessionStore}
    {t : FileTree} (absent : store.Absent t) (steps : List StoreStep)
    (inside : store.StaysInside t steps) :
    ∃ files, store.listed (store.after t steps).tree = .ok files ∧
      (∀ file ∈ files, ∃ s, store.loaded (store.after t steps).tree file = .ok s ∧
        s.fileName = file ∧ s.IsLatest (store.after t steps).begun) ∧
      (((store.after t steps).begun.map sessionFileName).Nodup →
        (store.after t steps).begun.length ≤ UInt64.size →
        ∀ file ∈ files, ∀ file' ∈ files, ∀ s s',
          store.loaded (store.after t steps).tree file = .ok s →
          store.loaded (store.after t steps).tree file' = .ok s' → s.id = s'.id →
          file = file') := by
  rcases after_absent_or_stocked absent steps inside with ⟨u, -, absent, same⟩ | ⟨home, stocked⟩
  · rw [same]
    exact ⟨[], store.listed_of_missing absent.missing, by simp, by simp⟩
  · refine ⟨_, stocked.listed, fun file listed => ?_, ?_⟩
    · obtain ⟨s, named, latest, loaded, -⟩ :=
        stocked.loaded_of_mem (stocked.mem_namesIn.1 (List.mem_mergeSort.1 listed))
      exact ⟨s, loaded, named, latest⟩
    · intro distinct few file listed file' listed' s s' loaded loaded' same
      obtain ⟨_, rfl, latest, there, -⟩ :=
        stocked.loaded_of_mem (stocked.mem_namesIn.1 (List.mem_mergeSort.1 listed))
      obtain ⟨_, rfl, latest', there', -⟩ :=
        stocked.loaded_of_mem (stocked.mem_namesIn.1 (List.mem_mergeSort.1 listed'))
      obtain rfl := Except.ok.inj (there.symm.trans loaded)
      obtain rfl := Except.ok.inj (there'.symm.trans loaded')
      exact congrArg sessionFileName (latest.name_eq latest' distinct few same)

theorem numbers_tell_sessions_apart_socks :
    let store : SessionStore := ⟨"lib"⟩
    let steps := [.create "Hat" .epoch, .advance "hat.json" 3 .epoch, .create "Socks" .epoch]
    let tree := (store.after {} steps).tree
    ∃ files, store.listed tree = .ok files ∧
      ∀ file ∈ files, ∀ file' ∈ files, ∀ s s', store.loaded tree file = .ok s →
        store.loaded tree file' = .ok s' → s.id = s'.id → file = file' := by
  intro store steps tree
  have inside : store.StaysInside {} steps :=
    store.staysInside_of_none (fun place content node => by simp [FileTree.node?] at node) steps
  have begun : (store.after {} steps).begun = ["Hat", "Socks"] := by decide +kernel
  obtain ⟨files, listed, -, apart⟩ := numbers_tell_sessions_apart absent_lib steps inside
  refine ⟨files, listed, apart ?_ ?_⟩
  · rw [begun]
    decide +kernel
  · rw [begun]
    decide

/-- A session that is fetched from outside the folder keeps its number. -/
example :
    let store : SessionStore := ⟨"lib"⟩
    let outside : FileTree :=
      ⟨[(["hat.json"], .file (Session.text ⟨0, "Hat", 0, .epoch⟩))], [], by decide⟩
    let tree := (store.after outside
      [.create "Socks" .epoch, .advance "../hat.json" 3 .epoch]).tree
    store.loaded tree "socks.json" = .ok ⟨0, "Socks", 0, .epoch⟩ ∧
      store.loaded tree "hat.json" = .ok ⟨0, "Hat", 3, .epoch⟩ := by
  decide +kernel

/-- When a session begins in place of another one, the next one has its number. -/
theorem two_sessions_with_one_number :
    let store : SessionStore := ⟨"lib"⟩
    let tree := (store.after {}
      [.create "a" .epoch, .create "a" .epoch, .create "b" .epoch]).tree
    store.loaded tree "a.json" = .ok ⟨1, "a", 0, .epoch⟩ ∧
      store.loaded tree "b.json" = .ok ⟨1, "b", 0, .epoch⟩ := by
  intro store tree
  exact ⟨by decide +kernel, by decide +kernel⟩

end SessionStore

end Knitting
