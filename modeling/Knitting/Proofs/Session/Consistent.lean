import Knitting.Proofs.Session.Kept
import Knitting.Proofs.Session.Runs
import Mathlib.Data.List.Sort
import Mathlib.Data.String.Basic

/-! # A store agrees with its files

The file of a session is found again from its name every time it is saved. The files that are
listed are those of the sessions that have begun, each is read as a session of that file, and moving
a session to a row writes the file it was read from and no other.
-/
namespace Knitting.SessionStore

theorem pairwise_lt_mergeSort {names : List String} (distinct : names.Nodup) :
    names.mergeSort.Pairwise (· < ·) := by
  have sorted : names.mergeSort.Pairwise (· ≤ ·) := List.pairwise_mergeSort' (· ≤ ·) names
  have distinct' : names.mergeSort.Nodup := (List.mergeSort_perm names _).nodup_iff.2 distinct
  exact (sorted.and distinct').imp fun ⟨le, ne⟩ => lt_of_le_of_ne le ne

section Stored

variable [SessionFormat] {store : SessionStore} {before t : FileTree} {home : FilePlace}
  {state : StoreState}

namespace Stocked

variable (h : store.Stocked before home state)
include h

theorem mem_listed {file : String} :
    file ∈ (state.tree.namesIn home).mergeSort ↔
      ∃ name ∈ state.begun, sessionFileName name = file := by
  rw [List.mem_mergeSort, h.mem_namesIn, List.mem_map]

/-- A session whose file is there can be saved, and only that file is written. -/
theorem run_save_of_mem {s : Session} (mem : s.fileName ∈ state.begun.map sessionFileName)
    (now : Timestamp) :
    (store.save s now : Doing Session).run state.tree =
      (.ok { s with modified := now },
        state.tree.put (s.fileName :: home)
          (.file (SessionFormat.text { s with modified := now }))) := by
  obtain ⟨s', -, -, node, resolved⟩ := h.sessions s.fileName mem
  have written (content : String) : state.tree.write (store.path s.fileName) content =
      .ok (state.tree.put (s.fileName :: home) (.file content)) :=
    FileTree.write_eq_ok.2 ⟨s.fileName :: home, resolved, by simp [node], rfl⟩
  rw [run_save, h.makeFolders]
  dsimp only
  rw [written]

theorem run_advance_of_mem {s : Session} (mem : s.fileName ∈ state.begun.map sessionFileName)
    (loaded : store.loaded state.tree s.fileName = .ok s) (row : UInt32) (now : Timestamp) :
    (store.advance s.fileName row now : Doing Session).run state.tree =
      (.ok { s with row, modified := now },
        state.tree.put (s.fileName :: home)
          (.file (SessionFormat.text { s with row, modified := now }))) := by
  rw [run_advance, loaded]
  exact h.run_save_of_mem (s := { s with row }) mem now

theorem exists_stem {file : String} (mem : file ∈ state.begun.map sessionFileName) :
    ∃ stem, file.toList = stem ++ sessionEnding ∧ stem ≠ [] ∧ ∀ c ∈ stem, isFileChar c := by
  obtain ⟨name, begun, rfl⟩ := List.mem_map.1 mem
  exact ⟨fileStem name, toList_sessionFileName name, h.named name begun,
    fun c => isFileChar_of_mem_fileStem⟩

end Stocked

/-- After any steps, from a folder that is not there and with no session fetched from outside it,
the files that are listed are in order and are those of the names under which sessions have begun.
Each has a stem of file characters before its ending, and is read as a session of that file; moving
that session to a row is done without fail, is seen when the file is read again, and changes nothing
elsewhere. -/
theorem store_stays_consistent [LawfulSessionFormat] (absent : store.Absent t)
    (steps : List StoreStep) (inside : store.StaysInside t steps) :
    ∃ files, store.listed (store.after t steps).tree = .ok files ∧ files.Pairwise (· < ·) ∧
      (∀ file, file ∈ files ↔ ∃ name ∈ (store.after t steps).begun, sessionFileName name = file) ∧
      ∀ file ∈ files,
        (∃ stem, file.toList = stem ++ sessionEnding ∧ stem ≠ [] ∧ ∀ c ∈ stem, isFileChar c) ∧
        ∃ s place, store.loaded (store.after t steps).tree file = .ok s ∧ s.fileName = file ∧
          (store.after t steps).tree.resolve (store.path file) = .ok place ∧
          ∀ row now, ∃ tree,
            (store.advance file row now : Doing Session).run (store.after t steps).tree =
              (.ok { s with row, modified := now }, tree) ∧
            store.loaded tree file = .ok { s with row, modified := now } ∧
            ∀ other ≠ place, tree.node? other = (store.after t steps).tree.node? other := by
  rcases after_absent_or_stocked absent steps inside with ⟨u, -, absent, same⟩ | ⟨home, stocked⟩
  · rw [same]
    exact ⟨[], store.listed_of_missing absent.missing, .nil, by simp, by simp⟩
  · refine ⟨_, stocked.listed, pairwise_lt_mergeSort (FileTree.nodup_namesIn _ home),
      fun file => stocked.mem_listed, fun file listed => ?_⟩
    have mem := stocked.mem_namesIn.1 (List.mem_mergeSort.1 listed)
    obtain ⟨s, rfl, -, loaded, resolved⟩ := stocked.loaded_of_mem mem
    refine ⟨stocked.exists_stem mem, s, _, loaded, rfl, resolved, fun row now => ?_⟩
    obtain ⟨s', -, -, node, -⟩ := stocked.sessions s.fileName mem
    have below : s.fileName :: home ≠ [] := List.cons_ne_nil _ _
    refine ⟨_, stocked.run_advance_of_mem mem loaded row now,
      loaded_put below (by simp [node]) resolved _, fun other elsewhere => ?_⟩
    rw [FileTree.node?_put below, if_neg elsewhere]

end Stored

theorem store_stays_consistent_scarf :
    let store : SessionStore := ⟨"lib"⟩
    let steps := [.create "Hat" .epoch, .create "Winter Scarf!" .epoch,
      .advance "hat.json" 3 .epoch, .create "#" .epoch]
    let tree := (store.after {} steps).tree
    ∃ files, store.listed tree = .ok files ∧ files.Pairwise (· < ·) ∧
      (∀ file, file ∈ files ↔ file = "hat.json" ∨ file = "winter_scarf.json") ∧
      ∃ s, store.loaded tree "winter_scarf.json" = .ok s ∧ s.fileName = "winter_scarf.json" := by
  intro store steps tree
  have inside : store.StaysInside {} steps :=
    store.staysInside_of_none (fun place content node => by simp [FileTree.node?] at node) steps
  have begun : (store.after {} steps).begun = ["Hat", "Winter Scarf!"] := by decide +kernel
  have names : sessionFileName "Hat" = "hat.json" ∧
      sessionFileName "Winter Scarf!" = "winter_scarf.json" := by decide +kernel
  obtain ⟨files, listed, sorted, mem, read⟩ := store_stays_consistent absent_lib steps inside
  have mem' (file : String) : file ∈ files ↔ file = "hat.json" ∨ file = "winter_scarf.json" := by
    rw [mem, begun]
    simp [names, eq_comm]
  obtain ⟨-, s, -, loaded, named, -⟩ := read "winter_scarf.json" ((mem' _).2 (.inr rfl))
  exact ⟨files, listed, sorted, mem', s, loaded, named⟩

/-- What is listed need not have begun. A session that is fetched from outside the folder is saved
in it, and a path can turn back from a folder that is made for it to one that has sessions. Where
the folder cannot be made, those around it stay, and the folder cannot be listed any more. -/
theorem listed_though_never_begun :
    let store : SessionStore := ⟨"lib"⟩
    let turned : SessionStore := ⟨"new/../shelf"⟩
    let blocked : SessionStore := ⟨"new/../hat.json/shelf"⟩
    let outside : FileTree :=
      ⟨[(["hat.json"], .file (Session.text ⟨0, "Hat", 0, .epoch⟩))], [], by decide⟩
    let shelved : FileTree :=
      ⟨[(["socks.json", "shelf"], .file (Session.text ⟨0, "Socks", 0, .epoch⟩)),
        (["shelf"], .folder)], [], by decide⟩
    let fetched := store.after outside [.create "Socks" .epoch, .advance "../hat.json" 3 .epoch]
    let joined := turned.after shelved [.create "Hat" .epoch]
    let failed := blocked.after outside [.create "Socks" .epoch]
    (store.Absent outside ∧ fetched.begun = ["Socks"] ∧
      store.listed fetched.tree = .ok ["hat.json", "socks.json"]) ∧
    (turned.listed shelved = .ok [] ∧ joined.begun = ["Hat"] ∧
      turned.listed joined.tree = .ok ["hat.json", "socks.json"]) ∧
    blocked.listed outside = .ok [] ∧ failed.begun = [] ∧
      blocked.listed failed.tree = .error (.files blocked.directory .notFolder) := by
  intro store turned blocked outside shelved fetched joined failed
  have absent : store.Absent outside :=
    absent_of_straight (by decide) (FileTree.straight_of_names (by decide) _) (by decide)
      (by decide +kernel)
  have sorted : (["hat.json", "socks.json"].filter isSessionFile).mergeSort =
      ["hat.json", "socks.json"] := by
    have all : ["hat.json", "socks.json"].filter isSessionFile = ["hat.json", "socks.json"] := by
      decide
    rw [all]
    exact List.mergeSort_of_pairwise (by decide)
  refine ⟨⟨absent, by decide +kernel, ?_⟩, ⟨by decide +kernel, by decide +kernel, ?_⟩,
    by decide +kernel⟩
  · exact (store.listed_of_list (by decide +kernel)).trans (congrArg _ sorted)
  · exact (turned.listed_of_list (by decide +kernel)).trans (congrArg _ sorted)

end Knitting.SessionStore
