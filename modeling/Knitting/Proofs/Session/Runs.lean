import Knitting.Proofs.Session.Steps
import Mathlib.Data.List.Induction
import Mathlib.Data.List.Perm.Basic

/-! # A store in use

What a store holds after any number of steps: each session that has begun has its file, no other
file is in the folder, and a file holds the session that has last begun with it.
-/
namespace Knitting.SessionStore

/-- The folder of the store is at `home`, and holds the files of the sessions that have begun.
Elsewhere only the files `before` are. -/
structure Stocked [SessionFormat] (store : SessionStore) (before : FileTree) (home : FilePlace)
    (state : StoreState) : Prop where
  resolved : state.tree.resolve store.directory = .ok home
  folder : state.tree.node? home = some .folder
  named : ∀ name ∈ state.begun, fileStem name ≠ []
  only : ∀ file, (state.tree.node? (file :: home)).isSome →
    file ∈ state.begun.map sessionFileName
  sessions : ∀ file ∈ state.begun.map sessionFileName, ∃ s : Session,
    s.fileName = file ∧ s.IsLatest state.begun ∧
      state.tree.node? (file :: home) = some (.file (SessionFormat.text s)) ∧
      state.tree.resolve (store.path file) = .ok (file :: home)
  elsewhere : ∀ place content, state.tree.node? place = some (.file content) →
    (∃ file, place = file :: home) ∨ before.node? place = some (.file content)

variable [SessionFormat] {store : SessionStore} {before t u : FileTree} {home : FilePlace}
  {state : StoreState}

theorem next_of_ok (step : StoreStep) {s : Session}
    (done : (store.perform step).run state.tree = (.ok s, u)) :
    store.next state step = ⟨u, state.begun ++ step.names⟩ := by rw [next, done]

theorem next_of_error (step : StoreStep) {e : StoreError}
    (failed : (store.perform step).run state.tree = (.error e, u)) :
    store.next state step = ⟨u, state.begun⟩ := by rw [next, failed]

namespace Stocked

variable (h : store.Stocked before home state)
include h

theorem mem_namesIn {file : String} :
    file ∈ state.tree.namesIn home ↔ file ∈ state.begun.map sessionFileName := by
  rw [FileTree.mem_namesIn]
  refine ⟨h.only file, fun mem => ?_⟩
  obtain ⟨s, -, -, node, -⟩ := h.sessions file mem
  rw [node]
  rfl

theorem listed : store.listed state.tree = .ok (state.tree.namesIn home).mergeSort := by
  have names : state.tree.list store.directory = .ok (state.tree.namesIn home) :=
    FileTree.list_eq_ok.2 ⟨home, h.resolved, h.folder, rfl⟩
  have all : (state.tree.namesIn home).filter isSessionFile = state.tree.namesIn home := by
    refine List.filter_eq_self.2 fun file mem => ?_
    obtain ⟨name, -, rfl⟩ := List.mem_map.1 (h.mem_namesIn.1 mem)
    exact isSessionFile_sessionFileName name
  rw [store.listed_of_list names, all]

theorem length_namesIn : (state.tree.namesIn home).length = fileCount state.begun := by
  refine List.Perm.length_eq ((List.perm_ext_iff_of_nodup (state.tree.nodup_namesIn home)
    (List.nodup_dedup _)).2 fun file => ?_)
  rw [List.mem_dedup]
  exact h.mem_namesIn

theorem makeFolders : state.tree.makeFolders store.directory = (.ok (), state.tree) :=
  FileTree.makeFolders_of_folder h.resolved h.folder

/-- The paths of files in the folder lead through it. -/
theorem home_eq {home' : FilePlace} (walked : state.tree.walk (state.tree.origin store.directory)
    (Path.outer store.directory) = .ok home') : home' = home :=
  Except.ok.inj (walked.symm.trans (FileTree.walk_outer h.resolved))

/-- The path of a session file leads to its name in the folder. -/
theorem place_eq {name : String} {place : FilePlace}
    (resolved : state.tree.resolve (store.path (sessionFileName name)) = .ok place) :
    place = sessionFileName name :: home := by
  obtain ⟨home', walked, -, inside⟩ :=
    FileTree.resolve_join_name (isName_sessionFileName name) resolved
  obtain rfl := h.home_eq walked
  exact inside

theorem save (s : Session) (now : Timestamp) :
    (∃ e, (store.save s now : Doing Session).run state.tree = (.error e, state.tree)) ∨
      (store.save s now : Doing Session).run state.tree =
        (.ok { s with modified := now },
          state.tree.put (s.fileName :: home)
            (.file (SessionFormat.text { s with modified := now }))) ∧
      state.tree.resolve (store.path s.fileName) = .ok (s.fileName :: home) ∧
      state.tree.node? (s.fileName :: home) ≠ some .folder := by
  rw [run_save, h.makeFolders]
  dsimp only
  cases file : state.tree.write (store.path s.fileName)
      (SessionFormat.text { s with modified := now }) with
  | error e => exact .inl ⟨_, rfl⟩
  | ok written =>
    obtain ⟨place, resolved, free, rfl⟩ := FileTree.write_eq_ok.1 file
    obtain rfl := h.place_eq resolved
    exact .inr ⟨rfl, resolved, free⟩

/-- The state once the file of a session has been written. -/
theorem put {s : Session} {begun : List String}
    (resolved : state.tree.resolve (store.path s.fileName) = .ok (s.fileName :: home))
    (free : state.tree.node? (s.fileName :: home) ≠ some .folder) (latest : s.IsLatest begun)
    (named : ∀ name ∈ begun, fileStem name ≠ [])
    (mem : ∀ file, file ∈ begun.map sessionFileName ↔
      file = s.fileName ∨ file ∈ state.begun.map sessionFileName)
    (kept : ∀ s' : Session, s'.fileName ≠ s.fileName → s'.IsLatest state.begun →
      s'.IsLatest begun) :
    store.Stocked before home
      ⟨state.tree.put (s.fileName :: home) (.file (SessionFormat.text s)), begun⟩ := by
  have below : s.fileName :: home ≠ [] := List.cons_ne_nil _ _
  have keeps := FileTree.keeps_put (.file (SessionFormat.text s)) below free
  refine ⟨keeps.resolve h.resolved, keeps.folder _ h.folder, named, ?_, ?_, ?_⟩
  · intro file there
    rw [FileTree.node?_put below] at there
    rw [mem]
    split_ifs at there with same
    · exact .inl (List.cons.inj same).1
    · exact .inr (h.only file there)
  · intro file file_mem
    by_cases same : file = s.fileName
    · subst same
      exact ⟨s, rfl, latest, by rw [FileTree.node?_put below, if_pos rfl],
        keeps.resolve resolved⟩
    · obtain ⟨s', rfl, latest', node, resolved'⟩ :=
        h.sessions file (((mem file).1 file_mem).resolve_left same)
      refine ⟨s', rfl, kept s' same latest', ?_, keeps.resolve resolved'⟩
      rw [FileTree.node?_put below, if_neg (by simpa using same), node]
  · intro place content node
    rw [FileTree.node?_put below] at node
    split_ifs at node with same
    · exact .inl ⟨_, same⟩
    · exact h.elsewhere place content node

theorem loaded_of_mem [LawfulSessionFormat] {file : String}
    (mem : file ∈ state.begun.map sessionFileName) :
    ∃ s : Session, s.fileName = file ∧ s.IsLatest state.begun ∧
      store.loaded state.tree file = .ok s ∧
      state.tree.resolve (store.path file) = .ok (file :: home) := by
  obtain ⟨s, named, latest, node, resolved⟩ := h.sessions file mem
  exact ⟨s, named, latest, store.loaded_eq_ok.2
    ⟨SessionFormat.text s, FileTree.read_eq_ok.2 ⟨_, resolved, node⟩,
      LawfulSessionFormat.ofText_text s⟩, resolved⟩

/-- Whatever is loaded is a session that has begun. -/
theorem latest_of_loaded [LawfulSessionFormat] {file : String} {row : UInt32} {now : Timestamp}
    {s : Session} (loaded : store.loaded state.tree file = .ok s)
    (inside : ¬(StoreStep.advance file row now).Fetches store before state.tree) :
    s.IsLatest state.begun := by
  obtain ⟨content, read, decoded⟩ := store.loaded_eq_ok.1 loaded
  obtain ⟨place, resolved, node⟩ := FileTree.read_eq_ok.1 read
  have stored : ∀ f, place = f :: home → s.IsLatest state.begun := by
    rintro f rfl
    obtain ⟨s', -, latest, node', -⟩ := h.sessions f (h.only f (by rw [node]; rfl))
    obtain rfl : content = SessionFormat.text s' := by simpa [node] using node'
    obtain rfl : s' = s := Except.ok.inj ((LawfulSessionFormat.ofText_text s').symm.trans decoded)
    exact latest
  rcases h.elsewhere place content node with ⟨f, there⟩ | earlier
  · exact stored f there
  · by_cases out : '/' ∈ file.toList ∨ file = ".."
    · exact absurd ⟨out, place, content, s, resolved, earlier, decoded⟩ inside
    · obtain ⟨plain, notUp⟩ := not_or.1 out
      obtain ⟨home', walked, last⟩ := FileTree.resolve_join plain resolved
      obtain rfl := h.home_eq walked
      obtain ⟨folder, ⟨-, rfl⟩ | ⟨up, -⟩ | ⟨-, inside⟩⟩ := FileTree.walk_singleton last
      · rw [folder] at node
        cases node
      · exact absurd up notUp
      · exact stored file inside

theorem create (name : String) (now : Timestamp) :
    store.Stocked before home (store.next state (.create name now)) := by
  have run : (store.perform (.create name now)).run state.tree = _ :=
    store.run_create name now state.tree
  by_cases stem : fileStem name = []
  · rw [if_pos stem] at run
    rw [next_of_error _ run]
    exact h
  · rw [if_neg stem, h.listed] at run
    dsimp only at run
    rw [List.length_mergeSort, h.length_namesIn] at run
    rcases h.save (.fresh (UInt64.ofNat (fileCount state.begun)) name) now with
      ⟨e, failed⟩ | ⟨saved, resolved, free⟩
    · rw [next_of_error _ (run.trans failed)]
      exact h
    · rw [next_of_ok _ (run.trans saved)]
      refine h.put (s := ⟨UInt64.ofNat (fileCount state.begun), name, 0, now⟩) resolved free
        ⟨state.begun, [], rfl, by simp, rfl⟩ ?_ ?_ ?_
      · intro name' mem
        rcases List.mem_append.1 mem with old | new
        · exact h.named name' old
        · rwa [List.mem_singleton.1 new]
      · intro file
        rw [StoreStep.names, List.map_append, List.mem_append, List.map_singleton,
          List.mem_singleton, or_comm]
        rfl
      · exact fun s' other latest => latest.append other

theorem advance [LawfulSessionFormat] {file : String} {row : UInt32} (now : Timestamp)
    (inside : ¬(StoreStep.advance file row now).Fetches store before state.tree) :
    store.Stocked before home (store.next state (.advance file row now)) := by
  have run : (store.perform (.advance file row now)).run state.tree = _ :=
    store.run_advance file row now state.tree
  cases loaded : store.loaded state.tree file with
  | error e =>
    rw [loaded] at run
    rw [next_of_error _ run]
    exact h
  | ok s =>
    have latest := h.latest_of_loaded loaded inside
    rw [loaded] at run
    dsimp only at run
    rcases h.save { s with row } now with ⟨e, failed⟩ | ⟨saved, resolved, free⟩
    · rw [next_of_error _ (run.trans failed)]
      exact h
    · rw [next_of_ok _ (run.trans saved), StoreStep.names, List.append_nil]
      refine h.put (s := { s with row, modified := now }) resolved free latest h.named ?_ ?_
      · exact fun file => ⟨.inr, fun mem => mem.elim (fun same => same ▸ latest.mem) id⟩
      · exact fun s' _ latest' => latest'

theorem step [LawfulSessionFormat] (step : StoreStep)
    (inside : ¬step.Fetches store before state.tree) :
    store.Stocked before home (store.next state step) := by
  cases step with
  | create name now => exact h.create name now
  | advance file row now => exact h.advance now inside

omit h in
/-- Folders that were made before do not matter. -/
theorem of_adds (adds : before.AddsFolders t) (h : store.Stocked t home state) :
    store.Stocked before home state :=
  ⟨h.resolved, h.folder, h.named, h.only, h.sessions, fun place content node =>
    (h.elsewhere place content node).imp_right adds.file_iff.1⟩

end Stocked

theorem stocked_of_empty (adds : t.AddsFolders u) (empty : u.list store.directory = .ok []) :
    ∃ home, store.Stocked t home ⟨u, []⟩ := by
  obtain ⟨home, resolved, there, none⟩ := FileTree.list_eq_ok.1 empty
  refine ⟨home, resolved, there, by simp, fun file inside => ?_, by simp, ?_⟩
  · rw [← FileTree.mem_namesIn, none] at inside
    cases inside
  · exact fun place content node => .inr (adds.file_iff.1 node)

namespace Absent

variable (h : store.Absent t)
include h

/-- Nothing can be loaded yet. -/
theorem not_loaded {file : String} {row : UInt32} {now : Timestamp}
    (inside : ¬(StoreStep.advance file row now).Fetches store t t) (s : Session) :
    store.loaded t file ≠ .ok s := by
  intro loaded
  obtain ⟨content, read, decoded⟩ := store.loaded_eq_ok.1 loaded
  obtain ⟨place, resolved, node⟩ := FileTree.read_eq_ok.1 read
  by_cases out : '/' ∈ file.toList ∨ file = ".."
  · exact inside ⟨out, place, content, s, resolved, node, decoded⟩
  · obtain ⟨home, walked, last⟩ := FileTree.resolve_join (not_or.1 out).1 resolved
    have there := (FileTree.walk_singleton last).1
    have names := FileTree.list_eq_ok.2
      ⟨home, FileTree.resolve_of_walk_outer h.pathFault_eq_none walked there, there, rfl⟩
    rw [h.missing] at names
    cases names

/-- A session begins as it does in the empty folder that is made for it. -/
theorem run_create_made {made : FileTree} {home : FilePlace}
    (folder : t.makeFolders store.directory = (.ok (), made))
    (stocked : store.Stocked t home ⟨made, []⟩) (name : String) (now : Timestamp) :
    (store.create name now : Doing Session).run t =
      if fileStem name = [] then (.error (.emptyName name), t)
      else (store.create name now : Doing Session).run made := by
  have empty : (made.namesIn home).length = 0 := stocked.length_namesIn
  rw [run_create, run_create, store.listed_of_missing h.missing, stocked.listed]
  dsimp only
  rw [List.length_mergeSort, empty, run_save, run_save, folder, stocked.makeFolders]
  by_cases stem : fileStem name = []
  · rw [if_pos stem, if_pos stem]
  · simp only [if_neg stem, List.length_nil]

/-- A step leaves the folder absent or makes it. -/
theorem create (name : String) (now : Timestamp) :
    (∃ u, t.AddsFolders u ∧ store.Absent u ∧ store.next ⟨t, []⟩ (.create name now) = ⟨u, []⟩) ∨
      ∃ home, store.Stocked t home (store.next ⟨t, []⟩ (.create name now)) := by
  have run : (store.perform (.create name now)).run t = _ := store.run_create name now t
  have adds := t.makeFolders_adds store.directory
  by_cases stem : fileStem name = []
  · rw [if_pos stem] at run
    exact .inl ⟨t, .refl t, h, next_of_error _ run⟩
  · rcases folder : t.makeFolders store.directory with ⟨outcome, made⟩
    have after : store.tried t = made := congrArg Prod.snd folder
    rw [folder] at adds
    cases outcome with
    | error e =>
      rw [if_neg stem, store.listed_of_missing h.missing] at run
      dsimp only at run
      rw [run_save, folder] at run
      have failed : store.next ⟨t, []⟩ (.create name now) = ⟨made, []⟩ := next_of_error _ run
      rcases h.empty 1 with missing | empty
      · exact .inl ⟨made, adds, after ▸ h.tried missing, failed⟩
      · rw [failed]
        exact .inr (stocked_of_empty adds (after ▸ empty))
    | ok _ =>
      obtain ⟨home, stocked⟩ := stocked_of_empty adds (h.list_of_made folder)
      have same : store.next ⟨t, []⟩ (.create name now) =
          store.next ⟨made, []⟩ (.create name now) := by
        have begins := h.run_create_made folder stocked name now
        rw [if_neg stem] at begins
        simp only [next, perform, begins]
      rw [same]
      exact .inr ⟨home, stocked.create name now⟩

theorem step (step : StoreStep) (inside : ¬step.Fetches store t t) :
    (∃ u, t.AddsFolders u ∧ store.Absent u ∧ store.next ⟨t, []⟩ step = ⟨u, []⟩) ∨
      ∃ home, store.Stocked t home (store.next ⟨t, []⟩ step) := by
  cases step with
  | create name now => exact h.create name now
  | advance file row now =>
    have run : (store.perform (.advance file row now)).run t = _ :=
      store.run_advance file row now t
    cases loaded : store.loaded t file with
    | error e =>
      rw [loaded] at run
      exact .inl ⟨t, .refl t, h, next_of_error _ run⟩
    | ok s => exact absurd loaded (h.not_loaded inside s)

end Absent

theorem StaysInside.append {steps : List StoreStep} {step : StoreStep}
    (inside : store.StaysInside t (steps ++ [step])) :
    store.StaysInside t steps ∧ ¬step.Fetches store t (store.after t steps).tree := by
  refine ⟨fun earlier other later all => ?_, inside steps step [] rfl⟩
  exact inside earlier other (later ++ [step]) (by rw [all]; simp)

theorem fetches_of_adds (adds : t.AddsFolders u) {tree : FileTree} {step : StoreStep}
    (fetches : step.Fetches store u tree) : step.Fetches store t tree := by
  cases step with
  | create name now => exact fetches
  | advance file row now =>
    obtain ⟨out, place, content, s, resolved, node, decoded⟩ := fetches
    exact ⟨out, place, content, s, resolved, adds.file_iff.1 node, decoded⟩

/-- Either the folder of the store is still absent, or it has been made. -/
theorem after_absent_or_stocked [LawfulSessionFormat] (h : store.Absent t) (steps : List StoreStep)
    (inside : store.StaysInside t steps) :
    (∃ u, t.AddsFolders u ∧ store.Absent u ∧ store.after t steps = ⟨u, []⟩) ∨
      ∃ home, store.Stocked t home (store.after t steps) := by
  induction steps using List.reverseRecOn with
  | nil => exact .inl ⟨t, .refl t, h, rfl⟩
  | append_singleton steps step ih =>
    obtain ⟨before, last⟩ := inside.append
    rw [after, List.foldl_append, List.foldl_cons, List.foldl_nil, ← after]
    rcases ih before with ⟨u, adds, absent, same⟩ | ⟨home, stocked⟩
    · rw [same] at last ⊢
      rcases absent.step step fun fetches => last (fetches_of_adds adds fetches) with
        ⟨u', adds', absent', same'⟩ | ⟨home, stocked⟩
      · exact .inl ⟨u', adds.trans adds', absent', same'⟩
      · exact .inr ⟨home, stocked.of_adds adds⟩
    · exact .inr ⟨home, stocked.step step last⟩

end Knitting.SessionStore
