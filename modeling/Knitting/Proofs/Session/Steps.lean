import Knitting.Proofs.Files.Made
import Knitting.Proofs.Session.Store
import Mathlib.Data.List.Dedup

/-! # Steps of a store

The uses of a store, one after the other, from a folder that is not there yet. The names of the
sessions that have begun are kept beside the tree.
-/
namespace Knitting

/-- One use of a store: a session begins, or one that is there is moved to a row. -/
inductive StoreStep where
  | create (name : String) (now : Timestamp)
  | advance (file : String) (row : UInt32) (now : Timestamp)

/-- A session that was there before is read from a file whose path leads out of the folder of the
store. It is saved in the folder. -/
def StoreStep.Fetches [SessionFormat] (store : SessionStore) (before tree : FileTree) :
    StoreStep → Prop
  | .create _ _ => False
  | .advance file _ _ => ('/' ∈ file.toList ∨ file = "..") ∧
      ∃ place content s, tree.resolve (store.path file) = .ok place ∧
        before.node? place = some (.file content) ∧ SessionFormat.ofText content = .ok s

def StoreStep.names : StoreStep → List String
  | .create name _ => [name]
  | .advance _ _ _ => []

/-- The tree, and the names of the sessions that have begun, in this order. -/
structure StoreState where
  tree : FileTree
  begun : List String := []

/-- The number of session files once sessions of these names have begun. -/
def fileCount (names : List String) : Nat := (names.map sessionFileName).dedup.length

def Session.IsLatest (s : Session) (begun : List String) : Prop :=
  ∃ earlier later, begun = earlier ++ s.name :: later ∧
    s.fileName ∉ later.map sessionFileName ∧ s.id = UInt64.ofNat (fileCount earlier)

namespace Session.IsLatest

variable {s : Session} {begun : List String} {name : String}

theorem mem (h : s.IsLatest begun) : s.fileName ∈ begun.map sessionFileName := by
  obtain ⟨earlier, later, rfl, -, -⟩ := h
  exact List.mem_map_of_mem (by simp)

theorem append (h : s.IsLatest begun) (other : s.fileName ≠ sessionFileName name) :
    s.IsLatest (begun ++ [name]) := by
  obtain ⟨earlier, later, rfl, last, number⟩ := h
  refine ⟨earlier, later ++ [name], by simp, ?_, number⟩
  rw [List.map_append, List.mem_append]
  rintro (mem | mem)
  · exact last mem
  · exact other (List.mem_singleton.1 mem)

end Session.IsLatest

namespace SessionStore

variable (store : SessionStore)

section Stored
variable [SessionFormat]

def perform : StoreStep → Doing Session
  | .create name now => store.create name now
  | .advance file row now => store.advance file row now

def next (state : StoreState) (step : StoreStep) : StoreState :=
  match (store.perform step).run state.tree with
  | (.ok _, tree) => ⟨tree, state.begun ++ step.names⟩
  | (.error _, tree) => ⟨tree, state.begun⟩

def after (t : FileTree) (steps : List StoreStep) : StoreState := steps.foldl store.next ⟨t, []⟩

/-- No step fetches a session from outside the folder of the store. -/
def StaysInside (t : FileTree) (steps : List StoreStep) : Prop :=
  ∀ earlier step later, steps = earlier ++ step :: later →
    ¬step.Fetches store t (store.after t earlier).tree

/-- Where no file is that of a session, none is fetched. -/
theorem staysInside_of_none {t : FileTree}
    (none : ∀ place content, t.node? place = some (.file content) →
      ∀ s, SessionFormat.ofText content ≠ .ok s) (steps : List StoreStep) :
    store.StaysInside t steps := by
  rintro earlier step later - fetches
  cases step with
  | create name now => exact fetches
  | advance file row now =>
    obtain ⟨-, place, content, s, -, node, decoded⟩ := fetches
    exact none place content node s decoded

end Stored

def tried (t : FileTree) : FileTree := (t.makeFolders store.directory).2

/-- The folder of the store is not there. However often it is asked for, there is nothing in it, and
once it has been made, it is there. -/
structure Absent (t : FileTree) : Prop where
  missing : t.list store.directory = .error .missing
  empty : ∀ n, (store.tried^[n] t).list store.directory = .error .missing ∨
    (store.tried^[n] t).list store.directory = .ok []
  made : ∀ n, ((store.tried^[n] t).makeFolders store.directory).1 = .ok () →
    (store.tried^[n + 1] t).list store.directory ≠ .error .missing

variable {store} {t : FileTree}

theorem Absent.tried (h : store.Absent t)
    (missing : (store.tried t).list store.directory = .error .missing) :
    store.Absent (store.tried t) :=
  ⟨missing, fun n => h.empty (n + 1), fun n => h.made (n + 1)⟩

theorem Absent.list_of_made (h : store.Absent t) {made : FileTree}
    (folder : t.makeFolders store.directory = (.ok (), made)) :
    made.list store.directory = .ok [] := by
  have after : store.tried^[1] t = made := congrArg Prod.snd folder
  have empty := h.empty 1
  have there := h.made 0 (congrArg Prod.fst folder)
  rw [after] at empty there
  exact empty.resolve_left there

theorem Absent.pathFault_eq_none (h : store.Absent t) :
    FileTree.pathFault store.directory = none := by
  have missing := h.missing
  cases fault : FileTree.pathFault store.directory with
  | none => rfl
  | some e =>
    obtain rfl : e = .missing := by simpa [FileTree.list, FileTree.resolve, fault] using missing
    have made : t.makeFolders store.directory = (.ok (), t) := by
      rw [FileTree.makeFolders, FileTree.makeFoldersUnless, fault]
    rw [h.list_of_made made] at missing
    cases missing

/-- A folder that is missing at the end of a path that goes straight on. -/
theorem absent_of_straight (closed : t.Closed) (straight : t.Straight store.directory)
    (sound : FileTree.pathFault store.directory = none)
    (missing : t.list store.directory = .error .missing) : store.Absent t := by
  have along (n : Nat) : t.AddsFolders (store.tried^[n] t) ∧
      FileTree.ChangedAlong (t.origin store.directory)
        (fun part => FileTree.leading part <+: FileTree.leading (Path.names store.directory)) t
        (store.tried^[n] t) := by
    induction n with
    | zero => exact ⟨.refl t, .refl t⟩
    | succ n ih =>
      obtain ⟨adds, along⟩ := ih
      rw [Function.iterate_succ_apply']
      have further := (store.tried^[n] t).makeFoldersUnless_along (fun _ _ => none) store.directory
      have origin : (store.tried^[n] t).origin store.directory = t.origin store.directory := by
        simp only [FileTree.origin, adds.current]
      rw [origin] at further
      exact ⟨adds.trans (FileTree.makeFolders_adds _ _), along.trans further⟩
  refine ⟨missing, fun n => ?_, fun n done => ?_⟩
  · obtain ⟨adds, along⟩ := along n
    exact FileTree.list_of_changedAlong closed straight missing adds along
  · rw [Function.iterate_succ_apply']
    exact FileTree.list_ne_missing_of_made _ sound (Prod.ext done rfl)

theorem absent_lib : (⟨"lib"⟩ : SessionStore).Absent {} :=
  absent_of_straight (by decide) (FileTree.straight_of_names (by decide) _) (by decide)
    (by decide +kernel)

end SessionStore

end Knitting
