import Knitting.Proofs.Files.Made
import Knitting.Proofs.Session.Store

/-! # What a failure leaves

An operation of a store that fails has written no file. It may have made the folder of the store or
some of those around it; the store is listed as before unless the path of its folder does not go
straight on where a folder was missing.
-/
namespace Knitting

inductive DiskUse where
  | read (path : String)
  | list (path : String)
  | write (path content : String)
  | makeFolder (place : FilePlace)

/-- A tree of files on a disk that may refuse anything, for whatever reason: what stands in a file
is no text, say, or nobody may look into a folder, or there is no room left. -/
structure Disk where
  tree : FileTree
  refusal? : FileTree → DiskUse → Option FileError := fun _ _ => none
  closed : tree.Closed

namespace Disk

def read (d : Disk) (path : String) : Except FileError String :=
  match d.refusal? d.tree (.read path) with
  | some e => .error e
  | none => d.tree.read path

def list (d : Disk) (path : String) : Except FileError (List String) :=
  match d.refusal? d.tree (.list path) with
  | some e => .error e
  | none => d.tree.list path

/-- A file is written as a whole or not at all. -/
def write (d : Disk) (path content : String) : Except FileError Disk :=
  match d.refusal? d.tree (.write path content) with
  | some e => .error e
  | none =>
    match written : d.tree.write path content with
    | .error e => .error e
    | .ok tree => .ok ⟨tree, d.refusal?, d.closed.write written⟩

/-- Folders are made one by one, up to the first that is refused. -/
def makeFolders (d : Disk) (path : String) : Except FileError Unit × FileTree :=
  d.tree.makeFoldersUnless (fun t place => d.refusal? t (.makeFolder place)) path

def withFolders (d : Disk) (path : String) : Disk :=
  ⟨(d.makeFolders path).2, d.refusal?, d.closed.makeFoldersUnless _ path⟩

instance : Files (StateM Disk) where
  read path := fun d => (d.read path, d)
  list path := fun d => (d.list path, d)
  write path content := fun d =>
    match d.write path content with
    | .ok written => (.ok (), written)
    | .error e => (.error e, d)
  makeFolders path := fun d => ((d.makeFolders path).1, d.withFolders path)

end Disk

namespace SessionStore

abbrev OnDisk (α : Type) := ExceptT StoreError (StateM Disk) α

inductive Request where
  | create (name : String) (now : Timestamp)
  | load (file : String)
  | advance (file : String) (row : UInt32) (now : Timestamp)

variable (store : SessionStore) {d d' : Disk} {e : StoreError}

def answer [SessionFormat] : Request → OnDisk Session
  | .create name now => store.create name now
  | .load file => store.load file
  | .advance file row now => store.advance file row now

def listedOn (d : Disk) : Except StoreError (List String) :=
  ((store.list : OnDisk (List String)).run d).1

theorem run_list_onDisk (d : Disk) :
    (store.list : OnDisk (List String)).run d = (store.listedOn d, d) := by
  rw [listedOn, list, run_files]
  dsimp only [Files.list]
  cases d.list store.directory with
  | ok names => rfl
  | error e => cases e <;> rfl

theorem run_load_onDisk [SessionFormat] (file : String) (d : Disk) :
    ∃ loaded, (store.load file : OnDisk Session).run d = (loaded, d) := by
  rw [load, run_files]
  dsimp only [Files.read]
  cases d.read (store.path file) with
  | error e => exact ⟨_, rfl⟩
  | ok content =>
    dsimp only
    cases SessionFormat.ofText content <;> exact ⟨_, rfl⟩

/-- What a disk lists where it refuses nothing is what its tree has there. -/
theorem listedOn_eq (d : Disk) :
    store.listedOn d =
      match d.refusal? d.tree (.list store.directory) with
      | none => store.listed d.tree
      | some .missing => .ok []
      | some e => .error (.files store.directory e) := by
  rw [listedOn, listed, run_list_eq, list, run_files]
  dsimp only [Files.list, Disk.list]
  cases d.refusal? d.tree (.list store.directory) with
  | none =>
    dsimp only
    cases d.tree.list store.directory with
    | ok names => rfl
    | error e => cases e <;> rfl
  | some e => cases e <;> rfl

/-- Saving that fails has made folders at most. -/
theorem disk_of_save [SessionFormat] {s : Session} {now : Timestamp}
    (failed : (store.save s now : OnDisk Session).run d = (.error e, d')) :
    d' = d.withFolders store.directory := by
  rw [save, run_files] at failed
  dsimp only [Files.makeFolders] at failed
  cases made : (d.makeFolders store.directory).1 with
  | error e' =>
    rw [made] at failed
    cases failed
    rfl
  | ok u =>
    rw [made] at failed
    dsimp only at failed
    rw [run_files] at failed
    dsimp only [Files.write] at failed
    cases written : (d.withFolders store.directory).write
        (store.path ({ s with modified := now } : Session).fileName)
        (SessionFormat.text { s with modified := now }) with
    | ok after =>
      -- The file is written last; nothing can fail behind it.
      rw [written] at failed
      cases failed
    | error e' =>
      rw [written] at failed
      cases failed
      rfl

theorem disk_of_failure [SessionFormat] (request : Request)
    (failed : (store.answer request : OnDisk Session).run d = (.error e, d')) :
    d' = d ∨ d' = d.withFolders store.directory := by
  cases request with
  | create name now =>
    rw [answer, create] at failed
    split_ifs at failed
    · cases failed
      exact .inl rfl
    · dsimp only at failed
      rw [run_bind, run_list_onDisk] at failed
      cases listing : store.listedOn d with
      | error e' =>
        rw [listing] at failed
        cases failed
        exact .inl rfl
      | ok files =>
        rw [listing] at failed
        exact .inr (store.disk_of_save failed)
  | load file =>
    obtain ⟨loaded, run⟩ := store.run_load_onDisk file d
    rw [answer, run] at failed
    exact .inl (Prod.mk.inj failed).2.symm
  | advance file row now =>
    obtain ⟨loaded, run⟩ := store.run_load_onDisk file d
    rw [answer, advance, run_bind, run] at failed
    cases loaded with
    | error e' =>
      cases failed
      exact .inl rfl
    | ok s => exact .inr (store.disk_of_save failed)

/-- No folder is made for a store that has its folder. -/
theorem tree_withFolders_of_list (d : Disk)
    (there : d.tree.list store.directory ≠ .error .missing) :
    (d.withFolders store.directory).tree = d.tree :=
  FileTree.makeFoldersUnless_of_list _ there

/-- Folders that are made for the store do not show in its list. -/
theorem listed_withFolders (d : Disk) (straight : d.tree.Straight store.directory) :
    store.listed (d.withFolders store.directory).tree = store.listed d.tree := by
  by_cases missing : d.tree.list store.directory = .error .missing
  · rw [store.listed_of_missing missing]
    obtain still | empty := FileTree.list_makeFoldersUnless _ d.closed straight missing
    · exact store.listed_of_missing still
    · exact (store.listed_of_list empty).trans (by simp)
  · rw [store.tree_withFolders_of_list d missing]

/-- An operation that fails leaves every file as it was, and the list of the store too, unless its
folder is missing and the path does not go straight on behind the first folder that is. A disk that
refuses to list a folder only once it is made makes the list another one, too. -/
theorem unchanged_of_failure [SessionFormat] (request : Request)
    (failed : (store.answer request : OnDisk Session).run d = (.error e, d')) :
    (∀ place content, d'.tree.node? place = some (.file content) ↔
      d.tree.node? place = some (.file content)) ∧
    (d.tree.list store.directory ≠ .error .missing → store.listedOn d' = store.listedOn d) ∧
    (d.tree.Straight store.directory →
      d.refusal? d'.tree (.list store.directory) = d.refusal? d.tree (.list store.directory) →
      store.listedOn d' = store.listedOn d) := by
  obtain rfl | rfl := store.disk_of_failure request failed
  · exact ⟨fun _ _ => .rfl, fun _ => rfl, fun _ _ => rfl⟩
  · have adds := d.tree.makeFoldersUnless_adds
      (fun t place => d.refusal? t (.makeFolder place)) store.directory
    refine ⟨fun _ _ => adds.file_iff, fun there => ?_, fun straight same => ?_⟩
    · have tree := store.tree_withFolders_of_list d there
      simp only [listedOn_eq, tree]
      rfl
    · have kept : (d.withFolders store.directory).refusal? = d.refusal? := rfl
      simp only [listedOn_eq, kept, same, store.listed_withFolders d straight]

theorem unchanged_on_full_disk :
    let store : SessionStore := ⟨"wool/shelf"⟩
    let full := FileError.other "No space left on device (os error 28)"
    let d : Disk := ⟨{}, fun | _, .write _ _ => some full | _, _ => none, by decide⟩
    let after := ((store.answer (.create "Hat" .epoch) : OnDisk Session).run d).2
    (store.answer (.create "Hat" .epoch) : OnDisk Session).run d =
        (.error (.files "wool/shelf/hat.json" full), after) ∧
      (∀ place content, after.tree.node? place = some (.file content) ↔
        d.tree.node? place = some (.file content)) ∧
      store.listedOn after = store.listedOn d := by
  intro store full d after
  have failed : (store.answer (.create "Hat" .epoch) : OnDisk Session).run d =
      (.error (.files "wool/shelf/hat.json" full), after) := Prod.ext (by decide +kernel) rfl
  obtain ⟨files, -, list⟩ := store.unchanged_of_failure _ failed
  exact ⟨failed, files, list (FileTree.straight_of_names (by decide) _) rfl⟩

/-- What stands in a file may be no text; it is listed all the same. -/
example :
    let store : SessionStore := ⟨"lib"⟩
    let garbled := FileError.other "stream did not contain valid UTF-8"
    let d : Disk := ⟨⟨[(["hat.json", "lib"], .file ""), (["lib"], .folder)], [], by decide⟩,
      fun | _, .read _ => some garbled | _, _ => none, by decide⟩
    store.listedOn d = .ok ["hat.json"] ∧
      ((store.answer (.load "hat.json") : OnDisk Session).run d).1 =
        .error (.files "lib/hat.json" garbled) := by
  decide +kernel

def crowded : Disk where
  tree := { entries := [(["shelf"], .folder), (["hat.json", "shelf"], .folder)] }
  closed := by decide

/-- The folder that is made for a store lets its path lead somewhere: to a folder that is there, or
to a name that is too long. -/
theorem listed_otherwise_after_failure :
    let turned : SessionStore := ⟨"new/../shelf"⟩
    let long : SessionStore := ⟨"deep/" ++ String.ofList (List.replicate 256 'n')⟩
    ((turned.answer (.create "Hat" .epoch) : OnDisk Session).run crowded).1 =
        .error (.files "new/../shelf/hat.json" .isFolder) ∧
      turned.listedOn crowded = .ok [] ∧
      turned.listedOn ((turned.answer (.create "Hat" .epoch) : OnDisk Session).run crowded).2 =
        .ok ["hat.json"] ∧
    ((long.answer (.create "Hat" .epoch) : OnDisk Session).run crowded).1 =
        .error (.files long.directory .nameTooLong) ∧
      long.listedOn crowded = .ok [] ∧
      long.listedOn ((long.answer (.create "Hat" .epoch) : OnDisk Session).run crowded).2 =
        .error (.files long.directory .nameTooLong) := by
  decide +kernel

end SessionStore
end Knitting
