import Knitting.Proofs.Files.Path
import Knitting.Proofs.Session.Record
import Knitting.Session.Store

/-! # The store in a file tree

What each operation of the store does to the tree its files are in. Loading and listing leave it as
it is; whatever is saved first makes the folder of the store and then writes one file.
-/
namespace Knitting

theorem toList_sessionFileName (name : String) :
    (sessionFileName name).toList = fileStem name ++ sessionEnding := String.toList_ofList

/-- The name of a session file leads to something in the folder of the store. -/
theorem isName_sessionFileName (name : String) : Path.IsName (sessionFileName name) := by
  have slash : '/' ∉ (sessionFileName name).toList := by
    rw [toList_sessionFileName, List.mem_append]
    rintro (stem | ending)
    · exact absurd (isFileChar_of_mem_fileStem stem) (by decide)
    · exact absurd ending (by decide)
  have long : ∀ file : String, file.toList.length < 5 → sessionFileName name ≠ file := by
    rintro file short rfl
    rw [toList_sessionFileName, List.length_append] at short
    have ending : sessionEnding.length = 5 := by decide
    omega
  exact ⟨slash, long "" (by decide), long "." (by decide), long ".." (by decide)⟩

theorem isSessionFile_sessionFileName (name : String) :
    SessionStore.isSessionFile (sessionFileName name) = true := by
  rw [SessionStore.isSessionFile, toList_sessionFileName, List.isSuffixOf_iff_suffix]
  exact List.suffix_append _ _

/-- A format in which whatever has been written is read as it was. -/
class LawfulSessionFormat [SessionFormat] : Prop where
  ofText_text (s : Session) : SessionFormat.ofText (SessionFormat.text s) = .ok s

instance : LawfulSessionFormat := ⟨Session.ofText_text⟩

namespace SessionStore

/-- Something that is done with a store whose files are in a tree. -/
abbrev Doing (α : Type) := ExceptT StoreError (StateM FileTree) α

section Run
variable {σ α β : Type}

theorem run_files (x : StateM σ α) (f : α → ExceptT StoreError (StateM σ) β) (s : σ) :
    (liftM x >>= f).run s = (f (x s).1).run (x s).2 := rfl

theorem run_bind (x : ExceptT StoreError (StateM σ) α) (f : α → ExceptT StoreError (StateM σ) β)
    (s : σ) :
    (x >>= f).run s =
      match x.run s with
      | (.ok a, s') => (f a).run s'
      | (.error e, s') => (.error e, s') := by
  change (ExceptT.bindCont f (x s).1) (x s).2 = _
  unfold ExceptT.run
  rcases x s with ⟨_ | a, s'⟩ <;> rfl

end Run

variable (store : SessionStore) {t u : FileTree} {file : String} {s : Session}

theorem run_list_eq (t : FileTree) :
    (store.list : Doing (List String)).run t =
      (match t.list store.directory with
        | .ok names => .ok (names.filter isSessionFile).mergeSort
        | .error .missing => .ok []
        | .error e => .error (.files store.directory e), t) := by
  rw [list, run_files]
  dsimp only [Files.list]
  cases t.list store.directory with
  | ok names => rfl
  | error e => cases e <;> rfl

def listed (t : FileTree) : Except StoreError (List String) :=
  ((store.list : Doing (List String)).run t).1

theorem run_list (t : FileTree) :
    (store.list : Doing (List String)).run t = (store.listed t, t) := by
  rw [listed, run_list_eq]

theorem listed_of_list {names : List String} (h : t.list store.directory = .ok names) :
    store.listed t = .ok (names.filter isSessionFile).mergeSort := by
  rw [listed, run_list_eq, h]

theorem listed_of_missing (h : t.list store.directory = .error .missing) :
    store.listed t = .ok [] := by
  rw [listed, run_list_eq, h]

section Stored
variable [SessionFormat]

theorem run_load_eq (file : String) (t : FileTree) :
    (store.load file : Doing Session).run t =
      (match t.read (store.path file) with
        | .error e => .error (.files (store.path file) e)
        | .ok content =>
          (SessionFormat.ofText content).mapError (.unreadable (store.path file)), t) := by
  rw [load, run_files]
  dsimp only [Files.read]
  cases t.read (store.path file) with
  | error e => rfl
  | ok content =>
    dsimp only
    cases SessionFormat.ofText content <;> rfl

def loaded (t : FileTree) (file : String) : Except StoreError Session :=
  ((store.load file : Doing Session).run t).1

theorem run_load (file : String) (t : FileTree) :
    (store.load file : Doing Session).run t = (store.loaded t file, t) := by
  rw [loaded, run_load_eq]

theorem loaded_eq_ok : store.loaded t file = .ok s ↔
    ∃ content, t.read (store.path file) = .ok content ∧ SessionFormat.ofText content = .ok s := by
  rw [loaded, run_load_eq]
  cases t.read (store.path file) with
  | error e => simp
  | ok content => cases decoded : SessionFormat.ofText content <;> simp [Except.mapError, decoded]

theorem run_save (s : Session) (now : Timestamp) (t : FileTree) :
    (store.save s now : Doing Session).run t =
      match t.makeFolders store.directory with
      | (.error e, made) => (.error (.files store.directory e), made)
      | (.ok _, made) =>
        match made.write (store.path s.fileName)
            (SessionFormat.text { s with modified := now }) with
        | .error e => (.error (.files (store.path s.fileName) e), made)
        | .ok written => (.ok { s with modified := now }, written) := by
  have name : ({ s with modified := now } : Session).fileName = s.fileName := rfl
  rw [save, run_files]
  dsimp only [Files.makeFolders]
  rcases t.makeFolders store.directory with ⟨_ | _, made⟩
  · rfl
  · dsimp only
    rw [run_files]
    dsimp only [Files.write]
    rw [name]
    cases made.write (store.path s.fileName) (SessionFormat.text { s with modified := now }) <;> rfl

theorem run_create (name : String) (now : Timestamp) (t : FileTree) :
    (store.create name now : Doing Session).run t =
      if fileStem name = [] then (.error (.emptyName name), t)
      else
        match store.listed t with
        | .error e => (.error e, t)
        | .ok files =>
          (store.save (.fresh (UInt64.ofNat files.length) name) now : Doing Session).run t := by
  rw [create]
  by_cases empty : fileStem name = []
  · rw [if_pos empty, if_pos empty]
    rfl
  · rw [if_neg empty, if_neg empty]
    dsimp only
    rw [run_bind, run_list]
    cases store.listed t <;> rfl

theorem run_advance (file : String) (row : UInt32) (now : Timestamp) (t : FileTree) :
    (store.advance file row now : Doing Session).run t =
      match store.loaded t file with
      | .error e => (.error e, t)
      | .ok s => (store.save { s with row } now : Doing Session).run t := by
  rw [advance, run_bind, run_load]
  cases store.loaded t file <;> rfl

end Stored

end SessionStore

end Knitting
