import Knitting.Files.Basic
import Knitting.Files.Path

/-! # File trees

Files and folders by their place, which is the list of names that leads to them, the innermost
first. The root is the empty place and always a folder.
-/
namespace Knitting

abbrev FilePlace := List String

inductive Node where
  | folder
  | file (content : String)
  deriving DecidableEq, Repr

/-- Everything below the root, and the working folder. -/
structure FileTree where
  entries : List (FilePlace × Node) := []
  current : FilePlace := []
  nodup : (entries.map Prod.fst).Nodup := by simp
  deriving DecidableEq, Repr

namespace FileTree

def node? (t : FileTree) (place : FilePlace) : Option Node :=
  if place = [] then some .folder else t.entries.lookup place

theorem nodup_filter_entries (t : FileTree) (keep : FilePlace × Node → Bool) :
    ((t.entries.filter keep).map Prod.fst).Nodup :=
  t.nodup.sublist (List.filter_sublist.map Prod.fst)

def erase (t : FileTree) (place : FilePlace) : FileTree :=
  { t with
    entries := t.entries.filter (·.1 ≠ place)
    nodup := t.nodup_filter_entries _ }

theorem not_mem_erase (t : FileTree) (place : FilePlace) :
    place ∉ (t.erase place).entries.map Prod.fst := by
  simp [erase]

def put (t : FileTree) (place : FilePlace) (node : Node) : FileTree :=
  { t with
    entries := (place, node) :: (t.erase place).entries
    nodup := List.nodup_cons.2 ⟨t.not_mem_erase place, (t.erase place).nodup⟩ }

def namesIn (t : FileTree) (folder : FilePlace) : List String :=
  t.entries.filterMap fun
    | (name :: place, _) => if place = folder then some name else none
    | ([], _) => none

def nameLimit : Nat := 255

def pathLimit : Nat := 4096

/-- The place that names lead to from `place`. Each but the last has to be that of a folder. -/
def walk (t : FileTree) (place : FilePlace) : List String → Except FileError FilePlace
  | [] => .ok place
  | name :: names =>
    match t.node? place with
    | none => .error .missing
    | some (.file _) => .error .notFolder
    | some .folder =>
      if name = "" ∨ name = "." then t.walk place names
      else if name = ".." then t.walk place.tail names
      else if nameLimit < name.utf8ByteSize then .error .nameTooLong
      else t.walk (name :: place) names

def origin (t : FileTree) (path : String) : FilePlace :=
  if Path.isAbsolute path then [] else t.current

/-- What is wrong with a path, wherever it leads. -/
def pathFault (path : String) : Option FileError :=
  if '\x00' ∈ path.toList then some .nulInName
  else if path = "" then some .missing
  else if pathLimit ≤ path.utf8ByteSize then some .nameTooLong
  else none

/-- The place that a path leads to, whether anything is there or not. -/
def resolve (t : FileTree) (path : String) : Except FileError FilePlace :=
  match pathFault path with
  | some e => .error e
  | none => t.walk (t.origin path) (Path.names path)

def read (t : FileTree) (path : String) : Except FileError String :=
  match t.resolve path with
  | .error e => .error e
  | .ok place =>
    match t.node? place with
    | none => .error .missing
    | some .folder => .error .isFolder
    | some (.file content) => .ok content

def list (t : FileTree) (path : String) : Except FileError (List String) :=
  match t.resolve path with
  | .error e => .error e
  | .ok place =>
    match t.node? place with
    | none => .error .missing
    | some (.file _) => .error .notFolder
    | some .folder => .ok (t.namesIn place)

def write (t : FileTree) (path content : String) : Except FileError FileTree :=
  match t.resolve path with
  | .error e => .error e
  | .ok place =>
    match t.node? place with
    | some .folder => .error .isFolder
    | _ => .ok (t.put place (.file content))

def leadsToFolder (t : FileTree) (start : FilePlace) (names : List String) : Bool :=
  match t.walk start names with
  | .error _ => false
  | .ok place => t.node? place = some .folder

section Making
-- A disk may refuse to make a folder, for whatever reason.
variable (refuse : FileTree → FilePlace → Option FileError)

/-- Makes the folder that names lead to; those around it have to be there. -/
def makeFolder (t : FileTree) (start : FilePlace) (names : List String) :
    Except FileError FileTree :=
  match t.walk start names with
  | .error e => .error e
  | .ok place =>
    match t.node? place with
    | some _ => .error .present
    | none =>
      match refuse t place with
      | some e => .error e
      | none => .ok (t.put place .folder)

/-- One try at a folder: the tree to go on with, or nothing if a folder around it is missing. -/
def tryFolder (t : FileTree) (start : FilePlace) (names : List String) :
    Option (Except FileError Unit × FileTree) :=
  match t.makeFolder refuse start names with
  | .ok made => some (.ok (), made)
  | .error .missing => none
  | .error e => some (if t.leadsToFolder start names then .ok () else .error e, t)

/-- Makes a folder. If one around it is missing, `around` makes those first; folders that have been
made stay, even if a later one fails. -/
def withFolders (t : FileTree) (around : FileTree → Except FileError Unit × FileTree)
    (start : FilePlace) (names : List String) : Except FileError Unit × FileTree :=
  match t.tryFolder refuse start names with
  | some result => result
  | none =>
    match around t with
    | (.error e, made) => (.error e, made)
    | (.ok (), made) => (made.tryFolder refuse start names).getD (.error .missing, made)

/-- Makes the folder that names, the innermost first, lead to, and the missing ones around it. -/
def makeFolderPath (start : FilePlace) : List String → FileTree → Except FileError Unit × FileTree
  | [], t => (.ok (), t)
  | name :: outer, t =>
    t.withFolders refuse (makeFolderPath start outer) start (name :: outer).reverse

def makeFoldersUnless (t : FileTree) (path : String) : Except FileError Unit × FileTree :=
  match pathFault path with
  | some .missing => (.ok (), t)
  | some e => (.error e, t)
  | none =>
    let start := t.origin path
    let names := (Path.names path).filter (· ≠ "")
    let around := (names.filter (· ≠ ".")).reverse.tail
    t.withFolders refuse (makeFolderPath refuse start around) start names

end Making

/-- Makes folders on a disk that refuses none. -/
def makeFolders (t : FileTree) (path : String) : Except FileError Unit × FileTree :=
  t.makeFoldersUnless (fun _ _ => none) path

instance : Files (StateM FileTree) where
  read path := fun t => (t.read path, t)
  list path := fun t => (t.list path, t)
  write path content := fun t =>
    match t.write path content with
    | .ok written => (.ok (), written)
    | .error e => (.error e, t)
  makeFolders path := fun t => t.makeFolders path

end FileTree

end Knitting
