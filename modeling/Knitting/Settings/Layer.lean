import Knitting.Settings.Basic
import Knitting.Settings.KeyPath
import Knitting.Toml.Reader

/-! # Layers of settings

Files are laid over the usual settings in their order, and single values over all files. A file
that has to be there is an error if it is missing.
-/
namespace Knitting

/-- A layer; a file that is not there has no content. -/
inductive Layer where
  | file (content : Option String)
  | optionalFile (content : Option String)
  | policy (p : Policy)
  | set (key : String) (value : Setting)
  deriving Repr

/-- How files are read, and how values are put in their places. Where several are given at once, as
in a file, they are gone through in an order of its own. -/
class Layering where
  entries? : String → Option (List (String × Setting))
  put : Setting → KeyPath → Setting → Setting
  arrange : List (KeyPath × Setting) → List (KeyPath × Setting)

instance : Layering := ⟨Toml.parse?, Setting.set, id⟩

namespace Layer

/-- The value that a layer lays over all files, and its key. -/
def override? : Layer → Option (String × Setting)
  | .policy p => some ("compile.policy", .text p.text)
  | .set key value => some (key, value)
  | _ => none

def entries [Layering] : Layer → Except SettingsError (List (String × Setting))
  | .file none => .error .missingFile
  | .file (some text) | .optionalFile (some text) =>
    match Layering.entries? text with
    | some es => .ok es
    | none => .error .malformedFile
  | _ => .ok []

end Layer

namespace Settings

def usual : Setting :=
  .table [("compile", .table [("policy", .text Policy.strict.text)]),
    ("chart", .table [("alternate_rows", .flag true), ("row_numbers", .flag false)]),
    ("session", .table [("directory", .text "lib")])]

/-- The values that are laid over all files, with the paths of their keys; `n` layers come first. -/
def overrides (n : Nat) : List Layer → Except SettingsError (List (KeyPath × Setting))
  | [] => .ok []
  | layer :: layers =>
    match layer.override? with
    | none => overrides (n + 1) layers
    | some (key, value) =>
      match KeyPath.ofText? key with
      | none => .error (.malformedKey n)
      | some path => (overrides (n + 1) layers).map ((path, value) :: ·)

/-- The values whose path is not given another value later. -/
def latest : List (KeyPath × Setting) → List (KeyPath × Setting)
  | [] => []
  | (path, value) :: values =>
    if path ∈ values.map Prod.fst then latest values else (path, value) :: latest values

section Merged
variable [Layering]

def putAll (s : Setting) (values : List (KeyPath × Setting)) : Setting :=
  values.foldl (fun s (path, value) => Layering.put s path value) s

/-- Settings with the entries of a file laid over them. A key that is no path is taken as it is. -/
def addFile (s : Setting) (es : List (String × Setting)) : Setting :=
  putAll s (Layering.arrange
    (es.map fun (key, value) => ((KeyPath.ofText? key).getD ⟨key, []⟩, value)))

def merged (layers : List Layer) : Except SettingsError Setting := do
  let values ← overrides 0 layers
  let files ← layers.mapM Layer.entries
  return putAll (files.foldl addFile usual) (Layering.arrange (latest values))

def load (layers : List Layer) : Except SettingsError Settings := do
  ofSetting (← merged layers)

end Merged

end Settings

end Knitting
