import Knitting.Decimal.Shortest
import Knitting.Fabric.Basic
import Knitting.Report.Chart
import Knitting.Settings.Setting
import Knitting.Text.Lowercase
import Knitting.Text.Quoted

/-! # Settings

What can be set, and how it is read from a table of settings. Values are taken generously: a
number or a word can be a flag, and a group can be a list of its values.
-/
namespace Knitting

structure Settings where
  policy : Policy
  chart : ChartOptions
  directory : String
  deriving DecidableEq, Repr

inductive Wanted where
  | flag
  | text
  deriving DecidableEq, Repr

def Wanted.label : Wanted → String
  | .flag => "a boolean"
  | .text => "a string"

inductive Group where
  | compile
  | chart
  | session
  deriving DecidableEq, Repr

namespace Group

def key : Group → String
  | .compile => "compile"
  | .chart => "chart"
  | .session => "session"

def label : Group → String
  | .compile => "CompileConfig"
  | .chart => "ChartOptions"
  | .session => "SessionConfig"

end Group

/-- Why there are no settings. A layer is counted from zero; `found` names what stands where
something else is wanted. -/
inductive SettingsError where
  | malformedKey (layer : Nat)
  | missingFile
  | malformedFile
  | missingKey (key : String)
  | wrongKind (found : String) (wanted : Wanted) (key : String)
  | noGroup (found : String) (group : Group)
  | emptyGroup (group : Group)
  | noPolicy
  | unknownPolicy (name : String)
  deriving DecidableEq, Repr

def SettingsError.message : SettingsError → String
  | .malformedKey layer => s!"malformed key in layer {layer}"
  | .missingFile => "file not found"
  | .malformedFile => "malformed file"
  | .missingKey key => s!"missing key {key}"
  | .wrongKind found wanted key => s!"invalid type: {found}, expected {wanted.label} for key {key}"
  | .noGroup found group => s!"invalid type: {found}, expected struct {group.label}"
  | .emptyGroup group => s!"invalid length 0, expected struct {group.label} with 1 element"
  | .noPolicy =>
    "value of enum ErrorPolicy should be represented by either string or table with exactly one key"
  | .unknownPolicy name => s!"enum ErrorPolicy does not have variant constructor {name}"

/-- A number with a point even if it is whole. -/
def Double.pointedText (x : Double) : String :=
  match x with
  | .finite _ _ _ => if '.' ∈ x.text.toList then x.text else x.text ++ ".0"
  | _ => x.text

namespace Setting

/-- What a value is called where another one is wanted. -/
def description : Setting → String
  | .empty => "unit value"
  | .flag b => s!"boolean `{b}`"
  | .integer n => s!"integer `{n}`"
  | .float x => s!"floating point `{x.pointedText}`"
  | .text s => s!"string {Text.quoteText s}"
  | .list _ => "sequence"
  | .table _ => "map"

def toFlag (key : String) : Setting → Except SettingsError Bool
  | .flag b => .ok b
  | .integer n => .ok (n != 0)
  | .float x => .ok !x.isZero
  | .text s =>
    let word := Text.lower s
    if word ∈ ["1", "true", "on", "yes"] then .ok true
    else if word ∈ ["0", "false", "off", "no"] then .ok false
    else .error (.wrongKind (description (.text word)) .flag key)
  | s => .error (.wrongKind s.description .flag key)

def toText (key : String) : Setting → Except SettingsError String
  | .text s => .ok s
  | .flag b => .ok (toString b)
  | .integer n => .ok (toString n)
  | .float x => .ok x.text
  | s => .error (.wrongKind s.description .text key)

def policyNamed (name : String) : Except SettingsError Policy :=
  match Policy.ofText? (Text.lower name) with
  | some p => .ok p
  | none => .error (.unknownPolicy name)

/-- A policy is a text, or the key of a table with one entry. Its case does not matter. -/
def toPolicy : Setting → Except SettingsError Policy
  | .text name => policyNamed name
  | .table [(name, _)] => policyNamed name
  | _ => .error .noPolicy

def only (group : Group) (key : String) : Setting → Except SettingsError (String × Setting)
  | .table es =>
    match es.lookup key with
    | some s => .ok (s!"{group.key}.{key}", s)
    | none => .error (.missingKey s!"{group.key}.{key}")
  | .list (s :: _) => .ok (s!"{group.key}[0]", s)
  | .list [] => .error (.emptyGroup group)
  | s => .error (.noGroup s.description group)

/-- The options of a chart; those that are missing are the usual ones. -/
def toChartOptions (s : Setting) : Except SettingsError ChartOptions := do
  let usual : ChartOptions := {}
  let flag (key : String) (default : Bool) : Option Setting → Except SettingsError Bool
    | some s => s.toFlag s!"{Group.chart.key}{key}"
    | none => .ok default
  match s with
  | .table es =>
    return ⟨← flag ".alternate_rows" usual.alternateRows (es.lookup "alternate_rows"),
      ← flag ".row_numbers" usual.rowNumbers (es.lookup "row_numbers")⟩
  | .list xs =>
    return ⟨← flag "[0]" usual.alternateRows xs[0]?, ← flag "[1]" usual.rowNumbers xs[1]?⟩
  | _ => throw (.noGroup s.description .chart)

end Setting

namespace Settings

def ofSetting (s : Setting) : Except SettingsError Settings := do
  let group (g : Group) : Except SettingsError Setting :=
    match s.get? g.key with
    | some s => .ok s
    | none => .error (.missingKey g.key)
  let (_, policy) ← (← group .compile).only .compile "policy"
  let policy ← policy.toPolicy
  let chart ← (← group .chart).toChartOptions
  let (key, directory) ← (← group .session).only .session "directory"
  return ⟨policy, chart, ← directory.toText key⟩

end Settings

end Knitting
