import Knitting.Format.Yaml
import Knitting.Pattern.Listing
import Knitting.Report.Chart
import Knitting.Report.Encoding

/-! Reports on a pattern source: which data is shown, and how it is written. -/
namespace Knitting

inductive Stage where
  | token
  | ast
  | rows
  deriving DecidableEq, Repr

inductive OutputFormat where
  | simple
  | json
  | yaml
  | chart
  deriving DecidableEq, Repr

def Stage.ofText? : String → Option Stage
  | "token" => some .token
  | "ast" => some .ast
  | "rows" => some .rows
  | _ => none

def OutputFormat.ofText? : String → Option OutputFormat
  | "simple" => some .simple
  | "json" => some .json
  | "yaml" => some .yaml
  | "chart" => some .chart
  | _ => none

def OutputFormat.label : OutputFormat → String
  | .simple => "Simple"
  | .json => "Json"
  | .yaml => "Yaml"
  | .chart => "Chart"

structure ReportKind where
  stage : Stage
  format : OutputFormat
  deriving DecidableEq, Repr

inductive ReportError where
  | invalidFormat (text : String)
  | invalidStage (text : String)
  | invalidFormatType (text : String)
  | rowsOnly (format : OutputFormat)
  | unreadable (reason : String)
  | pattern (error : PatternError)
  deriving DecidableEq, Repr

def ReportError.message : ReportError → String
  | .invalidFormat t => s!"Invalid format: {t}"
  | .invalidStage t => s!"Invalid stage: {t}"
  | .invalidFormatType t => s!"Invalid format type: {t}"
  | .rowsOnly f => s!"Invalid format type: Format '{f.label}' only works with the rows stage"
  | .unreadable reason => s!"IO error: {reason}"
  | .pattern e => e.message

namespace ReportKind

/-- Every kind of report there is. Only rows are written as YAML or drawn as a chart. -/
def all : List ReportKind :=
  [⟨.token, .simple⟩, ⟨.token, .json⟩, ⟨.ast, .simple⟩, ⟨.ast, .json⟩,
    ⟨.rows, .simple⟩, ⟨.rows, .json⟩, ⟨.rows, .yaml⟩, ⟨.rows, .chart⟩]

/-- Reads a stage and a format with a hyphen between them. -/
def ofText (text : String) : Except ReportError ReportKind :=
  match text.toList.span (· ≠ '-') with
  | (_, []) => .error (.invalidFormat text)
  | (stageText, _ :: formatText) =>
    let stageName := String.ofList stageText
    let formatName := String.ofList formatText
    match Stage.ofText? stageName, OutputFormat.ofText? formatName with
    | none, _ => .error (.invalidStage stageName)
    | some _, none => .error (.invalidFormatType formatName)
    | some stage, some format =>
      if ⟨stage, format⟩ ∈ all then .ok ⟨stage, format⟩ else .error (.rowsOnly format)

end ReportKind

def Compilation.text (c : Compilation) : String :=
  unlines (c.rows.map StitchRow.text ++ c.faults.map fun f => s!"Error: {f.message}")

def report (kind : ReportKind) (policy : Policy) (options : ChartOptions) (source : String) :
    Except PatternError String :=
  match kind.stage with
  | .token =>
    let lexemes := tokenize source
    match kind.format with
    | .json => .ok (Json.pretty "" (.list (lexemes.map Lexeme.document)))
    | _ => .ok (unlines (lexemes.map Lexeme.text))
  | .ast =>
    match parse source with
    | .error e => .error (.parse e)
    | .ok sections =>
      match kind.format with
      | .json => .ok (Json.pretty "" (.list (sections.map Section.document)))
      | _ => .ok (String.join (sections.map Section.text))
  | .rows =>
    match compile policy source with
    | .error e => .error e
    | .ok c =>
      match kind.format with
      | .simple => .ok c.text
      | .json => .ok (Json.pretty "" c.document)
      | .yaml => .ok (Yaml.render c.document)
      | .chart => .ok (Chart.render options c.rows)

end Knitting
