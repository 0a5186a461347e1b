import Knitting.Toml.Scalar
import Knitting.Toml.Table
import Knitting.Toml.Token

/-! # Reading TOML

The reader takes one token at a time and keeps the lists and records that are still open. The
run of tokens that makes up a value without quotes is read when it ends.
-/
namespace Knitting.Toml

/-- A list, its last item first, or a record with the key whose value is being read. -/
inductive Open where
  | list (items : List Setting)
  | record (entries : Table) (key : List String)
  deriving Repr

/-- What may come next. The parts of a key are kept last first. -/
inductive Expecting where
  | line
  | lineEnd
  | header
  | headerKey (many : Bool) (parts : List String)
  | headerMore (many : Bool) (parts : List String)
  | headerEnd (parts : List String)
  | field
  | key (parts : List String)
  | keyMore (parts : List String)
  | value
  | bare (cs : List Char)
  | more
  deriving Repr

/-- The document so far, the table that lines go to, the key of the line, and what is open. -/
structure Reader where
  root : Table
  header : List String
  lineKey : List String
  opens : List Open
  expecting : Expecting
  deriving Repr

namespace Reader

def fresh : Reader := ⟨.empty, [], [], [], .line⟩

def expect (r : Reader) (expecting : Expecting) : Reader := { r with expecting }

/-- Lists and records are nested less deep than this, and keys have fewer parts. -/
def depthLimit : Nat := 80

def finish (r : Reader) (value : Setting) : Option Reader :=
  match r.opens with
  | [] =>
    (r.root.modifyAt false (Table.insert? r.lineKey value) r.header).map fun root =>
      { r with root, expecting := .lineEnd }
  | .list items :: outer =>
    some { r with opens := .list (value :: items) :: outer, expecting := .more }
  | .record entries key :: outer =>
    (entries.insert? key value).map fun entries =>
      { r with opens := .record entries [] :: outer, expecting := .more }

/-- The reader behind a key and its equals sign. -/
def withKey (r : Reader) (parts : List String) : Option Reader :=
  if depthLimit ≤ parts.length then none
  else
    match r.opens with
    | [] => some { r with lineKey := parts.reverse, expecting := .value }
    | .record entries _ :: outer =>
      some { r with opens := .record entries parts.reverse :: outer, expecting := .value }
    | .list _ :: _ => none

def begin (r : Reader) (o : Open) (expecting : Expecting) : Option Reader :=
  if depthLimit ≤ r.opens.length + 1 then none
  else some { r with opens := o :: r.opens, expecting }

/-- The reader behind a closing bracket or brace. -/
def close (r : Reader) (mark : Char) : Option Reader :=
  match r.opens, mark with
  | .list items :: outer, ']' => { r with opens := outer }.finish (.list items.reverse)
  | .record entries _ :: outer, '\x7d' =>
    { r with opens := outer }.finish (.table (settings entries.entries))
  | _, _ => none

def inList (r : Reader) : Bool :=
  match r.opens with
  | .list _ :: _ => true
  | _ => false

/-- The reader behind the header of a table. -/
def enter (r : Reader) (many : Bool) (parts : List String) : Option Reader :=
  if depthLimit ≤ parts.length then none
  else
    let path := parts.reverse
    (if many then r.root.declareMore? path else r.root.declare? path).map fun root =>
      { r with root, header := path, expecting := .lineEnd }

/-- A part of a key. -/
def keyPart? : Token → Option String
  | .bare cs => if cs.all fun c => c ≠ '+' ∧ c ≠ ':' then some (String.ofList cs) else none
  | .quoted false s => some s
  | _ => none

/-- One token behind a value in a list or record. -/
def stepMore (r : Reader) : Token → Option Reader
  | .lineEnd => if r.inList then some (r.expect .more) else none
  | .blank _ => some (r.expect .more)
  | .mark ',' => some (r.expect (if r.inList then .value else .key []))
  | .mark c => r.close c
  | _ => none

/-- One token behind the value of a line. -/
def stepLineEnd (r : Reader) : Token → Option Reader
  | .lineEnd => some (r.expect .line)
  | .blank _ => some (r.expect .lineEnd)
  | _ => none

/-- One token where a value may begin. -/
def stepValue (r : Reader) : Token → Option Reader
  | .lineEnd => if r.inList then some r else none
  | .blank _ => some r
  | .quoted _ s => r.finish (.text s)
  | .bare cs => some (r.expect (.bare cs.reverse))
  | .mark '[' => r.begin (.list []) .value
  | .mark '\x7b' => r.begin (.record .empty []) .field
  | .mark ']' => r.close ']'
  | .mark _ => none

/-- The reader behind a value without quotes, whose characters are kept last first. -/
def finishBare (r : Reader) (cs : List Char) : Option Reader :=
  (scalar? (cs.dropWhile isBlank).reverse).bind r.finish

def stepBare (r : Reader) (cs : List Char) : Token → Option Reader
  | .bare more | .blank more => some (r.expect (.bare (more.reverse ++ cs)))
  | .mark '.' => some (r.expect (.bare ('.' :: cs)))
  | t => (r.finishBare cs).bind fun r => if r.opens.isEmpty then r.stepLineEnd t else r.stepMore t

/-- One more part of a key, or of a header; blanks may stand around it. -/
def stepKey (r : Reader) (stay : Expecting) (next : String → Expecting) : Token → Option Reader
  | .blank _ => some (r.expect stay)
  | t => (keyPart? t).map fun part => r.expect (next part)

/-- The reader after one more token. -/
def step (r : Reader) (t : Token) : Option Reader :=
  match r.expecting with
  | .line =>
    match t with
    | .lineEnd => some r
    | .mark '[' => some (r.expect .header)
    | _ => r.stepKey .line (fun part => .keyMore [part]) t
  | .lineEnd => r.stepLineEnd t
  | .header =>
    match t with
    | .mark '[' => some (r.expect (.headerKey true []))
    | _ => r.stepKey (.headerKey false []) (fun part => .headerMore false [part]) t
  | .headerKey many parts =>
    r.stepKey r.expecting (fun part => .headerMore many (part :: parts)) t
  | .headerMore many parts =>
    match t with
    | .blank _ => some r
    | .mark '.' => some (r.expect (.headerKey many parts))
    | .mark ']' => if many then some (r.expect (.headerEnd parts)) else r.enter false parts
    | _ => none
  | .headerEnd parts =>
    match t with
    | .mark ']' => r.enter true parts
    | _ => none
  | .field =>
    match t with
    | .mark c => r.close c
    | _ => r.stepKey .field (fun part => .keyMore [part]) t
  | .key parts => r.stepKey r.expecting (fun part => .keyMore (part :: parts)) t
  | .keyMore parts =>
    match t with
    | .blank _ => some r
    | .mark '.' => some (r.expect (.key parts))
    | .mark '=' => r.withKey parts
    | _ => none
  | .value => r.stepValue t
  | .bare cs => r.stepBare cs t
  | .more => r.stepMore t

def document? (r : Reader) : Option Table :=
  if r.opens.isEmpty then
    match r.expecting with
    | .line | .lineEnd => some r.root
    | .bare cs => (r.finishBare cs).map Reader.root
    | _ => none
  else none

end Reader

/-- A text may begin with the mark U+FEFF, which is no part of it. -/
def dropMark : List Char → List Char
  | '\ufeff' :: cs => cs
  | cs => cs

def parse? (text : String) : Option (List (String × Setting)) := do
  let tokens ← tokens? (dropMark text.toList)
  let r ← tokens.foldlM Reader.step Reader.fresh
  return settings (← r.document?).entries

end Knitting.Toml
