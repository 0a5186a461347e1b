import Knitting.Settings.Setting
import Knitting.Text.Count
import Knitting.Text.Lowercase

/-! # Key paths

A key path leads from the settings to one of them: names with points between them, and places in
lists between brackets. Setting a value makes whatever is missing on the way. Names are kept
in lower case.
-/
namespace Knitting

inductive KeyStep where
  | name (s : String)
  | item (i : Int)
  deriving DecidableEq, Repr

/-- A path begins with a name. -/
structure KeyPath where
  first : String
  steps : List KeyStep
  deriving DecidableEq, Repr

namespace KeyPath

/-- Characters of a name in a path: ASCII letters, digits, blank, `_` and `-`. -/
def isNameChar (c : Char) : Bool := c.isAlphanum || c == ' ' || c == '_' || c == '-'

def isBlank (c : Char) : Bool := c == ' ' || c == '\t'

/-- The place in a list that is written between brackets, counted from the end if negative. -/
def place? (cs : List Char) : Option Int :=
  let trimmed := ((cs.dropWhile isBlank).reverse.dropWhile isBlank).reverse
  let negative := trimmed.head? = some '-'
  let ds := if negative then trimmed.tail else trimmed
  let n : Int := Text.decimalValue ds
  let value := if negative then -n else n
  if ds ≠ [] ∧ ds.all Char.isDigit ∧
      Int64.minValue.toInt ≤ value ∧ value ≤ Int64.maxValue.toInt then
    some value
  else none

/-- What is being read of a path, last character first. -/
inductive Part where
  | name (cs : List Char)
  | item (cs : List Char)
  | between
  deriving Repr

/-- The steps of a path behind its first name. -/
def steps? : Part → List Char → Option (List KeyStep)
  | .name cs, [] => if cs.isEmpty then none else some [.name (String.ofList cs.reverse)]
  | .item _, [] => none
  | .between, [] => some []
  | .name name, c :: cs =>
    if isNameChar c then steps? (.name (c :: name)) cs
    else if name.isEmpty then none
    else
      let step := KeyStep.name (String.ofList name.reverse)
      if c = '.' then (steps? (.name []) cs).map (step :: ·)
      else if c = '[' then (steps? (.item []) cs).map (step :: ·)
      else none
  | .item item, c :: cs =>
    if c = ']' then (place? item.reverse).bind fun i => (steps? .between cs).map (.item i :: ·)
    else steps? (.item (c :: item)) cs
  | .between, c :: cs =>
    if c = '.' then steps? (.name []) cs
    else if c = '[' then steps? (.item []) cs
    else none

def ofText? (text : String) : Option KeyPath :=
  match steps? (.name []) text.toList with
  | some (.name first :: steps) => some ⟨first, steps⟩
  | _ => none

end KeyPath

namespace Setting

/-- Changes the value of a key, which is added if there is none. -/
def alter (change : Option Setting → Setting) (key : String) :
    List (String × Setting) → List (String × Setting)
  | [] => [(key, change none)]
  | (k, v) :: rest =>
    if k = key then (key, change (some v)) :: rest else (k, v) :: alter change key rest

theorem lookup_cons_of_ne {k key : String} (h : k ≠ key) (v : Setting)
    (es : List (String × Setting)) : List.lookup k ((key, v) :: es) = List.lookup k es := by
  simp only [List.lookup_cons, beq_eq_false_iff_ne.2 h]

theorem lookup_alter (change : Option Setting → Setting) (key k : String)
    (es : List (String × Setting)) :
    (alter change key es).lookup k =
      if k = key then some (change (es.lookup key)) else es.lookup k := by
  induction es with
  | nil =>
    by_cases h : k = key
    · simp [alter, h]
    · simp [alter, h, lookup_cons_of_ne h]
  | cons e es ih =>
    obtain ⟨key', v⟩ := e
    by_cases same : key' = key
    · subst same
      by_cases h : k = key'
      · simp [alter, h]
      · simp [alter, h, lookup_cons_of_ne h]
    · by_cases h : k = key'
      · subst h
        simp [alter, same]
      · rw [alter, if_neg same, lookup_cons_of_ne h, lookup_cons_of_ne h, ih,
          lookup_cons_of_ne (Ne.symm same)]

/-- What a key is changed to when it is given a value: tables are merged key by key, anything else
takes the place of what was there. -/
def merge (old : Option Setting) (new : Setting) : Setting :=
  match new with
  | .table es => mergeEntries (old.getD (.table [])) es
  | _ => new
where
  /-- Gives a table the values of its keys one after the other. -/
  mergeEntries (target : Setting) : List (String × Setting) → Setting
    | [] => target
    | (key, value) :: es =>
      mergeEntries
        (.table (alter (fun old => merge old value) (Text.lower key) target.entries)) es

/-- Changes an item of a list, which is filled up if it is too short. A negative place counts from
the end. -/
def alterItem (change : Setting → Setting) (i : Int) (xs : List Setting) : List Setting :=
  if 0 ≤ i then
    let n := i.toNat
    (xs ++ List.replicate (n + 1 - xs.length) Setting.empty).modify n change
  else
    let back := i.natAbs
    (List.replicate (back - xs.length) Setting.empty ++ xs).modify (xs.length - back) change

def setAt (value : Setting) : KeyStep → List KeyStep → Setting → Setting
  | .name k, [], s => .table (alter (fun old => merge old value) (Text.lower k) s.entries)
  | .item i, [], s => .list (alterItem (fun _ => value) i s.items)
  | .name k, step :: steps, s =>
    .table (alter (fun old => setAt value step steps (old.getD .empty)) (Text.lower k) s.entries)
  | .item i, step :: steps, s => .list (alterItem (setAt value step steps) i s.items)

def set (s : Setting) (path : KeyPath) (value : Setting) : Setting :=
  setAt value (.name path.first) path.steps s

end Setting

end Knitting
