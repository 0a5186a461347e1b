import Knitting.Settings.Layer
import Knitting.Proofs.Settings.Merged

/-! # Values and where they are put

An entry of a file puts its value where its key leads, and a single value is put in its own place.
As long as the groups stay tables, what a table of settings holds for a key is all that was put
there, laid over one another, and the settings are read from that.
-/
namespace Knitting

inductive SettingKey where
  | policy
  | alternateRows
  | rowNumbers
  | directory
  deriving DecidableEq, Repr

namespace SettingKey

def group : SettingKey → Group
  | .policy => .compile
  | .alternateRows | .rowNumbers => .chart
  | .directory => .session

def name : SettingKey → String
  | .policy => "policy"
  | .alternateRows => "alternate_rows"
  | .rowNumbers => "row_numbers"
  | .directory => "directory"

def text (key : SettingKey) : String := s!"{key.group.key}.{key.name}"

def path (key : SettingKey) : KeyPath := ⟨key.group.key, [.name key.name]⟩

def usual : SettingKey → Setting
  | .policy => .text Policy.strict.text
  | .alternateRows => .flag true
  | .rowNumbers => .flag false
  | .directory => .text "lib"

/-- The settings have what a value says. -/
def Reads (key : SettingKey) (v : Setting) (s : Settings) : Prop :=
  match key with
  | .policy => v.toPolicy = .ok s.policy
  | .alternateRows => v.toFlag key.text = .ok s.chart.alternateRows
  | .rowNumbers => v.toFlag key.text = .ok s.chart.rowNumbers
  | .directory => v.toText key.text = .ok s.directory

theorem ofText?_text (key : SettingKey) : KeyPath.ofText? key.text = some key.path := by
  cases key <;> decide

theorem path_inj {key key' : SettingKey} : key.path = key'.path ↔ key = key' := by
  cases key <;> cases key' <;> decide

theorem text_inj {key key' : SettingKey} : key.text = key'.text ↔ key = key' := by
  cases key <;> cases key' <;> decide

/-- Over what is usual, a setting is read as the last value that sets anything. -/
theorem Reads.of_laid {key : SettingKey} {v : Setting} {news : List Setting} {s : Settings}
    (there : Setting.laid (some key.usual) news = some v) (h : key.Reads v s) :
    key.Reads (Setting.merge none (Setting.lastSet key.usual news)) s := by
  cases key with
  | policy => exact Setting.overrules_toPolicy.read_lastSet rfl there h
  | alternateRows => exact (Setting.overrules_toFlag _).read_lastSet rfl there h
  | rowNumbers => exact (Setting.overrules_toFlag _).read_lastSet rfl there h
  | directory => exact (Setting.overrules_toText _).read_lastSet rfl there h

end SettingKey

/-- A value, and the path to where it is put. -/
abbrev Placement := KeyPath × Setting

namespace Placement

def ofEntry (e : String × Setting) : Placement := ((KeyPath.ofText? e.1).getD ⟨e.1, []⟩, e.2)

/-- The values that are given to a name in a group: those of the entries of a table in place of the
group, or a value for the name itself. -/
def given (p : Placement) (g : Group) (name : String) : List Setting :=
  if Text.lower p.1.first = g.key then
    match p.1.steps with
    | [] => Setting.valuesOf name p.2.entries
    | [.name n] => if Text.lower n = name then [p.2] else []
    | _ => []
  else []

/-- Puts a table in place of a group, or any value to a name in it. -/
def fits : Placement → Bool
  | (⟨_, []⟩, .table _) => true
  | (⟨_, [.name _]⟩, _) => true
  | _ => false

/-- Whatever is put in place of a group or into it fits there. -/
def Keeps (p : Placement) : Prop := ∀ g : Group, Text.lower p.1.first = g.key → p.fits = true

instance (p : Placement) : Decidable p.Keeps :=
  decidable_of_iff (∀ g ∈ [Group.compile, .chart, .session],
    Text.lower p.1.first = g.key → p.fits = true)
    ⟨fun h g => h g (by cases g <;> decide), fun h g _ => h g⟩

end Placement

namespace Setting

theorem get?_set_of_ne {first key : String} (other : Text.lower first ≠ key)
    (steps : List KeyStep) (s v : Setting) : (s.set ⟨first, steps⟩ v).get? key = s.get? key := by
  cases steps with
  | nil => simp only [set, setAt, get?, entries, lookup_alter, if_neg (Ne.symm other)]
  | cons step steps => simp only [set, setAt, get?, entries, lookup_alter, if_neg (Ne.symm other)]

theorem get?_set_name (first : String) (s v : Setting) :
    (s.set ⟨first, []⟩ v).get? (Text.lower first) =
      some (merge (s.get? (Text.lower first)) v) := by
  simp only [set, setAt, get?, entries, lookup_alter, if_pos]

theorem get?_set_names (first n : String) (s v : Setting) :
    (s.set ⟨first, [.name n]⟩ v).get? (Text.lower first) =
      some (.table (alter (fun old => merge old v) (Text.lower n)
        ((s.get? (Text.lower first)).getD .empty).entries)) := by
  simp only [set, setAt, get?, entries, lookup_alter, if_pos]

end Setting

/-- Values are put where their paths lead and nowhere else. What is given to a whole group, or to a
name in it, is merged with what is there. Values given at once are all put, in any order. -/
class LawfulLayering [Layering] : Prop where
  get?_put_of_ne {first key : String} (other : Text.lower first ≠ key) (steps : List KeyStep)
    (s v : Setting) : (Layering.put s ⟨first, steps⟩ v).get? key = s.get? key
  get?_put_group (first : String) (s v : Setting) :
    (Layering.put s ⟨first, []⟩ v).get? (Text.lower first) =
      some (Setting.merge (s.get? (Text.lower first)) v)
  get?_put_name (first n : String) (s v : Setting) :
    (Layering.put s ⟨first, [.name n]⟩ v).get? (Text.lower first) =
      some (.table (Setting.alter (fun old => Setting.merge old v) (Text.lower n)
        ((s.get? (Text.lower first)).getD .empty).entries))
  arrange_perm (ps : List Placement) : (Layering.arrange ps).Perm ps

instance : LawfulLayering where
  get?_put_of_ne := Setting.get?_set_of_ne
  get?_put_group := Setting.get?_set_name
  get?_put_name := Setting.get?_set_names
  arrange_perm _ := .rfl

section Lawful
variable [Layering] [LawfulLayering]
open LawfulLayering

namespace Setting

/-- A placement that keeps the groups lays over the names in a group what it gives them. -/
theorem get?_put_of_keeps {g : Group} {s : Setting} {old : List (String × Setting)}
    (there : s.get? g.key = some (.table old)) {p : Placement} (keeps : p.Keeps) :
    ∃ new, (Layering.put s p.1 p.2).get? g.key = some (.table new) ∧
      ∀ name, new.lookup name = laid (old.lookup name) (p.given g name) := by
  obtain ⟨⟨first, steps⟩, v⟩ := p
  by_cases same : Text.lower first = g.key
  · have fits := keeps g same
    unfold Placement.fits at fits
    split at fits
    · -- a table in place of the group
      rename_i es split
      cases split
      obtain ⟨new, merged⟩ := mergeEntries_table old es
      refine ⟨new, ?_, fun name => ?_⟩
      · rw [← same, get?_put_group, same, there]
        exact congrArg some merged
      · rw [Placement.given, if_pos same]
        have found := lookup_mergeEntries name es (.table old)
        rwa [merged] at found
    · -- a value for a name in it
      rename_i n _ split
      cases split
      refine ⟨alter (fun old => merge old v) (Text.lower n) old, ?_, fun name => ?_⟩
      · rw [← same, get?_put_name, same, there]
        rfl
      · rw [Placement.given, if_pos same, lookup_alter]
        by_cases named : Text.lower n = name
        · subst named
          simp only [if_pos]
          rfl
        · simp only [if_neg named, if_neg (Ne.symm named)]
          rfl
    · cases fits
  · refine ⟨old, (get?_put_of_ne same steps s v).trans there, fun name => ?_⟩
    rw [Placement.given, if_neg same]
    rfl

end Setting

namespace Settings

/-- Placements that keep the groups lay over the names in a group all that they give them. -/
theorem get?_putAll {g : Group} {s : Setting} {old : List (String × Setting)}
    (there : s.get? g.key = some (.table old)) {ps : List Placement} (keep : ∀ p ∈ ps, p.Keeps) :
    ∃ new, (putAll s ps).get? g.key = some (.table new) ∧
      ∀ name, new.lookup name = Setting.laid (old.lookup name) (ps.flatMap (·.given g name)) := by
  induction ps generalizing s old with
  | nil => exact ⟨old, there, fun _ => rfl⟩
  | cons p ps ih =>
    rw [List.forall_mem_cons] at keep
    obtain ⟨between, first, found⟩ := Setting.get?_put_of_keeps there keep.1
    obtain ⟨new, last, foundLast⟩ := ih first keep.2
    refine ⟨new, last, fun name => ?_⟩
    rw [foundLast, found, List.flatMap_cons, Setting.laid_append]

end Settings

end Lawful

namespace Settings

theorem addFile_eq [Layering] (s : Setting) (es : List (String × Setting)) :
    addFile s es = putAll s (Layering.arrange (es.map Placement.ofEntry)) := rfl

theorem bind_eq_ok_iff {ε α β : Type} {x : Except ε α} {f : α → Except ε β} {b : β} :
    (x >>= f) = .ok b ↔ ∃ a, x = .ok a ∧ f a = .ok b := by
  cases x with
  | error e => exact ⟨nofun, nofun⟩
  | ok a => exact ⟨fun h => ⟨a, rfl, h⟩, fun ⟨_, same, h⟩ => by cases same; exact h⟩

theorem eq_ok_of_toOption {ε α : Type} {x : Except ε α} {a : α} (h : x.toOption = some a) :
    x = .ok a := by
  cases x with
  | error e => cases h
  | ok b =>
    cases h
    rfl

theorem ofSetting_eq_ok {table : Setting} {s : Settings} (h : ofSetting table = .ok s)
    {compile chart session : Setting} (hcompile : table.get? Group.compile.key = some compile)
    (hchart : table.get? Group.chart.key = some chart)
    (hsession : table.get? Group.session.key = some session) :
    (∃ p, compile.only .compile "policy" = .ok p ∧ p.2.toPolicy = .ok s.policy) ∧
    chart.toChartOptions = .ok s.chart ∧
    ∃ d, session.only .session "directory" = .ok d ∧ d.2.toText d.1 = .ok s.directory := by
  simp only [ofSetting, hcompile, hchart, hsession, bind_eq_ok_iff] at h
  obtain ⟨_, ⟨⟩, p, hp, policy, hpolicy, _, ⟨⟩, options, hoptions, _, ⟨⟩, d, hd, directory,
    hdirectory, ⟨⟩⟩ := h
  exact ⟨⟨p, hp, hpolicy⟩, hoptions, d, hd, hdirectory⟩

theorem toChartOptions_table_eq_ok {es : List (String × Setting)} {options : ChartOptions}
    (h : (Setting.table es).toChartOptions = .ok options) {alternate numbers : Setting}
    (halternate : es.lookup SettingKey.alternateRows.name = some alternate)
    (hnumbers : es.lookup SettingKey.rowNumbers.name = some numbers) :
    alternate.toFlag SettingKey.alternateRows.text = .ok options.alternateRows ∧
      numbers.toFlag SettingKey.rowNumbers.text = .ok options.rowNumbers := by
  simp only [SettingKey.name] at halternate hnumbers
  simp only [Setting.toChartOptions, halternate, hnumbers, bind_eq_ok_iff] at h
  obtain ⟨_, alternates, _, numbered, ⟨⟩⟩ := h
  exact ⟨alternates, numbered⟩

theorem only_table {g : Group} {key : String} {es : List (String × Setting)} {v : Setting}
    (found : es.lookup key = some v) :
    (Setting.table es).only g key = .ok (s!"{g.key}.{key}", v) := by
  rw [Setting.only, found]

/-- Settings are read from what tables of the groups hold. -/
theorem reads_of_ofSetting {table : Setting} {s : Settings} (h : ofSetting table = .ok s)
    {groups : Group → List (String × Setting)}
    (there : ∀ g : Group, table.get? g.key = some (.table (groups g))) {held : SettingKey → Setting}
    (found : ∀ key : SettingKey, (groups key.group).lookup key.name = some (held key))
    (key : SettingKey) : key.Reads (held key) s := by
  obtain ⟨⟨p, hp, policy⟩, options, d, hd, directory⟩ :=
    ofSetting_eq_ok h (there .compile) (there .chart) (there .session)
  obtain ⟨alternates, numbered⟩ :=
    toChartOptions_table_eq_ok options (found .alternateRows) (found .rowNumbers)
  have onlyPolicy := only_table (g := .compile) (found .policy)
  have onlyDirectory := only_table (g := .session) (found .directory)
  cases key with
  | policy =>
    cases hp.symm.trans onlyPolicy
    exact policy
  | alternateRows => exact alternates
  | rowNumbers => exact numbered
  | directory =>
    cases hd.symm.trans onlyDirectory
    exact directory

end Settings

end Knitting
