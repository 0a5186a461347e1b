import Knitting.Proofs.Settings.Placed
import Mathlib.Data.List.Basic

/-! # Which layer a setting comes from

A file lays its values over those of the files before it, and single values are laid over all files,
wherever they stand between them. So a setting is what the last single value for it says, or else
the last file that gives it a value, or else what is usual.
-/
namespace Knitting

namespace Layer

def placements [Layering] (layer : Layer) : List Placement :=
  match layer.entries with
  | .ok es => Layering.arrange (es.map Placement.ofEntry)
  | .error _ => []

end Layer

/-- What is given to a name once is given to it in any order. -/
theorem Placement.flatMap_given_of_perm {g : Group} {name : String} {ps qs : List Placement}
    (same : ps.Perm qs) (once : (qs.flatMap (·.given g name)).length ≤ 1) :
    ps.flatMap (·.given g name) = qs.flatMap (·.given g name) := by
  have values := same.flatMap_right (·.given g name)
  cases given : qs.flatMap (·.given g name) with
  | nil => exact List.perm_nil.1 (given ▸ values)
  | cons v vs =>
    rw [given] at once values
    obtain rfl : vs = [] := List.length_eq_zero_iff.1 (Nat.le_zero.1 (Nat.le_of_succ_le_succ once))
    exact List.perm_singleton.1 values

namespace Settings

theorem overrides_eq_ok {n : Nat} {layers : List Layer} {values : List Placement}
    (h : overrides n layers = .ok values) :
    (layers.filterMap Layer.override?).map (fun e => (KeyPath.ofText? e.1, e.2)) =
      values.map fun p => (some p.1, p.2) := by
  induction layers generalizing n values with
  | nil =>
    cases h
    rfl
  | cons layer layers ih =>
    rw [overrides] at h
    split at h
    · rename_i none
      rw [List.filterMap_cons_none none]
      exact ih h
    · rename_i key value some
      rw [List.filterMap_cons_some some]
      split at h
      · cases h
      · rename_i path readable
        cases rest : overrides (n + 1) layers with
        | error e =>
          rw [rest] at h
          cases h
        | ok later =>
          rw [rest] at h
          cases h
          rw [List.map_cons, List.map_cons, ih rest, readable]

theorem filter_latest (path : KeyPath) (values : List Placement) :
    (latest values).filter (·.1 = path) = (values.filter (·.1 = path)).getLast?.toList := by
  induction values with
  | nil => rfl
  | cons p values ih =>
    obtain ⟨other, v⟩ := p
    rw [latest]
    by_cases same : other = path
    · subst same
      by_cases again : other ∈ values.map Prod.fst
      · obtain ⟨p, hp, same⟩ := List.mem_map.1 again
        have more : values.filter (·.1 = other) ≠ [] :=
          List.ne_nil_of_mem (List.mem_filter.2 ⟨hp, decide_eq_true same⟩)
        obtain ⟨q, qs, split⟩ := List.exists_cons_of_ne_nil more
        rw [if_pos again, ih, List.filter_cons_of_pos (by simp), split, List.getLast?_cons_cons]
      · have none : values.filter (·.1 = other) = [] := by
          rw [List.filter_eq_nil_iff]
          intro p hp same
          exact again (List.mem_map.2 ⟨p, hp, of_decide_eq_true same⟩)
        rw [if_neg again, List.filter_cons_of_pos (by simp), ih, List.filter_cons_of_pos (by simp),
          none]
        rfl
    · rw [List.filter_cons_of_neg (by simpa using same)]
      split
      · exact ih
      · rw [List.filter_cons_of_neg (by simpa using same), ih]

theorem mem_of_mem_latest {p : Placement} {values : List Placement} (h : p ∈ latest values) :
    p ∈ values := by
  induction values with
  | nil => exact h
  | cons q values ih =>
    rw [latest] at h
    split at h
    · exact List.mem_cons_of_mem _ (ih h)
    · rcases List.mem_cons.1 h with rfl | h
      · exact List.mem_cons_self
      · exact List.mem_cons_of_mem _ (ih h)

end Settings

namespace SettingKey

def fileValues [Layering] (key : SettingKey) (layers : List Layer) : List Setting :=
  (layers.flatMap Layer.placements).flatMap (·.given key.group key.name)

def lastOverride (key : SettingKey) (layers : List Layer) : Option Setting :=
  ((layers.filterMap Layer.override?).filter (·.1 = key.text)).getLast?.map Prod.snd

/-- What a setting should be: the last single value for it, or else the last value that a file gives
it, or else what is usual. Empty tables do not count. -/
def decisive [Layering] (key : SettingKey) (layers : List Layer) : Setting :=
  ((key.lastOverride layers).filter Setting.sets <|>
    ((key.fileValues layers).filter Setting.sets).getLast?).getD key.usual

theorem decisive_eq [Layering] (key : SettingKey) (layers : List Layer) :
    key.decisive layers =
      Setting.lastSet key.usual (key.fileValues layers ++ (key.lastOverride layers).toList) := by
  unfold decisive Setting.lastSet
  cases key.lastOverride layers with
  | none => simp
  | some v => cases sets : v.sets <;> simp [Option.filter_some, sets]

/-- Where no file gives a key twice, the order of what is in a file does not matter for it. -/
theorem fileValues_any_order [Layering] {key : SettingKey} {layers : List Layer}
    {arranged : Layer → List Placement}
    (same : ∀ layer ∈ layers, (arranged layer).Perm layer.placements)
    (once : ∀ layer ∈ layers,
      (layer.placements.flatMap (·.given key.group key.name)).length ≤ 1) :
    (layers.flatMap arranged).flatMap (·.given key.group key.name) = key.fileValues layers := by
  rw [fileValues, List.flatMap_assoc, List.flatMap_assoc]
  exact List.flatMap_congr fun layer mem =>
    Placement.flatMap_given_of_perm (same layer mem) (once layer mem)

theorem given_path (k key : SettingKey) (v : Setting) :
    Placement.given (k.path, v) key.group key.name = if k = key then [v] else [] := by
  have group : Text.lower k.group.key = k.group.key := by cases k <;> decide
  have name : Text.lower k.name = k.name := by cases k <;> decide
  simp only [Placement.given, path, group, name]
  by_cases same : k = key
  · simp [same]
  · rw [if_neg same, ← ite_and, if_neg]
    rintro ⟨groups, names⟩
    exact same (path_inj.1 (by rw [path, path, groups, names]))

theorem flatMap_given {key : SettingKey} {ps : List Placement}
    (known : ∀ p ∈ ps, ∃ k : SettingKey, p.1 = k.path) :
    ps.flatMap (·.given key.group key.name) = (ps.filter (·.1 = key.path)).map Prod.snd := by
  induction ps with
  | nil => rfl
  | cons p ps ih =>
    rw [List.forall_mem_cons] at known
    obtain ⟨path, v⟩ := p
    obtain ⟨k, rfl⟩ := known.1
    rw [List.flatMap_cons, ih known.2, given_path]
    by_cases same : k = key
    · subst same
      simp
    · rw [if_neg same, List.filter_cons_of_neg (by simpa [path_inj] using same)]
      rfl

theorem exists_keys {es : List (String × Setting)}
    (known : ∀ e ∈ es, ∃ key : SettingKey, e.1 = key.text) :
    ∃ ks : List (SettingKey × Setting), es = ks.map fun k => (k.1.text, k.2) := by
  induction es with
  | nil => exact ⟨[], rfl⟩
  | cons e es ih =>
    rw [List.forall_mem_cons] at known
    obtain ⟨key, written⟩ := known.1
    obtain ⟨ks, rfl⟩ := ih known.2
    exact ⟨(key, e.2) :: ks, by rw [List.map_cons, ← written]⟩

end SettingKey

namespace Settings

theorem path_of_mem_latest {ks : List (SettingKey × Setting)} :
    ∀ p ∈ latest (ks.map fun k => (k.1.path, k.2)), ∃ k : SettingKey, p.1 = k.path := by
  intro p hp
  obtain ⟨k, -, rfl⟩ := List.mem_map.1 (mem_of_mem_latest hp)
  exact ⟨k.1, rfl⟩

section Keyed

variable {layers : List Layer} {ks : List (SettingKey × Setting)}
  (written : layers.filterMap Layer.override? = ks.map fun k => (k.1.text, k.2))
include written

theorem overrides_keyed {n : Nat} {values : List Placement}
    (given : overrides n layers = .ok values) : values = ks.map fun k => (k.1.path, k.2) := by
  have lifted (p q : Placement) (same : (some p.1, p.2) = (some q.1, q.2)) : p = q := by
    injection same with paths values
    exact Prod.ext (Option.some.inj paths) values
  have paths := overrides_eq_ok given
  simp only [written, List.map_map, Function.comp_def, SettingKey.ofText?_text] at paths
  apply (List.map_inj_right lifted).1
  rw [List.map_map]
  exact paths.symm

/-- Of single values for settings, the last for each is what is laid over the files. -/
theorem flatMap_given_latest [Layering] [LawfulLayering] (key : SettingKey) :
    (Layering.arrange (latest (ks.map fun k => (k.1.path, k.2)))).flatMap
      (Placement.given · key.group key.name) = (key.lastOverride layers).toList := by
  have last : (latest (ks.map fun k => (k.1.path, k.2))).flatMap
      (Placement.given · key.group key.name) = (key.lastOverride layers).toList := by
    rw [SettingKey.flatMap_given path_of_mem_latest, filter_latest, SettingKey.lastOverride,
      written, List.filter_map, List.filter_map, List.getLast?_map, List.getLast?_map]
    simp only [Function.comp_def, SettingKey.path_inj, SettingKey.text_inj]
    cases (ks.filter fun k => k.1 = key).getLast? <;> rfl
  rw [← last]
  apply Placement.flatMap_given_of_perm (LawfulLayering.arrange_perm _)
  rw [last]
  exact Option.length_toList_le

end Keyed

section Files
variable [Layering]

def addFiles (s : Setting) (layers : List Layer) : Except SettingsError Setting :=
  (layers.mapM Layer.entries).map (·.foldl addFile s)

theorem merged_eq (layers : List Layer) :
    merged layers = (do
      let values ← overrides 0 layers
      let table ← addFiles usual layers
      return putAll table (Layering.arrange (latest values))) := by
  unfold merged addFiles
  cases overrides 0 layers with
  | error e => rfl
  | ok values => cases layers.mapM Layer.entries <;> rfl

theorem addFiles_cons (s : Setting) (layer : Layer) (layers : List Layer) :
    addFiles s (layer :: layers) = (do addFiles (addFile s (← layer.entries)) layers) := by
  unfold addFiles
  rw [List.mapM_cons]
  cases layer.entries with
  | error e => rfl
  | ok es => cases layers.mapM Layer.entries <;> rfl

theorem addFiles_eq_ok {s table : Setting} {layers : List Layer}
    (h : addFiles s layers = .ok table) :
    table = putAll s (layers.flatMap Layer.placements) := by
  induction layers generalizing s with
  | nil =>
    cases h
    rfl
  | cons layer layers ih =>
    rw [addFiles_cons] at h
    obtain ⟨es, first, rest⟩ := bind_eq_ok_iff.1 h
    rw [ih rest, addFile_eq, List.flatMap_cons, Layer.placements, first]
    exact List.foldl_append.symm

/-- All that layers say is put over the usual settings: first what the files say, then the single
values. -/
theorem merged_eq_ok {layers : List Layer} {table : Setting} (h : merged layers = .ok table) :
    ∃ values, overrides 0 layers = .ok values ∧
      table = putAll usual
        (layers.flatMap Layer.placements ++ Layering.arrange (latest values)) := by
  rw [merged_eq] at h
  obtain ⟨values, given, h⟩ := bind_eq_ok_iff.1 h
  obtain ⟨files, laid, ⟨⟩⟩ := bind_eq_ok_iff.1 h
  refine ⟨values, given, ?_⟩
  rw [addFiles_eq_ok laid]
  exact List.foldl_append.symm

end Files

end Settings

namespace Layer

/-- A file puts nothing but tables in place of the groups, and nothing but names lead into them. A
single value is for one of the settings. -/
structure Orderly [Layering] (layer : Layer) : Prop where
  keeps : ∀ p ∈ layer.placements, p.Keeps
  known : ∀ e ∈ layer.override?, ∃ key : SettingKey, e.1 = key.text

theorem orderly_set (key : SettingKey) (v : Setting) : (set key.text v).Orderly :=
  ⟨nofun, by rintro _ ⟨⟩; exact ⟨key, rfl⟩⟩

theorem orderly_policy (p : Policy) : (policy p).Orderly :=
  ⟨nofun, by rintro _ ⟨⟩; exact ⟨.policy, rfl⟩⟩

end Layer

namespace Settings

theorem get?_usual (g : Group) : ∃ es, usual.get? g.key = some (.table es) ∧
    ∀ key : SettingKey, key.group = g → es.lookup key.name = some key.usual := by
  cases g
  all_goals
    refine ⟨_, rfl, ?_⟩
    intro key same
    cases key <;> cases same <;> rfl

/-- The settings of orderly layers are what is decisive for them. -/
theorem reads_decisive [Layering] [LawfulLayering] {layers : List Layer} {s : Settings}
    (orderly : ∀ layer ∈ layers, layer.Orderly) (h : load layers = .ok s) (key : SettingKey) :
    key.Reads (Setting.merge none (key.decisive layers)) s := by
  obtain ⟨table, merged, h⟩ := bind_eq_ok_iff.1 h
  obtain ⟨values, given, rfl⟩ := merged_eq_ok merged
  obtain ⟨ks, written⟩ : ∃ ks : List (SettingKey × Setting),
      layers.filterMap Layer.override? = ks.map fun k => (k.1.text, k.2) := by
    apply SettingKey.exists_keys
    intro e he
    obtain ⟨layer, hlayer, he⟩ := List.mem_filterMap.1 he
    exact (orderly layer hlayer).known e he
  obtain rfl := overrides_keyed written given
  have keep : ∀ p ∈ layers.flatMap Layer.placements ++
      Layering.arrange (latest (ks.map fun k => (k.1.path, k.2))), p.Keeps := by
    intro p hp
    rcases List.mem_append.1 hp with hp | hp
    · obtain ⟨layer, hlayer, hp⟩ := List.mem_flatMap.1 hp
      exact (orderly layer hlayer).keeps p hp
    · obtain ⟨k, path⟩ := path_of_mem_latest p ((LawfulLayering.arrange_perm _).mem_iff.1 hp)
      obtain ⟨_, v⟩ := p
      cases path
      exact fun _ _ => rfl
  -- all groups stay tables, so every key holds its values laid over the usual one
  choose first usually held using get?_usual
  choose groups there found using fun g => get?_putAll (usually g) keep
  have laid (key : SettingKey) : (groups key.group).lookup key.name =
      Setting.laid (some key.usual)
        (key.fileValues layers ++ (key.lastOverride layers).toList) := by
    rw [found, held key.group key rfl, List.flatMap_append, flatMap_given_latest written,
      SettingKey.fileValues]
  choose last there' using fun key : SettingKey => Setting.laid_some key.usual
    (key.fileValues layers ++ (key.lastOverride layers).toList)
  have reads := reads_of_ofSetting h there (fun key => (laid key).trans (there' key)) key
  rw [key.decisive_eq]
  exact reads.of_laid (there' key)

theorem entries_of_override [Layering] {layer : Layer} {e : String × Setting}
    (given : layer.override? = some e) : layer.entries = .ok [] := by
  cases layer with
  | file content => cases given
  | optionalFile content => cases given
  | policy p => rfl
  | set key value => rfl

section Move

variable {layer file : Layer} {e : String × Setting} (given : layer.override? = some e)
include given

theorem overrides_swap {path : KeyPath} (readable : KeyPath.ofText? e.1 = some path)
    (plain : file.override? = none) (n : Nat) (before after : List Layer) :
    overrides n (before ++ layer :: file :: after) =
      overrides n (before ++ file :: layer :: after) := by
  induction before generalizing n with
  | nil => simp only [List.nil_append, overrides, given, plain, readable]
  | cons first before ih => simp only [List.cons_append, overrides, ih]

theorem addFiles_swap [Layering] [LawfulLayering] (s : Setting) (before after : List Layer) :
    addFiles s (before ++ layer :: file :: after) =
      addFiles s (before ++ file :: layer :: after) := by
  induction before generalizing s with
  | nil =>
    have nothing (s : Setting) : addFile s [] = s := by
      rw [addFile_eq, List.map_nil, List.perm_nil.1 (LawfulLayering.arrange_perm [])]
      rfl
    simp only [List.nil_append, addFiles_cons, entries_of_override given]
    cases file.entries with
    | error e => rfl
    | ok es => exact congrArg (addFiles · after) (by rw [nothing, nothing])
  | cons first before ih => simp only [List.cons_append, addFiles_cons, ih]

end Move

theorem load_move [Layering] [LawfulLayering] {before files after : List Layer} {layer : Layer}
    {e : String × Setting}
    {path : KeyPath} (given : layer.override? = some e) (readable : KeyPath.ofText? e.1 = some path)
    (plain : ∀ file ∈ files, file.override? = none) :
    load (before ++ layer :: (files ++ after)) = load (before ++ (files ++ layer :: after)) := by
  induction files generalizing before with
  | nil => rfl
  | cons file files ih =>
    rw [List.forall_mem_cons] at plain
    have swapped : load (before ++ layer :: file :: (files ++ after)) =
        load (before ++ file :: layer :: (files ++ after)) := by
      rw [load, load, merged_eq, merged_eq, overrides_swap given readable plain.1,
        addFiles_swap given]
    have later := @ih (before ++ [file]) plain.2
    simp only [List.append_assoc, List.singleton_append] at later
    exact swapped.trans later

/-- A file, and single values for two settings. -/
def edging : List Layer :=
  [.file (some "[compile]\npolicy = \"best-effort\"\n[session]\ndirectory = \"rows\"\n"),
    .set SettingKey.rowNumbers.text (.integer 1), .policy .strict, .optionalFile none]

def motif : Layer :=
  .file (some "[chart]\nrow_numbers = true\nalternate_rows = 0\n[session.directory]\n")

def unnumbered : Layer := .set SettingKey.rowNumbers.text (.text "off")

def numbered : Layer := .file (some "[chart]\nrow_numbers = true\n")

def emptied : Layer := .file (some "[chart.row_numbers]\n")

def listed : Layer := .file (some "\"chart[0]\" = true\n")

theorem entries_of_parse? {text : String} {es : List (String × Setting)}
    (parsed : Toml.parse? text = some es) : (Layer.file (some text)).entries = .ok es := by
  have read : Layering.entries? text = some es := parsed
  rw [Layer.entries, read]

theorem entries_numbered :
    numbered.entries = .ok [("chart", .table [("row_numbers", .flag true)])] := by
  have tokens : Toml.tokens? (Toml.dropMark "[chart]\nrow_numbers = true\n".toList) =
      some [.mark '[', .bare "chart".toList, .mark ']', .lineEnd, .bare "row_numbers".toList,
        .blank [' '], .mark '=', .blank [' '], .bare "true".toList, .lineEnd] := by
    decide +kernel
  apply entries_of_parse?
  rw [Toml.parse?, tokens]
  rfl

theorem entries_emptied :
    emptied.entries = .ok [("chart", .table [("row_numbers", .table [])])] := by
  have tokens : Toml.tokens? (Toml.dropMark "[chart.row_numbers]\n".toList) =
      some [.mark '[', .bare "chart".toList, .mark '.', .bare "row_numbers".toList, .mark ']',
        .lineEnd] := by
    decide +kernel
  apply entries_of_parse?
  rw [Toml.parse?, tokens]
  rfl

theorem entries_listed : listed.entries = .ok [("chart[0]", .flag true)] := by
  have tokens : Toml.tokens? (Toml.dropMark "\"chart[0]\" = true\n".toList) =
      some [.quoted false "chart[0]", .blank [' '], .mark '=', .blank [' '], .bare "true".toList,
        .lineEnd] := by
    decide +kernel
  apply entries_of_parse?
  rw [Toml.parse?, tokens]
  rfl

end Settings

end Knitting
