import Knitting.Files.Tree
import Mathlib.Data.List.Nodup

/-! # Places of a file tree

What stands at a place after something has been put somewhere, and which places a path still leads
to: all of them, as long as folders are kept.
-/
namespace Knitting.FileTree

variable {t u v : FileTree}

@[simp] theorem node?_nil (t : FileTree) : t.node? [] = some .folder := if_pos rfl

theorem lookup_filter_ne (entries : List (FilePlace × Node)) (place p : FilePlace)
    (h : p ≠ place) : (entries.filter (·.1 ≠ place)).lookup p = entries.lookup p := by
  induction entries with
  | nil => rfl
  | cons x rest ih =>
    obtain ⟨q, node⟩ := x
    by_cases same : q = place
    · subst same
      rw [List.filter_cons_of_neg (by simp), ih, List.lookup_cons, beq_eq_false_iff_ne.2 h]
    · rw [List.filter_cons_of_pos (by simpa using same), List.lookup_cons, List.lookup_cons, ih]

theorem node?_put {place : FilePlace} (below : place ≠ []) (node : Node) (p : FilePlace) :
    (t.put place node).node? p = if p = place then some node else t.node? p := by
  by_cases same : p = place
  · subst same
    simp [node?, put, below]
  · rw [if_neg same]
    simp only [node?, put, erase, List.lookup_cons, beq_eq_false_iff_ne.2 same,
      lookup_filter_ne _ _ _ same]

theorem mem_entries_iff (t : FileTree) {place : FilePlace} (below : place ≠ []) :
    place ∈ t.entries.map Prod.fst ↔ (t.node? place).isSome := by
  rw [node?, if_neg below]
  induction t.entries with
  | nil => simp
  | cons x rest ih =>
    obtain ⟨q, node⟩ := x
    by_cases same : place = q
    · simp [same]
    · simp only [List.map_cons, List.mem_cons, same, false_or, ih, List.lookup_cons,
        beq_eq_false_iff_ne.2 same]

def nameIn? (folder : FilePlace) : FilePlace → Option String
  | name :: place => if place = folder then some name else none
  | [] => none

theorem nameIn?_eq_some {folder place : FilePlace} {name : String} :
    nameIn? folder place = some name ↔ place = name :: folder := by
  cases place with
  | nil => simp [nameIn?]
  | cons other outer => simp [nameIn?, and_comm]

theorem namesIn_eq (t : FileTree) (folder : FilePlace) :
    t.namesIn folder = (t.entries.map Prod.fst).filterMap (nameIn? folder) := by
  rw [List.filterMap_map, namesIn]
  congr 1
  funext ⟨place, node⟩
  cases place <;> rfl

theorem mem_namesIn {folder : FilePlace} {name : String} :
    name ∈ t.namesIn folder ↔ (t.node? (name :: folder)).isSome := by
  rw [← mem_entries_iff t (List.cons_ne_nil name folder), namesIn_eq]
  simp only [List.mem_filterMap, nameIn?_eq_some, exists_eq_right]

theorem nodup_namesIn (t : FileTree) (folder : FilePlace) : (t.namesIn folder).Nodup := by
  rw [namesIn_eq]
  refine List.Nodup.filterMap (fun place place' name named named' => ?_) t.nodup
  exact (nameIn?_eq_some.1 named).trans (nameIn?_eq_some.1 named').symm

section Doing
variable {path content : String}

theorem read_eq_ok : t.read path = .ok content ↔
    ∃ place, t.resolve path = .ok place ∧ t.node? place = some (.file content) := by
  rw [read]
  cases t.resolve path with
  | error e => simp
  | ok place =>
    cases node : t.node? place with
    | none => simp [node]
    | some node' => cases node' <;> simp [node]

theorem list_eq_ok {names : List String} : t.list path = .ok names ↔
    ∃ place, t.resolve path = .ok place ∧ t.node? place = some .folder ∧
      t.namesIn place = names := by
  rw [list]
  cases t.resolve path with
  | error e => simp
  | ok place =>
    cases node : t.node? place with
    | none => simp [node]
    | some node' => cases node' <;> simp [node]

theorem write_eq_ok : t.write path content = .ok u ↔
    ∃ place, t.resolve path = .ok place ∧ t.node? place ≠ some .folder ∧
      t.put place (.file content) = u := by
  rw [write]
  cases t.resolve path with
  | error e => simp
  | ok place =>
    cases node : t.node? place with
    | none => simp [node]
    | some node' => cases node' <;> simp [node]

theorem ne_nil_of_node? {place : FilePlace} (h : t.node? place ≠ some .folder) : place ≠ [] := by
  rintro rfl
  exact h t.node?_nil

end Doing

/-- Every folder is still there, and so is the working folder. -/
structure Keeps (t u : FileTree) : Prop where
  current : u.current = t.current
  folder : ∀ p, t.node? p = some .folder → u.node? p = some .folder

theorem Keeps.refl (t : FileTree) : t.Keeps t := ⟨rfl, fun _ h => h⟩

theorem Keeps.trans (h : t.Keeps u) (h' : u.Keeps v) : t.Keeps v :=
  ⟨h'.current.trans h.current, fun p hp => h'.folder p (h.folder p hp)⟩

theorem Keeps.walk (h : t.Keeps u) {names : List String} {place target : FilePlace}
    (walked : t.walk place names = .ok target) : u.walk place names = .ok target := by
  induction names generalizing place with
  | nil => exact walked
  | cons name names ih =>
    rw [FileTree.walk] at walked ⊢
    cases node : t.node? place with
    | none => simp [node] at walked
    | some node' =>
      cases node' with
      | file content => simp [node] at walked
      | folder =>
        rw [h.folder _ node]
        simp only [node] at walked
        dsimp only
        split_ifs at walked ⊢ <;> exact ih walked

theorem Keeps.resolve (h : t.Keeps u) {path : String} {place : FilePlace}
    (resolved : t.resolve path = .ok place) : u.resolve path = .ok place := by
  have origin : u.origin path = t.origin path := by simp only [FileTree.origin, h.current]
  rw [FileTree.resolve] at resolved ⊢
  split at resolved
  · contradiction
  · rename_i fault
    rw [origin]
    exact h.walk resolved

theorem keeps_put {place : FilePlace} (node : Node) (below : place ≠ [])
    (free : t.node? place ≠ some .folder) : t.Keeps (t.put place node) := by
  refine ⟨rfl, fun p hp => ?_⟩
  rw [node?_put below, if_neg (by rintro rfl; exact free hp), hp]

/-- Nothing is different but for folders that have been made where nothing was. -/
structure AddsFolders (t u : FileTree) : Prop where
  current : u.current = t.current
  node : ∀ p, u.node? p = t.node? p ∨ t.node? p = none ∧ u.node? p = some .folder

namespace AddsFolders

theorem refl (t : FileTree) : t.AddsFolders t := ⟨rfl, fun _ => .inl rfl⟩

theorem trans (h : t.AddsFolders u) (h' : u.AddsFolders v) : t.AddsFolders v := by
  refine ⟨h'.current.trans h.current, fun p => ?_⟩
  rcases h.node p with same | ⟨absent, made⟩ <;> rcases h'.node p with same' | ⟨absent', made'⟩
  · exact .inl (same'.trans same)
  · exact .inr ⟨same ▸ absent', made'⟩
  · exact .inr ⟨absent, same'.trans made⟩
  · rw [made] at absent'
    contradiction

theorem keeps (h : t.AddsFolders u) : t.Keeps u := by
  refine ⟨h.current, fun p hp => ?_⟩
  rcases h.node p with same | ⟨absent, -⟩
  · exact same.trans hp
  · rw [hp] at absent
    contradiction

theorem file_iff (h : t.AddsFolders u) {p : FilePlace} {content : String} :
    u.node? p = some (.file content) ↔ t.node? p = some (.file content) := by
  rcases h.node p with same | ⟨absent, made⟩
  · rw [same]
  · simp [absent, made]

end AddsFolders

section Making
variable {refuse : FileTree → FilePlace → Option FileError}

theorem makeFolder_eq_ok {start : FilePlace} {names : List String} :
    t.makeFolder refuse start names = .ok u ↔
      ∃ place, t.walk start names = .ok place ∧ t.node? place = none ∧ refuse t place = none ∧
        t.put place .folder = u := by
  rw [makeFolder]
  cases t.walk start names with
  | error e => simp
  | ok place =>
    cases node : t.node? place with
    | some node' => simp [node]
    | none => cases refusal : refuse t place <;> simp [node, refusal]

theorem makeFolder_adds {start : FilePlace} {names : List String}
    (h : t.makeFolder refuse start names = .ok u) : t.AddsFolders u := by
  obtain ⟨place, -, absent, -, rfl⟩ := makeFolder_eq_ok.1 h
  have below : place ≠ [] := by
    rintro rfl
    simp at absent
  refine ⟨rfl, fun p => ?_⟩
  rw [node?_put below]
  by_cases same : p = place
  · exact .inr ⟨same ▸ absent, if_pos same⟩
  · exact .inl (if_neg same)

def leading (names : List String) : List String := names.filter fun n => n ≠ "" ∧ n ≠ "."

theorem leading_leading (names : List String) : leading (leading names) = leading names := by
  simp [leading]

section Each
-- What holds from any tree to the one with a folder made in it, and from one tree to the next but
-- one, holds for all folders that are made for a path. Each is at the end of a beginning of it.
variable {R : FileTree → FileTree → Prop} (refl : ∀ t, R t t)
  (trans : ∀ {t u v}, R t u → R u v → R t v) {start : FilePlace} {route : List String → Prop}
  (make : ∀ {t u : FileTree} {part : List String}, route part →
    t.makeFolder refuse start part = .ok u → R t u)

include refl make in
theorem tryFolder_each {part : List String} {r : Except FileError Unit} (on : route part)
    (h : t.tryFolder refuse start part = some (r, u)) : R t u := by
  rw [tryFolder] at h
  split at h
  · rename_i made
    cases h
    exact make on made
  · contradiction
  · cases h
    exact refl _

include refl trans make

theorem withFolders_each {around : FileTree → Except FileError Unit × FileTree}
    (before : ∀ t, R t (around t).2) {part : List String} (on : route part) (t : FileTree) :
    R t (t.withFolders refuse around start part).2 := by
  have made := before t
  unfold withFolders
  split
  · rename_i tried
    exact tryFolder_each refl make on tried
  · split <;> rename_i outcome <;> rw [outcome] at made
    · exact made
    · refine trans made ?_
      cases tried : FileTree.tryFolder refuse _ start part with
      | none => exact refl _
      | some result => exact tryFolder_each refl make on tried

theorem makeFolderPath_each {names : List String}
    (all : ∀ part, part ≠ [] → part <+: names.reverse → route part) (t : FileTree) :
    R t (makeFolderPath refuse start names t).2 := by
  induction names generalizing t with
  | nil => exact refl t
  | cons name outer ih =>
    have shorter : outer.reverse <+: (name :: outer).reverse := by simp
    exact withFolders_each refl trans make
      (ih fun part some h => all part some (h.trans shorter))
      (all _ (by simp) List.prefix_rfl) t

end Each

/-- Only the root is named by slashes alone. -/
theorem origin_eq_nil_of_names {path : String} (sound : pathFault path = none)
    (none : (Path.names path).filter (· ≠ "") = []) : t.origin path = [] := by
  have some : path.toList ≠ [] := by
    intro empty
    rw [String.toList_eq_nil_iff.1 empty] at sound
    simp [pathFault] at sound
  obtain ⟨c, cs, written⟩ := List.exists_cons_of_ne_nil some
  by_cases slash : c = '/'
  · simp [origin, Path.isAbsolute, written, slash]
  · simp only [Path.names, written, Path.splitNames, if_neg slash] at none
    split at none <;> simp at none

theorem makeFoldersUnless_each {R : FileTree → FileTree → Prop} (refl : ∀ t, R t t)
    (trans : ∀ {t u v}, R t u → R u v → R t v) (t : FileTree) (path : String)
    (make : ∀ {u v : FileTree} {part : List String},
      leading part <+: leading (Path.names path) ∧ (part = [] → t.origin path = []) →
        u.makeFolder refuse (t.origin path) part = .ok v → R u v) :
    R t (t.makeFoldersUnless refuse path).2 := by
  unfold makeFoldersUnless
  split
  · exact refl t
  · exact refl t
  · rename_i sound
    have whole : leading ((Path.names path).filter (· ≠ "")) = leading (Path.names path) := by
      rw [leading, List.filter_filter]
      exact List.filter_congr fun name _ => by by_cases empty : name = "" <;> simp [empty]
    have onward : ((Path.names path).filter (· ≠ "")).filter (· ≠ ".") =
        leading (Path.names path) := by
      rw [List.filter_filter]
      exact List.filter_congr fun name _ => by simp [Bool.and_comm]
    refine withFolders_each refl trans make (makeFolderPath_each refl trans make ?_)
      ⟨whole ▸ List.prefix_rfl, origin_eq_nil_of_names sound⟩ t
    intro part some h
    refine ⟨?_, fun empty => absurd empty some⟩
    rw [onward, List.tail_reverse, List.reverse_reverse] at h
    rw [← leading_leading (Path.names path)]
    exact (h.trans (List.dropLast_prefix _)).filter _

theorem makeFoldersUnless_adds (refuse : FileTree → FilePlace → Option FileError)
    (t : FileTree) (path : String) : t.AddsFolders (t.makeFoldersUnless refuse path).2 :=
  makeFoldersUnless_each .refl .trans t path fun _ => makeFolder_adds

end Making

theorem makeFolders_adds (t : FileTree) (path : String) : t.AddsFolders (t.makeFolders path).2 :=
  t.makeFoldersUnless_adds _ path

theorem walk_append (t : FileTree) (place : FilePlace) (outer inner : List String) :
    t.walk place (outer ++ inner) = (t.walk place outer).bind fun p => t.walk p inner := by
  induction outer generalizing place with
  | nil => rfl
  | cons name outer ih =>
    rw [List.cons_append, walk, walk]
    split
    · rfl
    · rfl
    · split_ifs <;> first | exact ih _ | rfl

/-- Names that stay where they are, as those between slashes side by side do, make no difference to
where a path leads. -/
theorem walk_filter {keep : String → Bool}
    (stays : ∀ name, keep name = false → name = "" ∨ name = ".") {start place : FilePlace}
    {names : List String} (walked : t.walk start names = .ok place) :
    t.walk start (names.filter keep) = .ok place := by
  induction names generalizing start with
  | nil => exact walked
  | cons name names ih =>
    rw [walk] at walked
    cases node : t.node? start with
    | none => simp [node] at walked
    | some node' =>
      cases node' with
      | file content => simp [node] at walked
      | folder =>
        simp only [node] at walked
        cases kept : keep name with
        | false =>
          rw [if_pos (stays name kept)] at walked
          rw [List.filter_cons_of_neg (by simp [kept])]
          exact ih walked
        | true =>
          rw [List.filter_cons_of_pos kept, walk, node]
          dsimp only
          split_ifs at walked ⊢ <;> exact ih walked

/-- A folder that is there is not made again. -/
theorem makeFolders_of_folder {path : String} {place : FilePlace}
    (resolved : t.resolve path = .ok place) (folder : t.node? place = some .folder) :
    t.makeFolders path = (.ok (), t) := by
  rw [resolve] at resolved
  cases fault : pathFault path with
  | some e => simp [fault] at resolved
  | none =>
    simp only [fault] at resolved
    have walked : t.walk (t.origin path) ((Path.names path).filter (· ≠ "")) = .ok place :=
      walk_filter (by simp) resolved
    have tried : t.tryFolder (fun _ _ => none) (t.origin path)
        ((Path.names path).filter (· ≠ "")) = some (.ok (), t) := by
      simp only [tryFolder, makeFolder, leadsToFolder, walked, folder, decide_true, if_true]
    simp only [makeFolders, makeFoldersUnless, fault, withFolders, tried]

end Knitting.FileTree
