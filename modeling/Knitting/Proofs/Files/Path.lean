import Knitting.Proofs.Files.Tree

/-! # Paths of files in a folder

The path of a file in a folder leads to the folder first, however the path of the folder is written,
and from there to the name of the file.
-/
namespace Knitting

namespace Path

theorem splitNames_append_slash (cs ds : List Char) :
    splitNames (cs ++ '/' :: ds) = splitNames cs ++ splitNames ds := by
  induction cs with
  | nil => rfl
  | cons c cs ih =>
    rw [List.cons_append, splitNames, splitNames, ih]
    split_ifs
    · rfl
    · cases split : splitNames cs with
      | nil => exact absurd split (splitNames_ne_nil cs)
      | cons name names => rfl

theorem splitNames_of_not_mem {cs : List Char} (h : '/' ∉ cs) : splitNames cs = [cs] := by
  induction cs with
  | nil => rfl
  | cons c cs ih =>
    obtain ⟨other, rest⟩ := not_or.1 (mt List.mem_cons.2 h)
    rw [splitNames, if_neg (Ne.symm other), ih rest]

def outer (folder : String) : List String :=
  if folder = "" then []
  else if folder.toList.getLast? = some '/' then (names folder).dropLast
  else names folder

theorem names_eq_outer {folder : String} (h : folder ≠ "") :
    names folder = outer folder ∨ names folder = outer folder ++ [""] := by
  rw [outer, if_neg h]
  split_ifs with slash
  · obtain ⟨cs, written⟩ := List.getLast?_eq_some_iff.1 slash
    right
    rw [names, written, splitNames_append_slash]
    simp [splitNames]
  · exact .inl rfl

/-- A name that leads from a folder to something in it. -/
structure IsName (file : String) : Prop where
  plain : '/' ∉ file.toList
  some : file ≠ ""
  other : file ≠ "."
  notUp : file ≠ ".."

section Joined

variable {folder file : String} (plain : '/' ∉ file.toList)
include plain

theorem not_isAbsolute : ¬isAbsolute file := by
  intro absolute
  exact plain (List.mem_of_mem_head? (by simpa [isAbsolute] using absolute))

theorem isAbsolute_join : isAbsolute (join folder file) = isAbsolute folder := by
  have relative := not_isAbsolute plain
  by_cases empty : folder = ""
  · subst empty
    rw [join, if_pos (.inr rfl), Bool.eq_false_iff.2 relative]
    rfl
  · obtain ⟨c, cs, written⟩ := List.exists_cons_of_ne_nil (mt String.toList_eq_nil_iff.1 empty)
    rw [join, if_neg (by simp [relative, empty])]
    split_ifs <;> simp [isAbsolute, written]

theorem names_join : names (join folder file) = outer folder ++ [file] := by
  have relative := not_isAbsolute plain
  have alone := splitNames_of_not_mem plain
  by_cases empty : folder = ""
  · rw [join, if_pos (.inr empty), outer, if_pos empty, names, alone]
    simp
  · rw [join, if_neg (by simp [relative, empty]), outer, if_neg empty]
    split_ifs with slash
    · obtain ⟨cs, written⟩ := List.getLast?_eq_some_iff.1 slash
      rw [names, names, String.toList_append, written, List.append_assoc, List.singleton_append,
        splitNames_append_slash, splitNames_append_slash, alone]
      simp [splitNames]
    · have slashed : (folder ++ "/" ++ file).toList = folder.toList ++ '/' :: file.toList := by
        simp
      rw [names, slashed, splitNames_append_slash, alone]
      simp [names]

end Joined

end Path

namespace FileTree

variable {t : FileTree} {folder file : String} {home place : FilePlace}

theorem walk_singleton (h : t.walk home [file] = .ok place) :
    t.node? home = some .folder ∧
      ((file = "" ∨ file = ".") ∧ place = home ∨ file = ".." ∧ place = home.tail ∨
        file ≠ "" ∧ place = file :: home) := by
  rw [walk] at h
  cases node : t.node? home with
  | none => simp [node] at h
  | some node' =>
    cases node' with
    | file content => simp [node] at h
    | folder =>
      simp only [node, walk] at h
      refine ⟨rfl, ?_⟩
      split_ifs at h with stays up
      · exact .inl ⟨stays, (Except.ok.inj h).symm⟩
      · exact .inr (.inl ⟨up, (Except.ok.inj h).symm⟩)
      · exact .inr (.inr ⟨fun empty => stays (.inl empty), (Except.ok.inj h).symm⟩)

/-- The way to a folder is part of the way to the files in it. -/
theorem walk_outer (resolved : t.resolve folder = .ok home) :
    t.walk (t.origin folder) (Path.outer folder) = .ok home := by
  have some : folder ≠ "" := by
    rintro rfl
    simp [resolve, pathFault] at resolved
  rw [resolve] at resolved
  split at resolved
  · contradiction
  · rcases Path.names_eq_outer some with same | slash
    · rwa [same] at resolved
    · rw [slash, walk_append] at resolved
      cases walked : t.walk (t.origin folder) (Path.outer folder) with
      | error e =>
        rw [walked] at resolved
        contradiction
      | ok p =>
        rw [walked] at resolved
        obtain ⟨-, ⟨-, rfl⟩ | ⟨up, -⟩ | ⟨named, -⟩⟩ := walk_singleton resolved
        · rfl
        · contradiction
        · contradiction

theorem resolve_of_walk_outer (sound : pathFault folder = none)
    (walked : t.walk (t.origin folder) (Path.outer folder) = .ok home)
    (there : t.node? home = some .folder) : t.resolve folder = .ok home := by
  have some : folder ≠ "" := by
    rintro rfl
    simp [pathFault] at sound
  rw [resolve, sound]
  dsimp only
  rcases Path.names_eq_outer some with same | slash
  · rw [same, walked]
  · rw [slash, walk_append, walked]
    simp [Except.bind, walk, there]

/-- The path of a file in a folder leads through the folder. -/
theorem resolve_join (plain : '/' ∉ file.toList)
    (resolved : t.resolve (Path.join folder file) = .ok place) :
    ∃ home, t.walk (t.origin folder) (Path.outer folder) = .ok home ∧
      t.walk home [file] = .ok place := by
  have origin : t.origin (Path.join folder file) = t.origin folder := by
    rw [FileTree.origin, FileTree.origin, Path.isAbsolute_join plain]
  rw [resolve] at resolved
  split at resolved
  · contradiction
  · rw [Path.names_join plain, origin, walk_append] at resolved
    cases walked : t.walk (t.origin folder) (Path.outer folder) with
    | error e =>
      rw [walked] at resolved
      contradiction
    | ok p =>
      rw [walked] at resolved
      exact ⟨p, rfl, resolved⟩

theorem resolve_join_name (named : Path.IsName file)
    (resolved : t.resolve (Path.join folder file) = .ok place) :
    ∃ home, t.walk (t.origin folder) (Path.outer folder) = .ok home ∧
      t.node? home = some .folder ∧ place = file :: home := by
  obtain ⟨home, walked, last⟩ := resolve_join named.plain resolved
  obtain ⟨there, ⟨stays, -⟩ | ⟨up, -⟩ | ⟨-, inside⟩⟩ := walk_singleton last
  · exact absurd stays (not_or.2 ⟨named.some, named.other⟩)
  · exact absurd up named.notUp
  · exact ⟨home, walked, there, inside⟩

/-- In one folder, different names lead to different places. -/
theorem resolve_join_ne {file' : String} {place' : FilePlace} (named : Path.IsName file)
    (plain : '/' ∉ file'.toList) (differ : file' ≠ file)
    (resolved : t.resolve (Path.join folder file) = .ok place)
    (resolved' : t.resolve (Path.join folder file') = .ok place') : place' ≠ place := by
  obtain ⟨home, walked, -, rfl⟩ := resolve_join_name named resolved
  obtain ⟨home', walked', last⟩ := resolve_join plain resolved'
  obtain rfl : home' = home := Except.ok.inj (walked'.symm.trans walked)
  obtain ⟨-, ⟨-, rfl⟩ | ⟨-, rfl⟩ | ⟨-, rfl⟩⟩ := walk_singleton last
  · exact fun same => by simpa using congrArg List.length same
  · intro same
    have length := congrArg List.length same
    rw [List.length_tail, List.length_cons] at length
    omega
  · exact fun same => differ (List.cons.inj same).1

end FileTree

end Knitting
