import Knitting.Proofs.Files.Path

/-! # Folders that are made

Folders are made for a path only if it leads to nothing, and all of them lie on the way. So the
folder at its end is empty when it is new, unless the way behind a missing folder turns back.
-/
namespace Knitting.FileTree

variable {t u v : FileTree} {start place p q : FilePlace} {name : String} {names : List String}
  {path : String}

theorem walk_cons (t : FileTree) (start : FilePlace) (name : String) (names : List String) :
    t.walk start (name :: names) = (t.walk start [name]).bind fun p => t.walk p names :=
  t.walk_append start [name] names

theorem walk_singleton_of_absent (absent : t.node? start = none) (name : String) :
    t.walk start [name] = .error .missing := by
  simp [walk, absent]

/-- A name leads nowhere from a place where nothing is, and from there only. -/
theorem walk_singleton_eq_missing :
    t.walk start [name] = .error .missing ↔ t.node? start = none := by
  refine ⟨fun broken => ?_, fun absent => walk_singleton_of_absent absent name⟩
  cases node : t.node? start with
  | none => rfl
  | some node' =>
    cases node' with
    | file content => simp [walk, node] at broken
    | folder =>
      simp only [walk, node] at broken
      split_ifs at broken
      cases broken

/-- There is nothing where the names lead to, or a folder on the way is missing. -/
def Misses (t : FileTree) (start : FilePlace) (names : List String) : Prop :=
  t.walk start names = .error .missing ∨
    ∃ place, t.walk start names = .ok place ∧ t.node? place = none

theorem list_eq_missing_iff : t.list path = .error .missing ↔
    pathFault path = some .missing ∨
      pathFault path = none ∧ t.Misses (t.origin path) (Path.names path) := by
  rw [list, resolve, Misses]
  cases pathFault path with
  | some e => simp
  | none =>
    cases t.walk (t.origin path) (Path.names path) with
    | error e => simp
    | ok place =>
      cases node : t.node? place with
      | none => simp [node]
      | some node' => cases node' <;> simp [node]

theorem misses_cons_iff : t.Misses start (name :: names) ↔
    t.node? start = none ∨ ∃ next, t.walk start [name] = .ok next ∧ t.Misses next names := by
  have broken : t.walk start [name] = .error .missing ↔ t.node? start = none :=
    walk_singleton_eq_missing
  rw [Misses, walk_cons, ← broken]
  cases one : t.walk start [name] with
  | error e => simp [Except.bind]
  | ok next => simp [Except.bind, Misses]

theorem Misses.exists_split (h : t.Misses start names) :
    ∃ outer inner place, names = outer ++ inner ∧ t.walk start outer = .ok place ∧
      t.node? place = none := by
  induction names generalizing start with
  | nil =>
    obtain broken | ⟨place, walked, absent⟩ := h
    · cases broken
    · exact ⟨[], [], place, rfl, walked, absent⟩
  | cons name names ih =>
    obtain absent | ⟨next, one, later⟩ := misses_cons_iff.1 h
    · exact ⟨[], name :: names, start, rfl, rfl, absent⟩
    · obtain ⟨outer, inner, place, rfl, walked, absent⟩ := ih later
      refine ⟨name :: outer, inner, place, rfl, ?_, absent⟩
      rw [walk_cons, one]
      exact walked

theorem not_misses_of_file {content : String} (file : t.node? start = some (.file content)) :
    ¬t.Misses start names := by
  cases names <;> simp [Misses, walk, file]

/-- Names that stay where they are do not lead away from what is there. -/
theorem misses_of_filter {keep : String → Bool}
    (stays : ∀ name, keep name = false → name = "" ∨ name = ".")
    (h : t.Misses start (names.filter keep)) : t.Misses start names := by
  induction names generalizing start with
  | nil => exact h
  | cons name names ih =>
    cases kept : keep name with
    | true =>
      rw [List.filter_cons_of_pos kept] at h
      obtain absent | ⟨next, one, later⟩ := misses_cons_iff.1 h
      · exact misses_cons_iff.2 (.inl absent)
      · exact misses_cons_iff.2 (.inr ⟨next, one, ih later⟩)
    | false =>
      rw [List.filter_cons_of_neg (by simp [kept])] at h
      cases node : t.node? start with
      | none => exact misses_cons_iff.2 (.inl node)
      | some node' =>
        cases node' with
        | file content => exact absurd (ih h) (not_misses_of_file node)
        | folder =>
          refine misses_cons_iff.2 (.inr ⟨start, ?_, ih h⟩)
          simp [walk, node, stays name kept]

theorem misses_of_absent (absent : t.node? start = none) (names : List String) :
    t.Misses start names := by
  cases names with
  | nil => exact .inr ⟨start, rfl, absent⟩
  | cons name names => exact misses_cons_iff.2 (.inl absent)

theorem Misses.filter {keep : String → Bool}
    (stays : ∀ name, keep name = false → name = "" ∨ name = ".") (h : t.Misses start names) :
    t.Misses start (names.filter keep) := by
  induction names generalizing start with
  | nil => exact h
  | cons name names ih =>
    obtain absent | ⟨next, one, later⟩ := misses_cons_iff.1 h
    · exact misses_of_absent absent _
    · cases kept : keep name with
      | true =>
        rw [List.filter_cons_of_pos kept]
        exact misses_cons_iff.2 (.inr ⟨next, one, ih later⟩)
      | false =>
        rw [List.filter_cons_of_neg (by simp [kept])]
        have stayed : t.walk start ([name].filter keep) = .ok next := walk_filter stays one
        rw [List.filter_cons_of_neg (by simp [kept])] at stayed
        obtain rfl := Except.ok.inj stayed
        exact ih later

variable (refuse : FileTree → FilePlace → Option FileError)

theorem tryFolder_eq_or_misses (t : FileTree) (start : FilePlace) (names : List String) :
    (∃ result, t.tryFolder refuse start names = some (result, t)) ∨ t.Misses start names := by
  rw [tryFolder, makeFolder]
  cases walked : t.walk start names with
  | error e =>
    cases e with
    | missing => exact .inr (.inl walked)
    | _ => exact .inl ⟨_, rfl⟩
  | ok place =>
    cases node : t.node? place with
    | some node' => exact .inl ⟨_, by simp only [node]; rfl⟩
    | none => exact .inr (.inr ⟨place, walked, node⟩)

/-- If a path leads to something or cannot be a path, no folder is made for it. -/
theorem makeFoldersUnless_of_list (h : t.list path ≠ .error .missing) :
    (t.makeFoldersUnless refuse path).2 = t := by
  rw [ne_eq, list_eq_missing_iff, not_or, not_and] at h
  obtain ⟨nonempty, leads⟩ := h
  unfold makeFoldersUnless
  split
  · rfl
  · rfl
  · rename_i sound
    obtain ⟨result, tried⟩ | missed :=
      t.tryFolder_eq_or_misses refuse (t.origin path) ((Path.names path).filter (· ≠ ""))
    · simp only [withFolders, tried]
    · exact absurd (misses_of_filter (by simp) missed) (leads sound)

theorem not_misses_of_folder (walked : t.walk start names = .ok place)
    (folder : t.node? place = some .folder) : ¬t.Misses start names := by
  simp [Misses, walked, folder]

theorem not_misses_of_tryFolder (done : t.tryFolder refuse start names = some (.ok (), u)) :
    ¬u.Misses start names := by
  rw [tryFolder] at done
  split at done
  · rename_i made
    cases done
    obtain ⟨place, walked, absent, -, rfl⟩ := makeFolder_eq_ok.1 made
    have below : place ≠ [] := by
      rintro rfl
      simp at absent
    refine not_misses_of_folder ((makeFolder_adds made).keeps.walk walked) ?_
    rw [node?_put below, if_pos rfl]
  · cases done
  · cases leads : t.leadsToFolder start names with
    | false => simp [leads] at done
    | true =>
      simp only [leads, if_true, Option.some.injEq, Prod.mk.injEq, true_and] at done
      subst done
      rw [leadsToFolder] at leads
      split at leads
      · cases leads
      · rename_i place walked
        exact not_misses_of_folder walked (of_decide_eq_true leads)

theorem list_ne_missing_of_made (sound : pathFault path = none)
    (made : t.makeFoldersUnless refuse path = (.ok (), u)) : u.list path ≠ .error .missing := by
  have adds : t.AddsFolders u := by simpa only [made] using t.makeFoldersUnless_adds refuse path
  have origin : u.origin path = t.origin path := by simp only [FileTree.origin, adds.current]
  rw [ne_eq, list_eq_missing_iff, origin, not_or, not_and]
  refine ⟨by simp [sound], fun _ misses => ?_⟩
  rw [makeFoldersUnless, sound] at made
  dsimp only [withFolders] at made
  have missed : u.Misses (t.origin path) ((Path.names path).filter (· ≠ "")) :=
    misses.filter (by simp)
  split at made
  · rename_i tried
    exact not_misses_of_tryFolder refuse (made ▸ tried) missed
  · split at made
    · cases made
    · rename_i around _
      cases again : around.tryFolder refuse (t.origin path)
          ((Path.names path).filter (· ≠ "")) with
      | none =>
        rw [again] at made
        cases made
      | some result =>
        rw [again, Option.getD_some] at made
        exact not_misses_of_tryFolder refuse (made ▸ again) missed

theorem leading_append (outer inner : List String) :
    leading (outer ++ inner) = leading outer ++ leading inner := List.filter_append ..

theorem walk_leading (walked : t.walk start names = .ok place) :
    t.walk start (leading names) = .ok place :=
  walk_filter (fun name h => by simpa [or_iff_not_imp_left] using h) walked

/-- What is different from `t` in `u` is where one of the routes leads. -/
structure ChangedAlong (start : FilePlace) (route : List String → Prop) (t u : FileTree) :
    Prop where
  keeps : t.Keeps u
  node : ∀ p, u.node? p = t.node? p ∨ ∃ names, route names ∧ u.walk start names = .ok p

section Routes
variable {route : List String → Prop}

theorem ChangedAlong.refl (t : FileTree) : ChangedAlong start route t t :=
  ⟨.refl t, fun _ => .inl rfl⟩

theorem ChangedAlong.trans (h : ChangedAlong start route t u) (h' : ChangedAlong start route u v) :
    ChangedAlong start route t v := by
  refine ⟨h.keeps.trans h'.keeps, fun p => ?_⟩
  obtain same' | made' := h'.node p
  · obtain same | ⟨names, on, leads⟩ := h.node p
    · exact .inl (same'.trans same)
    · exact .inr ⟨names, on, h'.keeps.walk leads⟩
  · exact .inr made'

theorem makeFolder_along (on : route names) (h : t.makeFolder refuse start names = .ok u) :
    ChangedAlong start route t u := by
  have keeps := (makeFolder_adds h).keeps
  obtain ⟨place, walked, absent, -, rfl⟩ := makeFolder_eq_ok.1 h
  refine ⟨keeps, fun p => ?_⟩
  by_cases same : p = place
  · exact .inr ⟨names, on, same ▸ keeps.walk walked⟩
  · have below : place ≠ [] := by
      rintro rfl
      simp at absent
    exact .inl (by rw [node?_put below, if_neg same])

end Routes

theorem makeFoldersUnless_along (t : FileTree) (path : String) :
    ChangedAlong (t.origin path) (fun part => leading part <+: leading (Path.names path)) t
      (t.makeFoldersUnless refuse path).2 :=
  makeFoldersUnless_each .refl .trans t path fun on h => makeFolder_along refuse on.1 h

/-- Whatever there is is in a folder. -/
def Closed (t : FileTree) : Prop :=
  ∀ name place, (t.node? (name :: place)).isSome → t.node? place = some .folder

theorem closed_iff :
    t.Closed ↔ ∀ place ∈ t.entries.map Prod.fst, t.node? place.tail = some .folder := by
  constructor
  · intro closed place mem
    cases place with
    | nil => exact t.node?_nil
    | cons name place =>
      exact closed name place ((t.mem_entries_iff (List.cons_ne_nil name place)).1 mem)
  · intro inside name place there
    exact inside _ ((t.mem_entries_iff (List.cons_ne_nil name place)).2 there)

instance (t : FileTree) : Decidable t.Closed := decidable_of_iff _ closed_iff.symm

theorem Closed.none_below (closed : t.Closed) (absent : t.node? place = none) (more : FilePlace) :
    t.node? (more ++ place) = none := by
  induction more with
  | nil => exact absent
  | cons name more ih =>
    cases node : t.node? (name :: (more ++ place)) with
    | none => exact node
    | some node' =>
      have folder := closed name (more ++ place) (by rw [node]; rfl)
      rw [ih] at folder
      cases folder

/-- A name that leads one folder further in. -/
def GoesOn (name : String) : Prop := name ≠ ".." ∧ name.utf8ByteSize ≤ nameLimit
  deriving Decidable

/-- Behind a folder that is missing, the path goes straight on. -/
def Straight (t : FileTree) (path : String) : Prop :=
  ∀ outer inner place, Path.names path = outer ++ inner →
    t.walk (t.origin path) outer = .ok place → t.node? place = none → ∀ name ∈ inner, GoesOn name

theorem straight_of_names (h : ∀ name ∈ Path.names path, GoesOn name) (t : FileTree) :
    t.Straight path := by
  intro outer inner place names _ _ name mem
  exact h name (names ▸ List.mem_append_right outer mem)

/-- From a place where nothing was, names that go straight on lead further in if they lead
anywhere. -/
theorem AddsFolders.walk_below (adds : t.AddsFolders u) (closed : t.Closed)
    (absent : t.node? place = none) (straight : ∀ name ∈ names, GoesOn name) :
    u.walk place names = .error .missing ∨
      u.walk place names = .ok ((leading names).reverse ++ place) := by
  induction names generalizing place with
  | nil => exact .inr rfl
  | cons name names ih =>
    rw [List.forall_mem_cons] at straight
    obtain ⟨⟨notUp, short⟩, later⟩ := straight
    rw [walk]
    cases node : u.node? place with
    | none => exact .inl rfl
    | some node' =>
      cases node' with
      | file content =>
        rw [adds.file_iff, absent] at node
        cases node
      | folder =>
        dsimp only
        by_cases stays : name = "" ∨ name = "."
        · have dropped : leading (name :: names) = leading names := by
            rcases stays with rfl | rfl <;> simp [leading]
          rw [if_pos stays, dropped]
          exact ih absent later
        · have kept : leading (name :: names) = name :: leading names := by
            exact List.filter_cons_of_pos (by simpa using stays)
          rw [if_neg stays, if_neg notUp, if_neg (Nat.not_lt.2 short), kept, List.reverse_cons,
            List.append_assoc]
          exact ih (closed.none_below absent [name]) later

section New
variable {outer inner : List String} (closed : t.Closed) (adds : t.AddsFolders u)
  (walked : t.walk start outer = .ok p) (absent : t.node? p = none)
  (straight : ∀ name ∈ inner, GoesOn name)
include closed adds walked absent straight

/-- A folder that has been made on the way is at its end or around that. -/
theorem suffix_of_changed {part : List String} (on : leading part <+: leading (outer ++ inner))
    (leads : u.walk start part = .ok q) (new : u.node? q ≠ t.node? q) :
    q <:+ (leading inner).reverse ++ p := by
  have arrives := walk_leading walked
  have ends := walk_leading leads
  obtain ⟨rest, split⟩ := on
  rw [leading_append] at split
  obtain ⟨further, outside, -⟩ | ⟨more, whole, inside⟩ := List.append_eq_append_iff.1 split
  · -- The part ends where something was, or in the first place where nothing was.
    rw [outside, walk_append] at arrives
    cases early : t.walk start (leading part) with
    | error e =>
      rw [early] at arrives
      cases arrives
    | ok q' =>
      rw [early] at arrives
      obtain rfl : q' = q := Except.ok.inj ((adds.keeps.walk early).symm.trans ends)
      cases further with
      | nil =>
        obtain rfl : q' = p := Except.ok.inj arrives
        exact List.suffix_append _ _
      | cons name further =>
        have folder : t.node? q' = some .folder := by
          change t.walk q' (name :: further) = .ok p at arrives
          rw [walk] at arrives
          split at arrives <;> first | assumption | cases arrives
        exact absurd ((adds.keeps.folder _ folder).trans folder.symm) new
  · rw [whole, walk_append, adds.keeps.walk arrives] at ends
    have below : ∀ name ∈ more, GoesOn name := by
      intro name mem
      have member : name ∈ leading inner := inside ▸ List.mem_append_left rest mem
      exact straight name (List.mem_of_mem_filter member)
    obtain missing | arrived := adds.walk_below closed absent below
    · cases missing.symm.trans ends
    · obtain rfl := Except.ok.inj (arrived.symm.trans ends)
      have parts : leading inner = leading more ++ leading rest := by
        rw [← leading_append, ← inside, leading_leading]
      rw [parts, List.reverse_append, List.append_assoc]
      exact List.suffix_append _ _

/-- There is nothing in the folder at the end of the way. -/
theorem namesIn_end_of_way
    (along : ChangedAlong start (fun part => leading part <+: leading (outer ++ inner)) t u) :
    u.namesIn ((leading inner).reverse ++ p) = [] := by
  refine List.eq_nil_iff_forall_not_mem.2 fun name mem => ?_
  rw [mem_namesIn] at mem
  have nothing : t.node? (name :: ((leading inner).reverse ++ p)) = none :=
    closed.none_below absent (name :: (leading inner).reverse)
  have new : u.node? (name :: ((leading inner).reverse ++ p)) ≠
      t.node? (name :: ((leading inner).reverse ++ p)) := by
    rw [nothing]
    exact Option.isSome_iff_ne_none.1 mem
  obtain same | ⟨part, on, leads⟩ := along.node (name :: ((leading inner).reverse ++ p))
  · exact new same
  · have inside := suffix_of_changed closed adds walked absent straight on leads new
    exact absurd inside.length_le (by simp)

end New

/-- The path of a missing folder leads to an empty one, if anywhere, when folders have been made
for it. -/
theorem list_of_changedAlong (closed : t.Closed) (straight : t.Straight path)
    (missing : t.list path = .error .missing) (adds : t.AddsFolders u)
    (along : ChangedAlong (t.origin path) (fun part => leading part <+: leading (Path.names path))
      t u) : u.list path = .error .missing ∨ u.list path = .ok [] := by
  obtain empty | ⟨sound, misses⟩ := list_eq_missing_iff.1 missing
  · exact .inl (list_eq_missing_iff.2 (.inl empty))
  · obtain ⟨outer, inner, p, names, walked, absent⟩ := misses.exists_split
    have goesOn := straight outer inner p names walked absent
    rw [names] at along
    have origin : u.origin path = t.origin path := by simp only [FileTree.origin, adds.current]
    have way : u.walk (u.origin path) (Path.names path) = u.walk p inner := by
      rw [origin, names, walk_append, adds.keeps.walk walked]
      rfl
    obtain broken | arrived := adds.walk_below closed absent goesOn
    · exact .inl (list_eq_missing_iff.2 (.inr ⟨sound, .inl (way.trans broken)⟩))
    · have before := closed.none_below absent (leading inner).reverse
      obtain same | ⟨-, made⟩ := adds.node ((leading inner).reverse ++ p)
      · exact .inl (list_eq_missing_iff.2
          (.inr ⟨sound, .inr ⟨_, way.trans arrived, same.trans before⟩⟩))
      · have resolved : u.resolve path = .ok ((leading inner).reverse ++ p) := by
          rw [resolve, sound]
          exact way.trans arrived
        exact .inr (list_eq_ok.2 ⟨_, resolved, made,
          namesIn_end_of_way closed adds walked absent goesOn along⟩)

theorem list_makeFoldersUnless (closed : t.Closed) (straight : t.Straight path)
    (missing : t.list path = .error .missing) :
    (t.makeFoldersUnless refuse path).2.list path = .error .missing ∨
      (t.makeFoldersUnless refuse path).2.list path = .ok [] :=
  list_of_changedAlong closed straight missing (t.makeFoldersUnless_adds refuse path)
    (t.makeFoldersUnless_along refuse path)

theorem folder_tail_of_walk_singleton (closed : t.Closed) (h : t.walk p [name] = .ok q) :
    t.node? p = some .folder ∧ t.node? q.tail = some .folder := by
  have around : ∀ place, t.node? place = some .folder → t.node? place.tail = some .folder := by
    intro place folder
    cases place with
    | nil => exact folder
    | cons name place => exact closed name place (by rw [folder]; rfl)
  obtain ⟨folder, ⟨-, rfl⟩ | ⟨-, rfl⟩ | ⟨-, rfl⟩⟩ := walk_singleton h
  · exact ⟨folder, around _ folder⟩
  · exact ⟨folder, around _ (around _ folder)⟩
  · exact ⟨folder, folder⟩

/-- What a path leads to is in a folder. -/
theorem folder_tail_of_walk (closed : t.Closed) (nonempty : names ≠ [])
    (walked : t.walk start names = .ok place) : t.node? place.tail = some .folder := by
  induction names generalizing start with
  | nil => exact absurd rfl nonempty
  | cons name names ih =>
    rw [walk_cons] at walked
    cases one : t.walk start [name] with
    | error e =>
      rw [one] at walked
      cases walked
    | ok next =>
      rw [one] at walked
      cases names with
      | nil =>
        obtain rfl : next = place := Except.ok.inj walked
        exact (folder_tail_of_walk_singleton closed one).2
      | cons other names => exact ih (List.cons_ne_nil other names) walked

theorem Closed.put (closed : t.Closed) (inside : t.node? place.tail = some .folder)
    (free : t.node? place ≠ some .folder) (node : Node) : (t.put place node).Closed := by
  have below := ne_nil_of_node? free
  have keeps := keeps_put node below free
  intro name p there
  rw [node?_put below] at there
  split at there
  · rename_i same
    rw [← same, List.tail_cons] at inside
    exact keeps.folder p inside
  · exact keeps.folder p (closed name p there)

theorem Closed.write {content : String} (closed : t.Closed) (h : t.write path content = .ok u) :
    u.Closed := by
  obtain ⟨place, resolved, free, rfl⟩ := write_eq_ok.1 h
  refine closed.put ?_ free _
  rw [resolve] at resolved
  split at resolved
  · cases resolved
  · exact folder_tail_of_walk closed (by simp [Path.names, Path.splitNames_ne_nil]) resolved

theorem Closed.makeFoldersUnless (closed : t.Closed) (path : String) :
    (t.makeFoldersUnless refuse path).2.Closed := by
  refine makeFoldersUnless_each (R := fun t u => t.Closed → u.Closed) (fun _ h => h)
    (fun h h' closed => h' (h closed)) t path (fun ⟨_, root⟩ made closed => ?_) closed
  obtain ⟨place, walked, absent, -, rfl⟩ := makeFolder_eq_ok.1 made
  refine closed.put (folder_tail_of_walk closed ?_ walked) (by simp [absent]) _
  rintro rfl
  rw [root rfl] at walked
  cases walked
  simp at absent

end Knitting.FileTree
