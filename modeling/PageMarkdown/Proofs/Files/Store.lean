import PageMarkdown.Files.Store

/-!
# What changes in a store

Where a path leads depends on its names alone; the store only decides whether the
way is open. A file that is written changes what is at one place, and making
directories adds to the store without changing what is there. So a way that is
open stays open, and a file keeps its text until something is written to its own
place.
-/

namespace PageMarkdown.Files

open Text

/-! ## Paths on the way -/

namespace Path

/-- The first path is on the way to the second one: its names come first, behind the same root. -/
structure OnWayTo (p q : Path) : Prop where
  /-- Both paths begin at the same root. -/
  root : p.root = q.root
  /-- The names of the first path come first. -/
  names : p.names <+: q.names

namespace OnWayTo

theorem refl (p : Path) : OnWayTo p p := ⟨rfl, List.prefix_rfl⟩

theorem trans {p q r : Path} (h : OnWayTo p q) (h' : OnWayTo q r) : OnWayTo p r :=
  ⟨h.root.trans h'.root, h.names.trans h'.names⟩

end OnWayTo

theorem onWayTo_parent (p : Path) : p.parent.OnWayTo p := ⟨rfl, List.dropLast_prefix p.names⟩

/-- What is on the way to a child is the child, or on the way to its parent. -/
theorem onWayTo_child_iff {p q : Path} {name : Text} :
    p.OnWayTo (q.child name) ↔ p = q.child name ∨ p.OnWayTo q := by
  constructor
  · rintro ⟨hroot, hnames⟩
    rcases List.prefix_concat_iff.mp hnames with hwhole | hpart
    · refine .inl ?_
      rw [child, ← hwhole, ← show p.root = q.root from hroot]
    · exact .inr ⟨hroot, hpart⟩
  · rintro (rfl | h)
    · exact .refl _
    · exact h.trans ⟨rfl, List.prefix_append ..⟩

end Path

namespace Store

/-! ## Entries -/

theorem lookup_cons_ite (other place : Place) (entry : Entry) (others : List (Place × Entry)) :
    ((place, entry) :: others).lookup other =
      if other = place then some entry else others.lookup other := by
  rw [List.lookup_cons]
  by_cases h : other = place
  · simp [h]
  · rw [if_neg h, beq_eq_false_iff_ne.mpr h]

theorem lookup_set (place other : Place) (entry : Entry) (entries : List (Place × Entry)) :
    (set place entry entries).lookup other =
      if other = place then some entry else entries.lookup other := by
  induction entries with
  | nil => rw [set, lookup_cons_ite]
  | cons first others ih =>
    obtain ⟨p, e⟩ := first
    rw [set]
    by_cases hp : p = place
    · rw [if_pos hp, lookup_cons_ite, lookup_cons_ite, hp]
      by_cases h : other = place <;> simp [h]
    · rw [if_neg hp, lookup_cons_ite, lookup_cons_ite, ih]
      by_cases h : other = place
      · rw [if_pos h, if_pos h, if_neg fun he => hp (he.symm.trans h)]
      · rw [if_neg h, if_neg h]

/-- What is put where no directory is, and so below the root, is there; every other place is as it
was. -/
theorem at?_put {s : Store} {place : Place} (hfree : s.at? place ≠ some .directory) (entry : Entry)
    (other : Place) :
    (s.put place entry).at? other = if other = place then some entry else s.at? other := by
  have hbelow : place ≠ [] := by
    rintro rfl
    exact hfree rfl
  rw [at?, at?, put]
  cases other with
  | nil => simp [Ne.symm hbelow]
  | cons name names => exact lookup_set place _ entry s.entries

/-! ## Ways -/

/-- Where names lead from a place, if they lead anywhere. -/
def placeFrom (place : Place) (names : List Text) : Place :=
  names.foldl (fun place name =>
    if name = ['.', '.'] then place.dropLast else place ++ [name]) place

/-- Where a path leads, if it leads anywhere. -/
def placeOf (s : Store) (path : Path) : Place :=
  placeFrom (if path.isAbsolute then [] else s.workingPlace) path.names

/-- Where a path leads is settled by where relative paths start. -/
theorem placeOf_congr {s s' : Store} (h : s'.workingPlace = s.workingPlace) (path : Path) :
    s'.placeOf path = s.placeOf path := by
  rw [placeOf, placeOf, h]

/-- A name that does not lead back leads one place further. -/
theorem placeOf_child (s : Store) (path : Path) {name : Text} (h : name ≠ ['.', '.']) :
    s.placeOf (path.child name) = s.placeOf path ++ [name] := by
  simp [placeOf, placeFrom, Path.child, Path.isAbsolute, h]

/-- Names that can be followed lead where they always lead. -/
theorem follow_eq {s : Store} {place found : Place} {names : List Text}
    (h : s.follow place names = .ok found) : found = placeFrom place names := by
  fun_induction follow s place names with
  | case1 place => exact (Except.ok.inj h).symm
  | case2 => cases h
  | case3 => cases h
  | case4 place names hplace ih => rw [ih h, placeFrom, placeFrom, List.foldl_cons, if_pos rfl]
  | case5 => cases h
  | case6 place name names hplace hname hshort ih =>
    rw [ih h, placeFrom, placeFrom, List.foldl_cons, if_neg hname]

/-- A path leads to one place, whatever is in the store. -/
theorem locate_eq {s : Store} {path : Path} {place : Place} (h : s.locate path = .ok place) :
    place = s.placeOf path := by
  rw [locate] at h
  split at h
  · cases h
  · exact follow_eq h

/-- The directories of the first store are directories of the second one. -/
structure DirectoriesKept (s s' : Store) : Prop where
  /-- Relative paths start from the same place. -/
  workingPlace : s'.workingPlace = s.workingPlace
  /-- Directories stay. -/
  directory : ∀ place, s.at? place = some .directory → s'.at? place = some .directory

/-- A way stays open as long as no directory goes away. -/
theorem DirectoriesKept.locate {s s' : Store} (h : DirectoriesKept s s') {path : Path}
    {place : Place} (hs : s.locate path = .ok place) : s'.locate path = .ok place := by
  have hfollow : ∀ start found names, s.follow start names = .ok found →
      s'.follow start names = .ok found := by
    intro start found names hfound
    fun_induction follow s start names with
    | case1 start => exact hfound
    | case2 => cases hfound
    | case3 => cases hfound
    | case4 start names hstart ih =>
      rw [follow, h.directory start hstart]
      exact ih hfound
    | case5 => cases hfound
    | case6 start name names hstart hname hshort ih =>
      rw [follow, h.directory start hstart]
      simp only [hname, if_false, hshort]
      exact ih hfound
  rw [Store.locate] at hs ⊢
  split at hs
  · cases hs
  · rename_i hshort
    rw [if_neg hshort, h.workingPlace]
    exact hfollow _ _ _ hs

/-- Putting an entry where no directory is takes no directory away. -/
theorem directoriesKept_put {s : Store} {place : Place} (h : s.at? place ≠ some .directory)
    (entry : Entry) : DirectoriesKept s (s.put place entry) := by
  refine ⟨rfl, fun other hother => ?_⟩
  rw [at?_put h, if_neg, hother]
  rintro rfl
  exact h hother

/-! ## Sound stores -/

/-- Everything lies in a directory, and relative paths start from one. -/
structure IsSound (s : Store) : Prop where
  /-- Relative paths start from a directory. -/
  workingPlace : s.at? s.workingPlace = some .directory
  /-- What is there lies in a directory. -/
  entries : ∀ listed ∈ s.entries, s.at? listed.1.dropLast = some .directory

theorem mem_of_mem_set {place : Place} {entry : Entry} {entries : List (Place × Entry)}
    {listed : Place × Entry} (h : listed ∈ set place entry entries) :
    listed = (place, entry) ∨ listed ∈ entries := by
  induction entries with
  | nil => exact .inl (List.mem_singleton.mp h)
  | cons first others ih =>
    obtain ⟨p, e⟩ := first
    rw [set] at h
    split at h
    · exact (List.mem_cons.mp h).imp_right (List.mem_cons_of_mem _)
    · rcases List.mem_cons.mp h with rfl | hothers
      · exact .inr (List.mem_cons_self ..)
      · exact (ih hothers).imp_right (List.mem_cons_of_mem _)

namespace IsSound

variable {s : Store}

/-- What is there lies in a directory. -/
theorem parent (hs : s.IsSound) {place : Place} {entry : Entry} (h : s.at? place = some entry) :
    s.at? place.dropLast = some .directory := by
  cases place with
  | nil => rfl
  | cons name names =>
    obtain ⟨before, after, hentries, -⟩ := List.lookup_eq_some_iff.mp
      (show s.entries.lookup (name :: names) = some entry from h)
    exact hs.entries (name :: names, entry) (by rw [hentries]; simp)

/-- Relative and absolute paths start from a directory. -/
theorem start (hs : s.IsSound) (path : Path) :
    s.at? (if path.isAbsolute then [] else s.workingPlace) = some .directory := by
  split
  · rfl
  · exact hs.workingPlace

/-- A way that is open ends in a directory. -/
theorem locate (hs : s.IsSound) {path : Path} {place : Place} (h : s.locate path = .ok place) :
    s.at? place.dropLast = some .directory := by
  have hfollow : ∀ start found names, s.at? start.dropLast = some .directory →
      s.follow start names = .ok found → s.at? found.dropLast = some .directory := by
    intro start found names hstart hfound
    fun_induction follow s start names with
    | case1 start => rwa [← Except.ok.inj hfound]
    | case2 => cases hfound
    | case3 => cases hfound
    | case4 start names hdirectory ih => exact ih (hs.parent hstart) hfound
    | case5 => cases hfound
    | case6 start name names hdirectory hname hshort ih =>
      exact ih (by rwa [List.dropLast_concat]) hfound
  rw [Store.locate] at h
  split at h
  · cases h
  · exact hfollow _ _ _ (hs.parent (hs.start path)) h

/-- A path to a file ends in the name of the file: double points lead to directories only. -/
theorem exists_child (hs : s.IsSound) {path : Path} {place : Place} {content : Content}
    (h : s.locate path = .ok place) (hfile : s.at? place = some (.file content)) :
    ∃ (parent : Path) (name : Text), path = parent.child name ∧ name ≠ ['.', '.'] := by
  have hfollow : ∀ start names, s.at? start = some .directory →
      s.follow start names = .ok place → ∃ front name, names = front ++ [name] ∧
        name ≠ ['.', '.'] := by
    intro start names hstart hfound
    fun_induction follow s start names with
    | case1 start =>
      rw [Except.ok.inj hfound, hfile] at hstart
      cases hstart
    | case2 => cases hfound
    | case3 => cases hfound
    | case4 start names hdirectory ih =>
      obtain ⟨front, name, rfl, hname⟩ := ih (hs.parent hstart) hfound
      exact ⟨_ :: front, name, rfl, hname⟩
    | case5 => cases hfound
    | case6 start name names hdirectory hname hshort ih =>
      cases names with
      | nil => exact ⟨[], name, rfl, hname⟩
      | cons next others =>
        have hnext : s.at? (start ++ [name]) = some .directory := by
          rw [follow] at hfound
          split at hfound
          · cases hfound
          · cases hfound
          · assumption
        obtain ⟨front, last, hnames, hlast⟩ := ih hnext hfound
        exact ⟨name :: front, last, by rw [hnames, List.cons_append], hlast⟩
  rw [Store.locate] at h
  split at h
  · cases h
  · obtain ⟨front, name, hnames, hname⟩ := hfollow _ _ (hs.start path) h
    exact ⟨⟨path.root, front⟩, name, by rw [Path.child, ← hnames], hname⟩

/-- What is put into a directory, where no directory is, leaves the store sound. -/
theorem put (hs : s.IsSound) {place : Place} (hfree : s.at? place ≠ some .directory)
    (hparent : s.at? place.dropLast = some .directory) (entry : Entry) :
    (s.put place entry).IsSound := by
  have hkept := directoriesKept_put hfree entry
  refine ⟨hkept.directory _ hs.workingPlace, fun listed hlisted => hkept.directory _ ?_⟩
  rcases mem_of_mem_set hlisted with rfl | hbefore
  · exact hparent
  · exact hs.entries listed hbefore

end IsSound

/-! ## Making directories -/

/-- The second store has all that the first one has. -/
structure Extends (s s' : Store) : Prop where
  /-- Relative paths start from the same place. -/
  workingPlace : s'.workingPlace = s.workingPlace
  /-- What is there stays. -/
  entry : ∀ place entry, s.at? place = some entry → s'.at? place = some entry

theorem Extends.directoriesKept {s s' : Store} (h : Extends s s') : DirectoriesKept s s' :=
  ⟨h.workingPlace, fun place => h.entry place .directory⟩

/-- The second store is the first one with directories on the way to a path, made where nothing
was. -/
structure Prepares (path : Path) (s s' : Store) : Prop where
  /-- Relative paths start from the same place. -/
  workingPlace : s'.workingPlace = s.workingPlace
  /-- Every place is as it was, or now a directory on the way. -/
  entry : ∀ place, s'.at? place = s.at? place ∨
    s.at? place = none ∧ s'.at? place = some .directory ∧
      ∃ p : Path, p.OnWayTo path ∧ place = s.placeOf p
  /-- Directories are made in directories. -/
  sound : s.IsSound → s'.IsSound

namespace Prepares

variable {path : Path} {s s' s'' : Store}

theorem refl (path : Path) (s : Store) : Prepares path s s := ⟨rfl, fun _ => .inl rfl, id⟩

/-- Directories on the way to the parent are on the way to the path. -/
theorem of_parent (h : Prepares path.parent s s') : Prepares path s s' := by
  refine ⟨h.workingPlace, fun place => (h.entry place).imp_right ?_, h.sound⟩
  rintro ⟨hnone, hmade, p, hp, hplace⟩
  exact ⟨hnone, hmade, p, hp.trans (Path.onWayTo_parent path), hplace⟩

theorem trans (h : Prepares path s s') (h' : Prepares path s' s'') : Prepares path s s'' := by
  refine ⟨h'.workingPlace.trans h.workingPlace, fun place => ?_, h'.sound ∘ h.sound⟩
  rcases h'.entry place with hsame | ⟨hnone, hmade, p, hp, hplace⟩
  · rw [hsame]
    exact h.entry place
  · rcases h.entry place with hbefore | ⟨-, hdirectory, -⟩
    · rw [placeOf_congr h.workingPlace] at hplace
      exact .inr ⟨hbefore ▸ hnone, hmade, p, hp, hplace⟩
    · rw [hdirectory] at hnone
      cases hnone

/-- Nothing is taken away. -/
theorem keeps (h : Prepares path s s') : Extends s s' := by
  refine ⟨h.workingPlace, fun place entry hentry => ?_⟩
  rcases h.entry place with hsame | ⟨hnone, -, -⟩
  · rwa [hsame]
  · rw [hnone] at hentry
    cases hentry

/-- The files are the same. -/
theorem file_iff (h : Prepares path s s') {place : Place} {content : Content} :
    s'.at? place = some (.file content) ↔ s.at? place = some (.file content) := by
  rcases h.entry place with hsame | ⟨hnone, hmade, -⟩
  · rw [hsame]
  · simp [hnone, hmade]

end Prepares

theorem prepares_makeOne {s made : Store} {path : Path} (h : s.makeOne path = .ok made) :
    Prepares path s made := by
  rw [makeOne] at h
  cases hlocate : s.locate path with
  | error problem =>
    rw [hlocate] at h
    cases h
  | ok place =>
    simp only [hlocate, Except.bind] at h
    split at h
    · cases h
    · rename_i hnone
      have hfree : s.at? place ≠ some .directory := by simp [hnone]
      rw [← Except.ok.inj h]
      refine ⟨rfl, fun other => ?_, fun hs => hs.put hfree (hs.locate hlocate) _⟩
      rw [at?_put hfree]
      by_cases hother : other = place
      · rw [if_pos hother, hother]
        exact .inr ⟨hnone, rfl, path, .refl path, locate_eq hlocate⟩
      · exact .inl (if_neg hother)

theorem prepares_ensureOne {s made : Store} {path : Path} (h : s.ensureOne path = .ok made) :
    Prepares path s made := by
  rw [ensureOne] at h
  split at h
  · rename_i hmade
    rw [← Except.ok.inj h]
    exact prepares_makeOne hmade
  · split at h
    · rw [← Except.ok.inj h]
      exact .refl path s
    · cases h

/-- Making directories does not reach beyond the way to the path, also where it fails on the way. -/
theorem prepares_ensureFrom (path : Path) (count : Nat) (s : Store) :
    Prepares path s (ensureFrom path count s).1 := by
  induction count generalizing path s with
  | zero =>
    rw [ensureFrom]
    split
    · rename_i h
      exact prepares_ensureOne h
    · exact .refl path s
  | succ count ih =>
    rw [ensureFrom]
    split
    · rename_i h
      exact prepares_makeOne h
    · have hparent := (ih path.parent s).of_parent
      split
      · rename_i h
        rwa [h] at hparent
      · rename_i h
        rw [h] at hparent
        split
        · rename_i hone
          exact hparent.trans (prepares_ensureOne hone)
        · exact hparent
    · split <;> exact .refl path s

theorem prepares_ensure (s : Store) (path : Path) : Prepares path s (s.ensure path).1 := by
  rw [ensure]
  split
  · exact .refl path s
  · exact prepares_ensureFrom path path.names.length s

/-- Making directories changes nothing that is there. -/
theorem extends_ensure (s : Store) (path : Path) : Extends s (s.ensure path).1 :=
  (prepares_ensure s path).keeps

/-- A child has a null character when its parent or its name does. -/
theorem hasNull_child (path : Path) (name : Text) :
    hasNull (path.child name) = (hasNull path || name.contains '\x00') := by
  rw [hasNull, hasNull, Path.child, List.any_append, List.any_cons, List.any_nil, Bool.or_false]

/-- A path below which directories could be made has no null character. -/
theorem hasNull_of_ensure {s : Store} {path : Path} (h : (s.ensure path).2 = .ok ()) :
    hasNull path = false := by
  rw [ensure] at h
  split at h
  · cases h
  · rename_i hnull
    exact Bool.of_not_eq_true hnull

/-! ## Reading and writing -/

/-- What is read is what the file holds that the path leads to. -/
theorem read_eq_ok {s : Store} {path : Path} {t : Text} (h : s.read path = .ok t) :
    ∃ place content, s.locate path = .ok place ∧ s.at? place = some (.file content) ∧
      content.read = t := by
  unfold read guarded at h
  split at h
  · cases h
  · cases hlocate : s.locate path with
    | error problem =>
      rw [hlocate] at h
      cases h
    | ok place =>
      simp only [hlocate, Except.bind] at h
      split at h
      · rename_i hread
        split at hread
        · rename_i content hfile
          exact ⟨place, content, rfl, hfile, (Except.ok.inj hread).trans (Except.ok.inj h)⟩
        · cases hread
        · cases hread
      · cases h

/-- The file at the path holds exactly this text. -/
def Holds (s : Store) (path : Path) (t : Text) : Prop :=
  ∃ place, s.locate path = .ok place ∧ s.at? place = some (.file (.text t))

/-- A file holds one text. -/
theorem Holds.unique {s : Store} {path : Path} {t u : Text} (h : s.Holds path t)
    (h' : s.Holds path u) : t = u := by
  obtain ⟨place, hplace, hfile⟩ := h
  obtain ⟨place', hplace', hfile'⟩ := h'
  obtain rfl := Except.ok.inj (hplace.symm.trans hplace')
  simpa using hfile.symm.trans hfile'

/-- A file keeps its text while things are added around it. -/
theorem Holds.extends {s s' : Store} {path : Path} {t : Text} (h : s.Holds path t)
    (hs : Extends s s') : s'.Holds path t := by
  obtain ⟨place, hplace, hfile⟩ := h
  exact ⟨place, hs.directoriesKept.locate hplace, hs.entry place _ hfile⟩

/-- Writing puts the text at the place of the path, where no directory is. -/
theorem write_eq_ok {s s' : Store} {path : Path} {t : Text} (h : s.write path t = .ok s') :
    ∃ place, s.locate path = .ok place ∧ s.at? place ≠ some .directory ∧
      s' = s.put place (.file (.text t)) := by
  unfold write guarded at h
  split at h
  · cases h
  · cases hlocate : s.locate path with
    | error problem =>
      simp [hlocate, Except.bind] at h
    | ok place =>
      simp only [hlocate, Except.bind] at h
      by_cases hdirectory : s.at? place = some .directory
      · simp [hdirectory] at h
      · refine ⟨place, rfl, hdirectory, ?_⟩
        split at h
        · rename_i hwritten
          split at hwritten
          · contradiction
          · rw [← Except.ok.inj h, ← Except.ok.inj hwritten]
        · cases h

/-- A text is written wherever a path leads to no directory. -/
theorem write_of_locate {s : Store} {path : Path} {place : Place} (hnull : hasNull path = false)
    (hlocate : s.locate path = .ok place) (hfree : s.at? place ≠ some .directory) (t : Text) :
    s.write path t = .ok (s.put place (.file (.text t))) := by
  simp only [write, guarded, hnull, hlocate, Except.bind]
  split
  · contradiction
  · rfl

/-- A path without a null character is refused for a problem at it only. -/
theorem write_eq_error {s : Store} {path : Path} {t : Text} {e : Fault}
    (h : s.write path t = .error e) (hnull : hasNull path = false) :
    ∃ problem, e = .file problem path.toText := by
  unfold write guarded at h
  rw [hnull, if_neg Bool.false_ne_true] at h
  split at h
  · cases h
  · rename_i problem _
    exact ⟨problem, (Except.error.inj h).symm⟩

/-- After writing the file holds the text. -/
theorem holds_write {s s' : Store} {path : Path} {t : Text} (h : s.write path t = .ok s') :
    s'.Holds path t := by
  obtain ⟨place, hlocate, hfree, rfl⟩ := write_eq_ok h
  refine ⟨place, (directoriesKept_put hfree _).locate hlocate, ?_⟩
  rw [at?_put hfree, if_pos rfl]

/-- Writing to one place leaves the other places alone. -/
theorem at?_write {s s' : Store} {path : Path} {t : Text} (h : s.write path t = .ok s')
    {place : Place} (hne : place ≠ s.placeOf path) : s'.at? place = s.at? place := by
  obtain ⟨written, hwritten, hfree, rfl⟩ := write_eq_ok h
  rw [at?_put hfree, if_neg]
  rwa [locate_eq hwritten]

/-- Writing takes no directory away. -/
theorem directoriesKept_write {s s' : Store} {path : Path} {t : Text}
    (h : s.write path t = .ok s') : DirectoriesKept s s' := by
  obtain ⟨written, -, hfree, rfl⟩ := write_eq_ok h
  exact directoriesKept_put hfree _

/-- Files are written into directories. -/
theorem IsSound.write {s s' : Store} {path : Path} {t : Text} (hs : s.IsSound)
    (h : s.write path t = .ok s') : s'.IsSound := by
  obtain ⟨written, hwritten, hfree, rfl⟩ := write_eq_ok h
  exact hs.put hfree (hs.locate hwritten) _

/-- Writing to one place leaves the files at other places alone. -/
theorem Holds.write {s s' : Store} {path other : Path} {t u : Text} (h : s.Holds path t)
    (hwrite : s.write other u = .ok s') (hne : s.placeOf path ≠ s.placeOf other) :
    s'.Holds path t := by
  obtain ⟨place, hlocate, hfile⟩ := h
  refine ⟨place, (directoriesKept_write hwrite).locate hlocate, ?_⟩
  rw [at?_write hwrite, hfile]
  rwa [locate_eq hlocate]

/-! ## Saving -/

/-- A text is saved when no half of a surrogate pair is in it and it can be written. -/
theorem save_eq_ok_iff {isHalf : Char → Bool} {s s' : Store} {path : Path} {t : Text} :
    s.save isHalf path t = (s', .ok ()) ↔
      (∀ c ∈ t, isHalf c = false) ∧ s.write path t = .ok s' := by
  have hwhole : (∀ c ∈ t, isHalf c = false) ↔ t.find? isHalf = none := by
    simp [List.find?_eq_none]
  rw [hwhole, save]
  cases t.find? isHalf with
  | none => cases s.write path t <;> simp
  | some half => cases s.write path [] <;> simp

/-- A text is saved when its file can be opened and no half of a surrogate pair is in it. With such
a half, the file is left empty; a file that cannot be opened is left alone. -/
theorem save_cases {path : Path} (hnull : hasNull path = false) (isHalf : Char → Bool) (s : Store)
    (t : Text) :
    (∃ problem, (∀ u s', s.write path u ≠ .ok s') ∧
      s.save isHalf path t = (s, .error (.file problem path.toText))) ∨
    (∃ s', (∀ c ∈ t, isHalf c = false) ∧ s.write path t = .ok s' ∧
      s.save isHalf path t = (s', .ok ())) ∨
    ∃ s' half, half ∈ t ∧ isHalf half = true ∧ s.write path [] = .ok s' ∧
      s.save isHalf path t = (s', .error (.unencodable half)) := by
  -- A file is refused or opened whatever is to be written to it.
  have hrefused : ∀ {u : Text} {e : Fault}, s.write path u = .error e →
      ∀ u' s', s.write path u' ≠ .ok s' := by
    intro u e herror u' s' hwrite
    obtain ⟨place, hlocate, hfree, -⟩ := write_eq_ok hwrite
    rw [write_of_locate hnull hlocate hfree] at herror
    cases herror
  rw [save]
  cases hfind : t.find? isHalf with
  | none =>
    cases hwrite : s.write path t with
    | ok s' =>
      refine .inr (.inl ⟨s', fun c hc => ?_, rfl, rfl⟩)
      simpa using List.find?_eq_none.mp hfind c hc
    | error e =>
      obtain ⟨problem, rfl⟩ := write_eq_error hwrite hnull
      exact .inl ⟨problem, hrefused hwrite, rfl⟩
  | some half =>
    cases hwrite : s.write path [] with
    | ok s' =>
      exact .inr (.inr ⟨s', half, List.mem_of_find?_eq_some hfind, List.find?_some hfind, rfl, rfl⟩)
    | error e =>
      obtain ⟨problem, rfl⟩ := write_eq_error hwrite hnull
      exact .inl ⟨problem, hrefused hwrite, rfl⟩

end Store

end PageMarkdown.Files
