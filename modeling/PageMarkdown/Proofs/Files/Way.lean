import Mathlib.Data.List.Infix
import PageMarkdown.Proofs.Files.Store

/-!
# Ways that are clear

A directory can be made, with those that lead to it, exactly when its way is clear:
no file stands where one of them is needed, and neither a name on the way nor the
whole path is too long. So of all that a store holds only the files decide whether
directories can be made, and once they have been made all of them are there. A
document can be written into such a directory unless its path is too long or another
directory has its place.
-/

namespace PageMarkdown.Text

theorem octetCount_append (t u : Text) : octetCount (t ++ u) = octetCount t + octetCount u := by
  have hsum : ∀ t : Text, octetCount t = (t.map Char.utf8Size).sum := fun t => by
    rw [octetCount, List.sum_eq_foldl, List.foldl_map]
  rw [hsum, hsum, hsum, List.map_append, List.sum_append]

/-- One more piece is joined behind the others. -/
theorem intercalate_concat {separator last : Text} {pieces : List Text} (h : pieces ≠ []) :
    separator.intercalate (pieces ++ [last]) =
      separator.intercalate pieces ++ (separator ++ last) := by
  induction pieces with
  | nil => exact absurd rfl h
  | cons first others ih =>
    cases others with
    | nil => simp
    | cons next others =>
      rw [List.cons_append, List.cons_append, List.intercalate_cons_cons,
        List.intercalate_cons_cons, ← List.cons_append, ih (List.cons_ne_nil _ _)]
      simp only [List.append_assoc]

end PageMarkdown.Text

namespace PageMarkdown.Files

open Text

namespace Path

/-- The text of a parent is no longer than that of its child, or than a point. -/
theorem octetCount_toText_le (parent : Path) (name : Text) :
    octetCount parent.toText ≤ max 1 (octetCount (parent.child name).toText) := by
  obtain ⟨root, names⟩ := parent
  have hjoin : ∃ rest, ['/'].intercalate (names ++ [name]) = ['/'].intercalate names ++ rest := by
    by_cases hnames : names = []
    · exact ⟨_, by rw [hnames]; rfl⟩
    · exact ⟨_, intercalate_concat hnames⟩
  obtain ⟨rest, hjoin⟩ := hjoin
  have hchild : (Path.child ⟨root, names⟩ name).toText =
      root ++ ['/'].intercalate names ++ rest := by
    simp [toText, child, hjoin]
  rw [hchild, octetCount_append]
  unfold toText
  split
  · exact Nat.le_max_left 1 _
  · dsimp only
    omega

/-- A path with names is a child of its parent. -/
theorem exists_eq_child {path : Path} (h : path.names ≠ []) :
    ∃ name, path = path.parent.child name := by
  refine ⟨path.names.getLast h, ?_⟩
  rw [child, parent, List.dropLast_append_getLast]

/-- What has all names of the path that it is on the way to is that path. -/
theorem OnWayTo.eq_of_names {p q : Path} (h : p.OnWayTo q) (hnames : p.names = q.names) :
    p = q := by
  rw [← show (⟨p.root, p.names⟩ : Path) = p from rfl, h.root, hnames]

end Path

namespace Store

/-! ## Following names -/

theorem placeFrom_cons (place : Place) (name : Text) (names : List Text) :
    placeFrom place (name :: names) =
      placeFrom (if name = ['.', '.'] then place.dropLast else place ++ [name]) names := rfl

/-- Names can be followed when there is a directory in front of each, and none is too long. -/
theorem follow_eq_ok_iff {s : Store} {start place : Place} {names : List Text} :
    s.follow start names = .ok place ↔ place = placeFrom start names ∧
      (∀ name ∈ names, name = ['.', '.'] ∨ octetCount name ≤ nameLimit) ∧
      ∀ front, front <+: names → front ≠ names →
        s.at? (placeFrom start front) = some .directory := by
  induction names generalizing start with
  | nil =>
    rw [follow, Except.ok.injEq, eq_comm, and_iff_left]
    · rfl
    · exact ⟨List.forall_mem_nil _, fun front hfront hne =>
        absurd (List.prefix_nil.mp hfront) hne⟩
  | cons name names ih =>
    have hfronts : (∀ front, front <+: name :: names → front ≠ name :: names →
        s.at? (placeFrom start front) = some .directory) ↔
        s.at? start = some .directory ∧ ∀ front, front <+: names → front ≠ names →
          s.at? (placeFrom start (name :: front)) = some .directory := by
      constructor
      · intro h
        exact ⟨h [] List.nil_prefix (List.cons_ne_nil _ _).symm, fun front hfront hne =>
          h _ ((List.prefix_cons_inj name).mpr hfront) fun hsame => hne (List.cons.inj hsame).2⟩
      · rintro ⟨hstart, hrest⟩ front hfront hne
        rcases List.prefix_cons_iff.mp hfront with rfl | ⟨rest, rfl, hrest'⟩
        · exact hstart
        · exact hrest rest hrest' fun hsame => hne (congrArg _ hsame)
    rw [hfronts, List.forall_mem_cons]
    simp only [placeFrom_cons]
    rw [follow]
    split
    · rename_i hnone
      simp [hnone]
    · rename_i content hfile
      simp [hfile]
    · rename_i hdirectory
      by_cases hup : name = ['.', '.']
      · simp only [hup, if_true, ih, hdirectory, true_or, true_and]
      · by_cases hlong : nameLimit < octetCount name
        · simp [hup, hlong, not_le.mpr hlong]
        · simp only [hup, if_false, hlong, ih, hdirectory, not_lt.mp hlong, or_true, true_and]

/-- Where something other than a missing name is in the way, a file stands where a directory is
needed, or a name is too long. -/
theorem exists_of_follow_eq_error {s : Store} {start : Place} {names : List Text}
    {problem : FileProblem} (h : s.follow start names = .error problem)
    (hfound : problem ≠ .notFound) :
    (∃ front, front <+: names ∧ ∃ content, s.at? (placeFrom start front) = some (.file content)) ∨
      ∃ name ∈ names, name ≠ ['.', '.'] ∧ nameLimit < octetCount name := by
  induction names generalizing start with
  | nil => cases h
  | cons name names ih =>
    have hbehind : ∀ next, s.follow next names = .error problem →
        next = (if name = ['.', '.'] then start.dropLast else start ++ [name]) →
        (∃ front, front <+: name :: names ∧
          ∃ content, s.at? (placeFrom start front) = some (.file content)) ∨
        ∃ other ∈ name :: names, other ≠ ['.', '.'] ∧ nameLimit < octetCount other := by
      rintro next hnext rfl
      rcases ih hnext with ⟨front, hfront, content, hfile⟩ | ⟨other, hmem, hlong⟩
      · exact .inl ⟨name :: front, (List.prefix_cons_inj name).mpr hfront, content, hfile⟩
      · exact .inr ⟨other, List.mem_cons_of_mem _ hmem, hlong⟩
    rw [follow] at h
    split at h
    · exact absurd (Except.error.inj h).symm hfound
    · rename_i content hfile
      exact .inl ⟨[], List.nil_prefix, content, hfile⟩
    · split at h
      · rename_i hup
        exact hbehind _ h (if_pos hup).symm
      · rename_i hup
        split at h
        · rename_i hlong
          exact .inr ⟨name, List.mem_cons_self, hup, hlong⟩
        · exact hbehind _ h (if_neg hup).symm

/-- A path can be followed when every way to it but the last step leads to a directory. -/
structure IsOpen (s : Store) (path : Path) : Prop where
  /-- The text of the path is not too long. -/
  fits : octetCount path.toText ≤ pathLimit
  /-- No name is too long. -/
  short : ∀ name ∈ path.names, name = ['.', '.'] ∨ octetCount name ≤ nameLimit
  /-- There are directories on the way. -/
  directory : ∀ p : Path, p.OnWayTo path → p ≠ path → s.at? (s.placeOf p) = some .directory

/-- A path leads to its place exactly when its way is open. -/
theorem locate_eq_ok_iff {s : Store} {path : Path} {place : Place} :
    s.locate path = .ok place ↔ place = s.placeOf path ∧ s.IsOpen path := by
  have hways : (∀ front, front <+: path.names → front ≠ path.names →
      s.at? (placeFrom (if path.isAbsolute then [] else s.workingPlace) front) =
        some .directory) ↔
      ∀ p : Path, p.OnWayTo path → p ≠ path → s.at? (s.placeOf p) = some .directory := by
    constructor
    · rintro h ⟨root, front⟩ ⟨hroot, hfront⟩ hne
      obtain rfl : root = path.root := hroot
      exact h front hfront fun hsame => hne (by rw [hsame])
    · intro h front hfront hne
      exact h ⟨path.root, front⟩ ⟨rfl, hfront⟩ fun hsame => hne (congrArg Path.names hsame)
  rw [locate]
  split
  · rename_i hlong
    simp only [reduceCtorEq, false_iff, not_and]
    exact fun _ hopen => absurd hopen.fits (not_le.mpr hlong)
  · rename_i hfits
    rw [follow_eq_ok_iff, hways]
    exact and_congr_right fun _ =>
      ⟨fun h => ⟨not_lt.mp hfits, h.1, h.2⟩, fun h => ⟨h.short, h.directory⟩⟩

/-! ## Clear ways -/

/-- A directory can be made at the end of a path, as far as the files are concerned. -/
structure IsClear (s : Store) (path : Path) : Prop where
  /-- The text of the path is not too long. -/
  fits : octetCount path.toText ≤ pathLimit
  /-- No name is too long. -/
  short : ∀ name ∈ path.names, name = ['.', '.'] ∨ octetCount name ≤ nameLimit
  /-- There are no files on the way. -/
  free : ∀ p : Path, p.OnWayTo path → ∀ content, s.at? (s.placeOf p) ≠ some (.file content)

/-- A way stays clear as long as no new file stands on it. -/
theorem IsClear.of_files {s s' : Store} {path : Path} (h : s.IsClear path)
    (hworking : s'.workingPlace = s.workingPlace)
    (hfiles : ∀ p : Path, p.OnWayTo path → ∀ content,
      s'.at? (s.placeOf p) = some (.file content) →
        ∃ before, s.at? (s.placeOf p) = some (.file before)) : s'.IsClear path := by
  refine ⟨h.fits, h.short, fun p hp content hfile => ?_⟩
  rw [placeOf_congr hworking] at hfile
  obtain ⟨before, hbefore⟩ := hfiles p hp content hfile
  exact h.free p hp before hbefore

theorem IsClear.parent {s : Store} {path : Path} (h : s.IsClear path) (hne : path.names ≠ []) :
    s.IsClear path.parent := by
  obtain ⟨name, hchild⟩ := Path.exists_eq_child hne
  have hfits := h.fits
  have hlength := path.parent.octetCount_toText_le name
  rw [← hchild] at hlength
  refine ⟨?_, fun name hname => h.short name (List.mem_of_mem_dropLast hname),
    fun p hp => h.free p (hp.trans path.onWayTo_parent)⟩
  simp only [pathLimit] at hfits ⊢
  omega

/-- On a clear way only a missing name stops a path. -/
theorem IsClear.eq_notFound {s : Store} {path : Path} {problem : FileProblem}
    (h : s.IsClear path) (hlocate : s.locate path = .error problem) : problem = .notFound := by
  by_contra hfound
  rw [locate, if_neg (not_lt.mpr h.fits)] at hlocate
  rcases exists_of_follow_eq_error hlocate hfound with
    ⟨front, hfront, content, hfile⟩ | ⟨name, hmem, hup, hlong⟩
  · exact h.free ⟨path.root, front⟩ ⟨rfl, hfront⟩ content hfile
  · exact absurd hlong (not_lt.mpr ((h.short name hmem).resolve_left hup))

/-- At the end of an open way a directory is made where nothing is. -/
theorem makeOne_of_isOpen {s : Store} {path : Path} (h : s.IsOpen path) :
    s.makeOne path = match s.at? (s.placeOf path) with
      | some _ => .error .alreadyExists
      | none => .ok (s.put (s.placeOf path) .directory) := by
  rw [makeOne, locate_eq_ok_iff.mpr ⟨rfl, h⟩]
  rfl

/-- A path that leads somewhere does not lack what leads to it. -/
theorem makeOne_ne_notFound {s : Store} {path : Path} (h : s.IsOpen path) :
    s.makeOne path ≠ .error .notFound := by
  rw [makeOne_of_isOpen h]
  split <;> simp

/-- A directory is made, or found, at the end of an open way. -/
theorem ensureOne_eq_ok_iff {s made : Store} {path : Path} :
    s.ensureOne path = .ok made ↔ s.IsOpen path ∧
      (s.at? (s.placeOf path) = none ∧ made = s.put (s.placeOf path) .directory ∨
        s.at? (s.placeOf path) = some .directory ∧ made = s) := by
  cases hlocate : s.locate path with
  | error problem =>
    have hshut : ¬ s.IsOpen path := fun hopen => by
      rw [locate_eq_ok_iff.mpr ⟨rfl, hopen⟩] at hlocate
      cases hlocate
    simp [ensureOne, makeOne, isDirectory, hlocate, Except.bind, hshut]
  | ok place =>
    obtain ⟨rfl, hopen⟩ := locate_eq_ok_iff.mp hlocate
    rw [and_iff_right hopen, ensureOne, makeOne_of_isOpen hopen]
    cases hend : s.at? (s.placeOf path) with
    | none => simp [eq_comm]
    | some entry => cases entry <;> simp [isDirectory, hlocate, hend, eq_comm]

/-- Where one directory has been made or was there, its way is clear, and there are directories on
all of it. -/
theorem isClear_of_ensureOne {s made : Store} {path : Path} (h : s.ensureOne path = .ok made) :
    s.IsClear path ∧ ∀ p : Path, p.OnWayTo path → made.at? (s.placeOf p) = some .directory := by
  obtain ⟨hopen, hends⟩ := ensureOne_eq_ok_iff.mp h
  -- In both cases no file is at the end, and no directory goes away.
  have hfree : ∀ content, s.at? (s.placeOf path) ≠ some (.file content) := by
    rcases hends with ⟨hend, -⟩ | ⟨hend, -⟩ <;> simp [hend]
  have hthere : DirectoriesKept s made ∧ made.at? (s.placeOf path) = some .directory := by
    rcases hends with ⟨hend, rfl⟩ | ⟨hend, rfl⟩
    · have hnone : s.at? (s.placeOf path) ≠ some .directory := by simp [hend]
      exact ⟨directoriesKept_put hnone _, by rw [at?_put hnone, if_pos rfl]⟩
    · exact ⟨⟨rfl, fun _ h => h⟩, hend⟩
  refine ⟨⟨hopen.fits, hopen.short, fun p hp content => ?_⟩, fun p hp => ?_⟩
  · by_cases hsame : p = path
    · exact hsame ▸ hfree content
    · simp [hopen.directory p hp hsame]
  · by_cases hsame : p = path
    · exact hsame ▸ hthere.2
    · exact hthere.1.directory _ (hopen.directory p hp hsame)

/-- On a clear way one directory can be made, unless those that lead to it are missing. -/
theorem IsClear.exists_ensureOne {s : Store} {path : Path} (h : s.IsClear path)
    (hfound : s.makeOne path ≠ .error .notFound) : ∃ made, s.ensureOne path = .ok made := by
  cases hlocate : s.locate path with
  | error problem =>
    obtain rfl := h.eq_notFound hlocate
    exact absurd (by rw [makeOne, hlocate]; rfl) hfound
  | ok place =>
    obtain ⟨-, hopen⟩ := locate_eq_ok_iff.mp hlocate
    cases hend : s.at? (s.placeOf path) with
    | none => exact ⟨_, ensureOne_eq_ok_iff.mpr ⟨hopen, .inl ⟨hend, rfl⟩⟩⟩
    | some entry =>
      cases entry with
      | file content => exact absurd hend (h.free path (.refl path) content)
      | directory => exact ⟨_, ensureOne_eq_ok_iff.mpr ⟨hopen, .inr ⟨hend, rfl⟩⟩⟩

/-! ## Making all directories on the way -/

/-- Without a count, only the last directory is made. -/
theorem ensureFrom_zero_ok_iff {s : Store} {path : Path} :
    (ensureFrom path 0 s).2 = .ok () ↔ s.ensureOne path = .ok (ensureFrom path 0 s).1 := by
  rw [ensureFrom]
  cases s.ensureOne path <;> simp

/-- With a count, the directories that lead to the last one are made where they are missing. -/
theorem ensureFrom_succ {s : Store} {path : Path} (count : Nat) :
    ensureFrom path (count + 1) s =
      if s.makeOne path = .error .notFound then
        match ensureFrom path.parent count s with
        | (s, .error e) => (s, .error e)
        | (s, .ok ()) => ensureFrom path 0 s
      else ensureFrom path 0 s := by
  simp only [ensureFrom, ensureOne]
  cases s.makeOne path with
  | ok made => simp
  | error problem =>
    by_cases hmissing : problem = .notFound
    · subst hmissing
      exact (if_pos rfl).symm
    · rw [if_neg (by simpa using hmissing)]
      cases problem <;> first | exact absurd rfl hmissing | (dsimp only; split <;> rfl)

/-- Where all directories on a way have been made or were there, the way is clear. -/
theorem isClear_of_ensureFrom {s : Store} {path : Path} {count : Nat}
    (h : (ensureFrom path count s).2 = .ok ()) :
    s.IsClear path ∧ ∀ p : Path, p.OnWayTo path →
      (ensureFrom path count s).1.at? (s.placeOf p) = some .directory := by
  -- Only the last directory is new, to a store that may have become richer before.
  have hlast : ∀ made, Prepares path s made → (ensureFrom path 0 made).2 = .ok () →
      s.IsClear path ∧ ∀ p : Path, p.OnWayTo path →
        (ensureFrom path 0 made).1.at? (s.placeOf p) = some .directory := by
    intro made hmade hone
    obtain ⟨hclear, hthere⟩ := isClear_of_ensureOne (ensureFrom_zero_ok_iff.mp hone)
    have hplaces : ∀ p, made.placeOf p = s.placeOf p := placeOf_congr hmade.workingPlace
    simp only [hplaces] at hthere
    refine ⟨hclear.of_files hmade.workingPlace.symm fun p _ content hfile => ?_, hthere⟩
    exact ⟨content, hmade.keeps.entry _ _ hfile⟩
  cases count with
  | zero => exact hlast s (.refl path s) h
  | succ count =>
    rw [ensureFrom_succ] at h ⊢
    split at h
    · have hprepared := (prepares_ensureFrom path.parent count s).of_parent
      rename_i hmissing
      rw [if_pos hmissing]
      split at h
      · cases h
      · rename_i made hparent
        rw [hparent] at hprepared
        exact hlast made hprepared h
    · rename_i hthere
      rw [if_neg hthere]
      exact hlast s (.refl path s) h

/-- On a clear way the last directory can be made, unless those that lead to it are missing. -/
theorem IsClear.ensureFrom_zero {s : Store} {path : Path} (h : s.IsClear path)
    (hfound : s.makeOne path ≠ .error .notFound) : (ensureFrom path 0 s).2 = .ok () := by
  obtain ⟨made, hmade⟩ := h.exists_ensureOne hfound
  rw [ensureFrom, hmade]

/-- On a clear way all directories can be made. -/
theorem IsClear.ensureFrom {s : Store} {path : Path} {count : Nat} (h : s.IsClear path)
    (hcount : count = path.names.length) : (ensureFrom path count s).2 = .ok () := by
  induction count generalizing path with
  | zero =>
    have hnames : path.names = [] := List.eq_nil_of_length_eq_zero hcount.symm
    refine h.ensureFrom_zero (makeOne_ne_notFound ⟨h.fits, h.short, fun p hp hne => ?_⟩)
    -- Without names there is nothing on the way but the path itself.
    have hsame : p.names = path.names := by
      rw [hnames]
      exact List.prefix_nil.mp (hnames ▸ hp.names)
    exact absurd (hp.eq_of_names hsame) hne
  | succ count ih =>
    have hne : path.names ≠ [] := List.ne_nil_of_length_pos (by omega)
    have hlength : count = path.parent.names.length := by
      rw [Path.parent, List.length_dropLast]
      omega
    have hparent := ih (h.parent hne) hlength
    rw [ensureFrom_succ]
    split
    · obtain ⟨-, hthere⟩ := isClear_of_ensureFrom hparent
      have hprepared := prepares_ensureFrom path.parent count s
      rcases hended : Store.ensureFrom path.parent count s with ⟨made, outcome⟩
      rw [hended] at hparent hthere hprepared
      obtain rfl : outcome = .ok () := hparent
      have hplaces : ∀ p, made.placeOf p = s.placeOf p := placeOf_congr hprepared.workingPlace
      have hclear : made.IsClear path :=
        h.of_files hprepared.workingPlace fun p _ content hfile =>
          ⟨content, hprepared.file_iff.mp hfile⟩
      -- The directories that lead to the last one are there now.
      have hopen : made.IsOpen path := by
        refine ⟨h.fits, h.short, fun p hp hbefore => ?_⟩
        obtain ⟨name, hchild⟩ := Path.exists_eq_child hne
        rw [hplaces]
        refine hthere p ((Path.onWayTo_child_iff.mp (hchild ▸ hp)).resolve_left ?_)
        exact hchild ▸ hbefore
      exact hclear.ensureFrom_zero (makeOne_ne_notFound hopen)
    · rename_i hfound
      exact h.ensureFrom_zero hfound

/-- The directories on a way can be made exactly when it is clear and no name on it holds a null
character. -/
theorem ensure_eq_ok_iff {s : Store} {path : Path} :
    (s.ensure path).2 = .ok () ↔ hasNull path = false ∧ s.IsClear path := by
  rw [ensure]
  split
  · rename_i hnull
    simp [hnull]
  · rename_i hnull
    refine ⟨fun h => ⟨by simpa using hnull, (isClear_of_ensureFrom h).1⟩, fun h => ?_⟩
    exact h.2.ensureFrom rfl

/-- Once they have been made, there are directories on all of the way. -/
theorem directory_of_ensure {s : Store} {path p : Path} (h : (s.ensure path).2 = .ok ())
    (hp : p.OnWayTo path) : (s.ensure path).1.at? (s.placeOf p) = some .directory := by
  rw [ensure] at h ⊢
  split
  · rename_i hnull
    rw [if_pos hnull] at h
    cases h
  · rename_i hnull
    rw [if_neg hnull] at h
    exact (isClear_of_ensureFrom h).2 p hp

/-! ## Writing behind a way -/

/-- A file can be written exactly when its path leads to a place that is no directory. -/
theorem exists_write_iff {s : Store} {path : Path} {t : Text} :
    (∃ s', s.write path t = .ok s') ↔
      hasNull path = false ∧ s.IsOpen path ∧ s.at? (s.placeOf path) ≠ some .directory := by
  constructor
  · rintro ⟨s', h⟩
    obtain ⟨place, hlocate, hfree, -⟩ := write_eq_ok h
    obtain ⟨rfl, hopen⟩ := locate_eq_ok_iff.mp hlocate
    refine ⟨?_, hopen, hfree⟩
    by_contra hnull
    rw [write, guarded.eq_def, if_pos (by simpa using hnull)] at h
    cases h
  · rintro ⟨hnull, hopen, hfree⟩
    exact ⟨_, write_of_locate hnull (locate_eq_ok_iff.mpr ⟨rfl, hopen⟩) hfree t⟩

/-- A file of a name can be written in a directory once this has been made. -/
structure TakesFile (s : Store) (directory : Path) (name : Text) : Prop where
  /-- The text of its path is not too long. -/
  fits : octetCount (directory.child name).toText ≤ pathLimit
  /-- There is no directory in its place. -/
  free : s.at? (s.placeOf (directory.child name)) ≠ some .directory
  /-- None is made there on the way. -/
  beside : ∀ p : Path, p.OnWayTo directory → s.placeOf p ≠ s.placeOf (directory.child name)

/-- Whether a file can be written in a directory that has been made is settled before that. -/
theorem exists_write_child_iff {s : Store} {directory : Path} {name t : Text}
    (h : (s.ensure directory).2 = .ok ()) (hnull : name.contains '\x00' = false)
    (hshort : octetCount name ≤ nameLimit) :
    (∃ s', (s.ensure directory).1.write (directory.child name) t = .ok s') ↔
      s.TakesFile directory name := by
  have hprepared := prepares_ensure s directory
  obtain ⟨hdirectory, hclear⟩ := ensure_eq_ok_iff.mp h
  have hthere := fun p hp => directory_of_ensure (p := p) h hp
  have hplaces : ∀ p, (s.ensure directory).1.placeOf p = s.placeOf p :=
    placeOf_congr hprepared.workingPlace
  have hchild : hasNull (directory.child name) = false := by
    rw [hasNull_child, hdirectory, hnull, Bool.or_false]
  rw [exists_write_iff, hplaces, and_iff_right hchild]
  constructor
  · rintro ⟨hopen, hfree⟩
    refine ⟨hopen.fits, fun hbefore => hfree ?_, fun p hp hsame => hfree ?_⟩
    · exact hprepared.keeps.entry _ _ hbefore
    · rw [← hsame]
      exact hthere p hp
  · rintro ⟨hfits, hfree, hbeside⟩
    refine ⟨⟨hfits, ?_, fun p hp hbefore => ?_⟩, fun hmade => ?_⟩
    · intro other hother
      rcases List.mem_append.mp hother with hon | hlast
      · exact hclear.short other hon
      · rw [List.mem_singleton.mp hlast]
        exact .inr hshort
    · rw [hplaces]
      exact hthere p ((Path.onWayTo_child_iff.mp hp).resolve_left hbefore)
    · rcases hprepared.entry (s.placeOf (directory.child name)) with hsame | ⟨-, -, p, hp, hplace⟩
      · exact hfree (hsame ▸ hmade)
      · exact hbeside p hp hplace.symm

end Store

end PageMarkdown.Files
