import Mathlib.Data.List.Nodup
import PageMarkdown.Command.Run
import PageMarkdown.Proofs.Files.Store
import PageMarkdown.Proofs.Report

/-!
# Runs over inputs

A conversion into a directory that ends with status 0 has read, converted and
saved its inputs one after another. The file of an input is named by the stem of
its path alone. So a later input of the same name writes over it, and an earlier
one may write to the input itself before it is read; nothing else is lost. When
all inputs have different names, every file holds the document of its input.
-/

namespace PageMarkdown.Command

open Text Files Markdown Report

/-! ## Names of outputs -/

/-- What the name of the file of an input begins with. -/
def outputStem (path : Text) : Text :=
  if path = standardInput then "stdin".toList else (Path.ofText path).stem

theorem outputName_eq (path : Text) : outputName path = outputStem path ++ ".md".toList := rfl

/-- The file of an input in a directory. -/
def targetPath (directory : Path) (path : Text) : Path := directory.child (outputName path)

/-- The file of an input lies in the directory itself. -/
theorem placeOf_targetPath (s : Store) (directory : Path) (path : Text) :
    s.placeOf (targetPath directory path) = s.placeOf directory ++ [outputName path] := by
  refine Store.placeOf_child s directory fun hup => ?_
  have hlast := congrArg List.getLast? hup
  rw [outputName_eq, List.getLast?_append] at hlast
  simp at hlast

/-- The stem of an output is that of its input. -/
theorem stem_child_outputName (parent : Path) {path : Text} (h : outputStem path ≠ []) :
    (parent.child (outputName path)).stem = outputStem path := by
  obtain ⟨c, rest, hc⟩ := List.exists_cons_of_ne_nil h
  have hcut : cutLast '.' (outputName path) = (some (outputStem path), "md".toList) := by
    rw [cutLast, outputName_eq, List.reverse_append]
    simp [cut]
  rw [Path.stem, Path.child, List.getLastD_concat, hcut, hc]
  rfl

/-- A path with names has a stem. -/
theorem stem_ne_nil {path : Text} {parent : Path} {name : Text}
    (h : Path.ofText path = parent.child name) : (Path.ofText path).stem ≠ [] := by
  have hname : name ≠ [] := by
    have hmem : name ∈ (Path.ofText path).names := by simp [h, Path.child]
    rintro rfl
    simp [Path.ofText] at hmem
  rw [Path.stem, h, Path.child, List.getLastD_concat]
  split
  · simp
  · exact hname

/-! ## One input -/

/-- What an input holds: standard input, or the file at the place that its path leads to. -/
def World.held? (w : World) (path : Text) : Option Text :=
  if path = standardInput then w.input
  else match w.store.at? (w.store.placeOf (Path.ofText path)) with
    | some (.file content) => some content.read
    | _ => none

/-- Reading leaves the files alone. -/
theorem store_readSource (w : World) (path : Text) : (readSource w path).1.store = w.store := by
  rw [readSource]
  split <;> rfl

/-- Reading a file leaves standard input alone. -/
theorem input_readSource {path : Text} (h : path ≠ standardInput) (w : World) :
    (readSource w path).1.input = w.input := by
  rw [readSource, if_neg h]

theorem World.held?_standardInput (w : World) : w.held? standardInput = w.input := if_pos rfl

theorem World.held?_eq_some_iff {w : World} {path markup : Text} (h : path ≠ standardInput) :
    w.held? path = some markup ↔ ∃ content,
      w.store.at? (w.store.placeOf (Path.ofText path)) = some (.file content) ∧
        content.read = markup := by
  rw [held?, if_neg h]
  split
  · rename_i content hfile
    simp [hfile]
  · rename_i hnone
    simp only [reduceCtorEq, false_iff]
    rintro ⟨content, hfile, -⟩
    exact hnone content hfile

/-- What is read is what the input holds. -/
theorem held?_of_readSource {w : World} {path markup : Text}
    (h : (readSource w path).2 = .ok markup) : w.held? path = some markup := by
  by_cases hinput : path = standardInput
  · rw [readSource, if_pos hinput] at h
    rw [hinput, w.held?_standardInput]
    cases hheld : w.input with
    | none =>
      rw [hheld] at h
      cases h
    | some held =>
      rw [hheld] at h
      exact congrArg some (Except.ok.inj h)
  · rw [readSource, if_neg hinput] at h
    obtain ⟨place, content, hlocate, hfile, hread⟩ := Store.read_eq_ok h
    rw [Store.locate_eq hlocate] at hfile
    exact (World.held?_eq_some_iff hinput).mpr ⟨content, hfile, hread⟩

section

variable (env : Environment) (settings : ConvertSettings) (title : Option Text) (directory : Path)

/-- An input that is read, converted and saved, from one world to another. -/
inductive Saves (path : Text) (w : World) : World → Prop where
  /-- The directory is made, and the document of the input is written to its file. -/
  | saved {markup document : Text} {store : Store} : (readSource w path).2 = .ok markup →
      (convertSource env settings title markup).outcome = .ok document →
      (w.store.ensure directory).2 = .ok () → (∀ c ∈ document, env.isHalf c = false) →
      (w.store.ensure directory).1.write (targetPath directory path) document = .ok store →
      Saves path w ⟨store, (readSource w path).1.input⟩

/-- Inputs that are read, converted and saved one after another. -/
inductive SavesAll : List Text → World → World → Prop where
  /-- No inputs. -/
  | nil (w : World) : SavesAll [] w w
  /-- An input, and more. -/
  | cons {path : Text} {others : List Text} {w made w' : World} :
      Saves env settings title directory path w made → SavesAll others made w' →
      SavesAll (path :: others) w w'

/-- After a run the file of an input holds the document of what the input held before the run. -/
def IsSaved (w w' : World) (path : Text) : Prop :=
  ∃ markup document, w.held? path = some markup ∧
    (convertSource env settings title markup).outcome = .ok document ∧
    w'.store.Holds (targetPath directory path) document

/-- What an input holds is not touched while earlier inputs are read and saved. -/
structure Spared (w : World) (before : List Text) (path : Text) : Prop where
  /-- Standard input is read once. -/
  input : path = standardInput → standardInput ∉ before
  /-- A file that is read is none of the files that have been written. -/
  file : path ≠ standardInput → ∀ earlier ∈ before,
    w.store.placeOf (Path.ofText path) ≠ w.store.placeOf (targetPath directory earlier)

end

section

variable {env : Environment} {settings : ConvertSettings} {title : Option Text} {directory : Path}
  {path : Text} {w w' : World}

/-! ## What a run does -/

/-- A document is written once its directory has been made. -/
theorem ended_writeOutput {document : Text} {p p' : Progress}
    (h : ended (writeOutput env directory path document p) = (p', .ok ())) :
    p'.failures = p.failures ∧ (p.world.store.ensure directory).2 = .ok () ∧
      (∀ c ∈ document, env.isHalf c = false) ∧
      ∃ store, (p.world.store.ensure directory).1.write (targetPath directory path) document =
        .ok store ∧ p'.world = ⟨store, p.world.input⟩ := by
  rw [writeOutput] at h
  cases hmade : (p.world.store.ensure directory).2 with
  | error e =>
    simp only [hmade] at h
    cases (Prod.mk.inj h).2
  | ok _ =>
    simp only [hmade] at h
    cases hsave : (p.world.store.ensure directory).1.save env.isHalf
        (directory.child (outputName path)) document with
    | mk store saved =>
      simp only [hsave] at h
      cases saved with
      | error e => cases (Prod.mk.inj h).2
      | ok _ =>
        obtain ⟨hwhole, hwrite⟩ := Store.save_eq_ok_iff.mp hsave
        obtain ⟨rfl, -⟩ := Prod.mk.inj h
        exact ⟨rfl, rfl, hwhole, store, hwrite, rfl⟩

/-- A conversion of one input that returns has counted it as not readable, or has saved it. -/
theorem saves_of_ended_convertOne {p p' : Progress}
    (h : ended (convertOne env settings title (some directory) path p) = (p', .ok ())) :
    p'.failures = p.failures + 1 ∨
      p'.failures = p.failures ∧ Saves env settings title directory path p.world p'.world := by
  rw [convertOne] at h
  cases hread : (readSource p.world path).2 with
  | error e =>
    simp only [hread] at h
    split at h
    · rw [← (Prod.mk.inj h).1]
      exact .inl rfl
    · cases (Prod.mk.inj h).2
    · contradiction
  | ok markup =>
    simp only [hread] at h
    obtain ⟨_, document, hconvert, h⟩ := ended_thenOn_eq_ok_iff.mp h
    obtain ⟨rfl, hdocument⟩ := Prod.mk.inj hconvert
    obtain ⟨_, _, htold, h⟩ := ended_thenOn_eq_ok_iff.mp h
    obtain ⟨rfl, -⟩ := Prod.mk.inj htold
    obtain ⟨hfailures, hmade, hwhole, store, hwrite, hworld⟩ := ended_writeOutput h
    simp only [store_readSource] at hmade hwrite
    refine .inr ⟨hfailures, ?_⟩
    rw [hworld]
    exact .saved hread hdocument hmade hwhole hwrite

/-- A run that counts no input as not readable saves them all. -/
theorem savesAll_of_ended_each {paths : List Text} {p p' : Progress}
    (h : ended (each (convertOne env settings title (some directory)) paths p) = (p', .ok ())) :
    p.failures ≤ p'.failures ∧ (p'.failures = p.failures →
      SavesAll env settings title directory paths p.world p'.world) := by
  induction paths generalizing p with
  | nil =>
    obtain ⟨rfl, -⟩ := Prod.mk.inj h
    exact ⟨Nat.le_refl _, fun _ => .nil _⟩
  | cons path others ih =>
    obtain ⟨made, hfirst, hothers⟩ := ended_each_cons_eq_ok_iff.mp h
    obtain ⟨hle, hrest⟩ := ih hothers
    rcases saves_of_ended_convertOne hfirst with hfailed | ⟨hsame, hsaves⟩
    · exact ⟨by omega, fun _ => by omega⟩
    · exact ⟨by omega, fun hfailures => .cons hsaves (hrest (by omega))⟩

/-- A conversion into a directory that ends with status 0 has saved all its inputs. -/
theorem savesAll_of_ended_runConvert {paths : List Text} {maxDepth : Option Int}
    {outcome : Outcome}
    (h : ended (runConvert env paths (some directory) title maxDepth w) = (w', .ok outcome))
    (hstatus : outcome.status = 0) :
    ∃ settings, (convertSettings env maxDepth).outcome = .ok settings ∧
      SavesAll env settings title directory paths w w' := by
  obtain ⟨made, settings, hsettings, h⟩ := ended_thenOn_eq_ok_iff.mp h
  obtain ⟨rfl, hoption⟩ := Prod.mk.inj hsettings
  refine ⟨settings, hoption, ?_⟩
  cases hrun : each (convertOne env settings title (some directory)) paths { world := w } with
  | mk p done =>
    simp only [hrun] at h
    obtain ⟨rfl, hdone⟩ := Prod.mk.inj h
    obtain ⟨_, hall, hend⟩ := (outcome_andThen_eq_ok_iff ..).mp hdone
    obtain ⟨-, hsaves⟩ := savesAll_of_ended_each (by rw [hrun, ended, hall])
    rw [print] at hend
    split at hend
    · rw [← Except.ok.inj hend] at hstatus
      refine hsaves (show p.failures = 0 from ?_)
      simp only at hstatus
      split at hstatus
      · assumption
      · cases hstatus
    · cases hend

/-! ## What a run leaves alone -/

/-- What is spared by some inputs is spared by fewer. -/
theorem Spared.mono {before others : List Text} (h : Spared directory w before path)
    (hothers : others ⊆ before) : Spared directory w others path :=
  ⟨fun hpath hmem => h.input hpath (hothers hmem),
    fun hpath earlier hmem => h.file hpath earlier (hothers hmem)⟩

theorem Spared.congr {made : World} {before : List Text} (h : Spared directory w before path)
    (hworking : made.store.workingPlace = w.store.workingPlace) :
    Spared directory made before path := by
  refine ⟨h.input, fun hpath earlier hearlier => ?_⟩
  rw [Store.placeOf_congr hworking, Store.placeOf_congr hworking]
  exact h.file hpath earlier hearlier

namespace Saves

theorem workingPlace (h : Saves env settings title directory path w w') :
    w'.store.workingPlace = w.store.workingPlace := by
  obtain ⟨-, -, -, -, hwrite⟩ := h
  exact (Store.directoriesKept_write hwrite).workingPlace.trans
    (Store.prepares_ensure w.store directory).workingPlace

theorem sound (h : Saves env settings title directory path w w') (hs : w.store.IsSound) :
    w'.store.IsSound := by
  obtain ⟨-, -, -, -, hwrite⟩ := h
  exact ((Store.prepares_ensure w.store directory).sound hs).write hwrite

/-- The file of an input that is saved holds the document of what the input held. -/
theorem isSaved (h : Saves env settings title directory path w w') :
    IsSaved env settings title directory w w' path := by
  obtain ⟨hread, hdocument, -, -, hwrite⟩ := h
  exact ⟨_, _, held?_of_readSource hread, hdocument, Store.holds_write hwrite⟩

/-- An input that is saved leaves the files of other inputs alone. -/
theorem keeps (h : Saves env settings title directory path w w') {other : Path} {t : Text}
    (hholds : w.store.Holds other t)
    (hne : w.store.placeOf other ≠ w.store.placeOf (targetPath directory path)) :
    w'.store.Holds other t := by
  obtain ⟨-, -, -, -, hwrite⟩ := h
  have hmade := Store.prepares_ensure w.store directory
  refine (hholds.extends hmade.keeps).write hwrite ?_
  rwa [Store.placeOf_congr hmade.workingPlace, Store.placeOf_congr hmade.workingPlace]

/-- What another input holds after an input has been saved, it has held before. -/
theorem held? {earlier markup : Text} (h : Saves env settings title directory earlier w w')
    (hspared : Spared directory w [earlier] path) (hheld : w'.held? path = some markup) :
    w.held? path = some markup := by
  have hworking := h.workingPlace
  obtain ⟨-, -, -, -, hwrite⟩ := h
  have hmade := Store.prepares_ensure w.store directory
  by_cases hinput : path = standardInput
  · have hother : earlier ≠ standardInput := fun hsame =>
      hspared.input hinput (List.mem_singleton.mpr hsame.symm)
    rw [hinput, World.held?_standardInput, input_readSource hother] at hheld
    rwa [hinput, World.held?_standardInput]
  · obtain ⟨content, hfile, hread⟩ := (World.held?_eq_some_iff hinput).mp hheld
    refine (World.held?_eq_some_iff hinput).mpr ⟨content, ?_, hread⟩
    have hother := hspared.file hinput earlier (List.mem_singleton_self _)
    rwa [Store.placeOf_congr hworking, Store.at?_write hwrite, hmade.file_iff] at hfile
    rwa [Store.placeOf_congr hmade.workingPlace]

/-- An input that can be read is standard input, or the path of a file ends in its name. -/
theorem exists_child (h : Saves env settings title directory path w w') (hs : w.store.IsSound)
    (hpath : path ≠ standardInput) :
    ∃ (parent : Path) (name : Text), Path.ofText path = parent.child name ∧ name ≠ ['.', '.'] := by
  obtain ⟨hread, -, -, -, -⟩ := h
  rw [readSource, if_neg hpath] at hread
  obtain ⟨place, content, hlocate, hfile, -⟩ := Store.read_eq_ok hread
  exact hs.exists_child hlocate hfile

theorem outputStem_ne_nil (h : Saves env settings title directory path w w')
    (hs : w.store.IsSound) : outputStem path ≠ [] := by
  rw [outputStem]
  split
  · decide
  · obtain ⟨parent, name, hchild, -⟩ := h.exists_child hs ‹_›
    exact stem_ne_nil hchild

/-- An input whose file lies where the file of another input is written has the same name. -/
theorem outputName_eq_of_placeOf_eq (h : Saves env settings title directory path w w')
    (hs : w.store.IsSound) (hpath : path ≠ standardInput) {earlier : Text}
    (hstem : outputStem earlier ≠ [])
    (hplace : w.store.placeOf (Path.ofText path) = w.store.placeOf (targetPath directory earlier)) :
    outputName path = outputName earlier := by
  obtain ⟨parent, name, hchild, hname⟩ := h.exists_child hs hpath
  rw [hchild, Store.placeOf_child _ _ hname, placeOf_targetPath] at hplace
  obtain ⟨-, hsame⟩ := List.append_inj' hplace rfl
  obtain rfl := List.singleton_inj.mp hsame
  rw [outputName_eq, outputStem, if_neg hpath, hchild, stem_child_outputName parent hstem,
    ← outputName_eq]

end Saves

namespace SavesAll

variable {before after : List Text}

/-- A run over inputs is a run over the first ones and then one over the others. -/
theorem of_append (h : SavesAll env settings title directory (before ++ after) w w') :
    ∃ made, SavesAll env settings title directory before w made ∧
      SavesAll env settings title directory after made w' := by
  induction before generalizing w with
  | nil => exact ⟨w, .nil w, h⟩
  | cons path before ih =>
    obtain _ | ⟨hpath, hothers⟩ := h
    obtain ⟨made, hbefore, hafter⟩ := ih hothers
    exact ⟨made, .cons hpath hbefore, hafter⟩

theorem workingPlace (h : SavesAll env settings title directory before w w') :
    w'.store.workingPlace = w.store.workingPlace := by
  induction h with
  | nil => rfl
  | cons hpath _ ih => exact ih.trans hpath.workingPlace

theorem sound (h : SavesAll env settings title directory before w w') (hs : w.store.IsSound) :
    w'.store.IsSound := by
  induction h with
  | nil => exact hs
  | cons hpath _ ih => exact ih (hpath.sound hs)

/-- Inputs that are saved leave other files alone. -/
theorem keeps (h : SavesAll env settings title directory after w w') {other : Path} {t : Text}
    (hholds : w.store.Holds other t)
    (hne : ∀ later ∈ after, w.store.placeOf other ≠ w.store.placeOf (targetPath directory later)) :
    w'.store.Holds other t := by
  induction h with
  | nil => exact hholds
  | @cons path others w made w' hpath _ ih =>
    obtain ⟨hfirst, hrest⟩ := List.forall_mem_cons.mp hne
    refine ih (hpath.keeps hholds hfirst) fun later hlater => ?_
    rw [Store.placeOf_congr hpath.workingPlace, Store.placeOf_congr hpath.workingPlace]
    exact hrest later hlater

/-- What an input holds when its turn comes, it has held before the run, if it was spared. -/
theorem held? (h : SavesAll env settings title directory before w w') {markup : Text}
    (hspared : Spared directory w before path) (hheld : w'.held? path = some markup) :
    w.held? path = some markup := by
  induction h with
  | nil => exact hheld
  | @cons earlier others w made w' hearlier _ ih =>
    -- from the end of the run back to its start
    have hothers := (hspared.mono (List.subset_cons_self ..)).congr hearlier.workingPlace
    exact hearlier.held? (hspared.mono (by simp)) (ih hothers hheld)

theorem outputStem_ne_nil (h : SavesAll env settings title directory before w w')
    (hs : w.store.IsSound) : ∀ earlier ∈ before, outputStem earlier ≠ [] := by
  induction h with
  | nil => simp
  | cons hpath _ ih =>
    exact List.forall_mem_cons.mpr ⟨hpath.outputStem_ne_nil hs, ih (hpath.sound hs)⟩

/-- The file of an input that was spared holds its document after the run, if no later input has the
same name. -/
theorem isSaved (h : SavesAll env settings title directory (before ++ path :: after) w w')
    (hlater : ∀ later ∈ after, outputName later ≠ outputName path)
    (hspared : Spared directory w before path) :
    IsSaved env settings title directory w w' path := by
  obtain ⟨u, hbefore, hrest⟩ := h.of_append
  obtain _ | ⟨hpath, hafter⟩ := hrest
  obtain ⟨markup, document, hheld, hdocument, hholds⟩ := hpath.isSaved
  refine ⟨markup, document, hbefore.held? hspared hheld, hdocument, hafter.keeps hholds ?_⟩
  intro later hmem hplace
  rw [placeOf_targetPath, placeOf_targetPath] at hplace
  obtain ⟨-, hsame⟩ := List.append_inj' hplace rfl
  exact hlater later hmem (List.singleton_inj.mp hsame).symm

/-- An input is spared when no earlier input has the same name. -/
theorem spared (h : SavesAll env settings title directory (before ++ path :: after) w w')
    (hs : w.store.IsSound) (hearlier : ∀ earlier ∈ before, outputName earlier ≠ outputName path) :
    Spared directory w before path := by
  obtain ⟨u, hbefore, hrest⟩ := h.of_append
  obtain _ | ⟨hpath, -⟩ := hrest
  refine ⟨fun hinput hmem => ?_, fun hinput earlier hmem hplace => hearlier earlier hmem ?_⟩
  · exact hearlier standardInput hmem (by rw [hinput])
  · rw [← Store.placeOf_congr hbefore.workingPlace, ← Store.placeOf_congr hbefore.workingPlace]
      at hplace
    exact (hpath.outputName_eq_of_placeOf_eq (hbefore.sound hs) hinput
      (hbefore.outputStem_ne_nil hs earlier hmem) hplace).symm

end SavesAll

end

/-- After a conversion into a directory that ends with status 0, the file of an input holds exactly
the document of what the input held before the run, when no later input has the same name and no
earlier one has taken what the input held. So no document is lost when all names are different. -/
theorem runConvert_saves (env : Environment) (paths : List Text) (directory : Path)
    (title : Option Text) (maxDepth : Option Int) (w w' : World) (outcome : Outcome)
    (h : ended (runConvert env paths (some directory) title maxDepth w) = (w', .ok outcome))
    (hstatus : outcome.status = 0) :
    ∃ settings, (convertSettings env maxDepth).outcome = .ok settings ∧
      (∀ before path after, paths = before ++ path :: after →
        (∀ later ∈ after, outputName later ≠ outputName path) → Spared directory w before path →
        IsSaved env settings title directory w w' path) ∧
      (w.store.IsSound → (paths.map outputName).Nodup →
        ∀ path ∈ paths, IsSaved env settings title directory w w' path) := by
  obtain ⟨settings, hsettings, hall⟩ := savesAll_of_ended_runConvert h hstatus
  refine ⟨settings, hsettings, fun before path after hpaths hlater hspared => ?_,
    fun hs hnames path hmem => ?_⟩
  · subst hpaths
    exact hall.isSaved hlater hspared
  · obtain ⟨before, after, rfl⟩ := List.append_of_mem hmem
    rw [List.map_append, List.map_cons, List.nodup_middle, List.nodup_cons, ← List.map_append,
      List.mem_map] at hnames
    have hother : ∀ other ∈ before ++ after, outputName other ≠ outputName path :=
      fun other hmem hsame => hnames.1 ⟨other, hmem, hsame⟩
    obtain ⟨hearlier, hlater⟩ := List.forall_mem_append.mp hother
    exact hall.isSaved hlater (hall.spared hs hearlier)

/-- A file and standard input. -/
def twoInputs : World where
  store := ⟨[(["x.html".toList], .file (.text "<b>one</b>".toList))], []⟩
  input := some "two".toList

/-- A run over both of them. -/
def twoInputsRun : World × Report Outcome :=
  runConvert {} ["x.html".toList, standardInput] (some ⟨[], ["out".toList]⟩) none none twoInputs

theorem runConvert_saves_twoInputs :
    twoInputsRun.2.outcome = .ok ⟨0, []⟩ ∧ twoInputs.store.IsSound ∧
      ∃ settings, (convertSettings {} none).outcome = .ok settings ∧
        ∀ path ∈ ["x.html".toList, standardInput],
          IsSaved {} settings none ⟨[], ["out".toList]⟩ twoInputs twoInputsRun.1 path := by
  have houtcome : twoInputsRun.2.outcome = .ok ⟨0, []⟩ := by decide +kernel
  have hended : ended twoInputsRun = (twoInputsRun.1, .ok ⟨0, []⟩) := by rw [ended, houtcome]
  have hsound : twoInputs.store.IsSound := ⟨by decide, by decide⟩
  obtain ⟨settings, hsettings, -, hall⟩ := runConvert_saves {} ["x.html".toList, standardInput]
    ⟨[], ["out".toList]⟩ none none twoInputs twoInputsRun.1 ⟨0, []⟩ hended rfl
  exact ⟨houtcome, hsound, settings, hsettings, hall hsound (by decide +kernel)⟩

/-- Two files of one name in different directories. -/
def sameNames : World where
  store := ⟨[(["a".toList], .directory), (["b".toList], .directory),
    (["a".toList, "x.html".toList], .file (.text "one".toList)),
    (["b".toList, "x.html".toList], .file (.text "two".toList))], []⟩

/-- A run over both of them. -/
def sameNamesRun : World × Report Outcome :=
  runConvert {} ["a/x.html".toList, "b/x.html".toList] (some ⟨[], ["out".toList]⟩) none none
    sameNames

/-- The run ends with status 0, and the document of the first file is lost. -/
theorem runConvert_loses_sameNames :
    sameNamesRun.2.outcome = .ok ⟨0, []⟩ ∧
      ∀ settings, (convertSettings {} none).outcome = .ok settings →
        ¬ IsSaved {} settings none ⟨[], ["out".toList]⟩ sameNames sameNamesRun.1
          "a/x.html".toList := by
  refine ⟨by decide +kernel, fun settings hsettings => ?_⟩
  rintro ⟨markup, document, hheld, hdocument, hholds⟩
  have hlast : sameNamesRun.1.store.Holds (targetPath ⟨[], ["out".toList]⟩ "a/x.html".toList)
      "two\n".toList :=
    ⟨["out".toList, "x.md".toList], by decide +kernel, by decide +kernel⟩
  have hmarkup : sameNames.held? "a/x.html".toList = some "one".toList := by decide +kernel
  obtain rfl := Option.some.inj (hmarkup.symm.trans hheld)
  have hdefault : (convertSettings {} none).outcome = .ok ⟨defaultParser, defaultDepth⟩ := by
    decide +kernel
  obtain rfl := Except.ok.inj (hdefault.symm.trans hsettings)
  have hone : (convertSource {} ⟨defaultParser, defaultDepth⟩ none "one".toList).outcome =
      .ok "one\n".toList := by
    decide +kernel
  obtain rfl := Except.ok.inj (hone.symm.trans hdocument)
  exact absurd (hholds.unique hlast) (by decide)

end PageMarkdown.Command
