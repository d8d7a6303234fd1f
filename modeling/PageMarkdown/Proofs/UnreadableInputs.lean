import PageMarkdown.Proofs.ConvertRun
import PageMarkdown.Proofs.Inventory
import PageMarkdown.Proofs.Refusal

/-!
# Inputs that cannot be read

A conversion to standard output passes over the inputs that it cannot open. What
each of the others holds when its turn comes does not depend on them; standard
input is empty once it has been read. So the run prints what a run over the other
inputs alone prints, leaves all files as they are, and ends with status 1 exactly
when an input was passed over. Three things end it without a status: standard input
that is no text, a numeral that is refused in what an input holds, and a character
that standard output has no encoding for.
-/

namespace PageMarkdown.Text

/-- A field of a text has characters of the text only. -/
theorem mem_of_mem_fields {separator c : Char} {t field : Text}
    (hfield : field ∈ fields separator t) (hc : c ∈ field) : c ∈ t := by
  induction t generalizing field with
  | nil =>
    rw [List.mem_singleton.mp hfield] at hc
    cases hc
  | cons first rest ih =>
    rw [fields] at hfield
    split at hfield
    · rcases List.mem_cons.mp hfield with rfl | hfield
      · cases hc
      · exact List.mem_cons_of_mem _ (ih hfield hc)
    · cases hrest : fields separator rest with
      | nil =>
        rw [hrest] at hfield
        rw [List.mem_singleton.mp hfield] at hc
        exact List.mem_cons.mpr (.inl (List.mem_singleton.mp hc))
      | cons next others =>
        rw [hrest] at hfield ih
        rcases List.mem_cons.mp hfield with rfl | hfield
        · rcases List.mem_cons.mp hc with rfl | hc
          · exact List.mem_cons_self
          · exact List.mem_cons_of_mem _ (ih List.mem_cons_self hc)
        · exact List.mem_cons_of_mem _ (ih (List.mem_cons_of_mem _ hfield) hc)

end PageMarkdown.Text

namespace PageMarkdown.Files

open Text

/-- A text without a null character is read as a path without one. -/
theorem hasNull_ofText {t : Text} (h : '\x00' ∉ t) : Store.hasNull (Path.ofText t) = false := by
  refine List.any_eq_false.mpr fun name hname => ?_
  rw [List.contains_iff_mem]
  exact fun hnull => h (mem_of_mem_fields (List.mem_of_mem_filter hname) hnull)

/-- A path without a null character that cannot be read has a file problem. -/
theorem Store.read_eq_error {s : Store} {path : Path} {e : Fault} (h : s.read path = .error e)
    (hnull : hasNull path = false) : ∃ problem, e = .file problem path.toText := by
  rw [read, guarded.eq_def, hnull, if_neg Bool.false_ne_true] at h
  split at h
  · cases h
  · rename_i problem _
    exact ⟨problem, (Except.error.inj h).symm⟩

end PageMarkdown.Files

namespace PageMarkdown.Markdown

/-- A document of a title and a content is composed unless the content cannot be converted. -/
theorem compose_titled_eq_error_iff {env : Environment} {settings : Option ConvertSettings}
    {title content : Text} {fault : Fault} :
    (compose env settings { title := title } content).outcome = .error fault ↔
      (ofHtml env settings content).outcome = .error fault := by
  rw [compose_termless_eq_error_iff rfl rfl rfl, ofHtml_nil]
  simp

end PageMarkdown.Markdown

namespace PageMarkdown.Command

open Text Files Markdown Report

/-- The settings of a conversion are always found, and name the default parser. -/
theorem exists_convertSettings (env : Environment) (maxDepth : Option Int) :
    ∃ depth, (convertSettings env maxDepth).outcome = .ok ⟨defaultParser, depth⟩ := by
  obtain ⟨depth, hsettings⟩ := ConvertSettings.exists_fromEnvironment env
  rw [convertSettings, Report.outcome_bind, hsettings]
  cases maxDepth with
  | none => exact ⟨depth, rfl⟩
  | some depth => exact ⟨_, ConvertSettings.make_outcome env defaultParser depth⟩

/-! ## What inputs hold when their turn comes -/

/-- An input can be opened, unless there is a problem with its file. -/
def World.canOpen (w : World) (path : Text) : Bool :=
  match (readSource w path).2 with
  | .error (.file _ _) => false
  | _ => true

/-- What is read of the inputs that can be opened, each as it is when its turn comes. -/
def World.sources (w : World) : List Text → List (Except Fault Text)
  | [] => []
  | path :: others =>
    let rest := (readSource w path).1.sources others
    if w.canOpen path then (readSource w path).2 :: rest else rest

theorem World.canOpen_standardInput (w : World) : w.canOpen standardInput = true := by
  rw [canOpen, readSource, if_pos rfl]
  cases w.input <;> rfl

/-- Whether an input can be opened depends on the files. -/
theorem World.canOpen_congr {w w' : World} (h : w'.store = w.store) : w'.canOpen = w.canOpen := by
  funext path
  by_cases hinput : path = standardInput
  · rw [hinput, canOpen_standardInput, canOpen_standardInput]
  · rw [canOpen, canOpen, readSource, readSource, if_neg hinput, if_neg hinput, h]

/-- An input that cannot be opened has a file problem, and leaves everything as it is. -/
theorem readSource_of_not_canOpen {w : World} {path : Text} (h : w.canOpen path = false) :
    ∃ problem place, readSource w path = (w, .error (.file problem place)) := by
  have hfile : path ≠ standardInput := by
    rintro rfl
    rw [w.canOpen_standardInput] at h
    cases h
  rw [World.canOpen] at h
  rw [readSource, if_neg hfile] at h ⊢
  split at h
  · rename_i problem place hread
    exact ⟨problem, place, congrArg (Prod.mk w) hread⟩
  · cases h

/-- All that can be wrong with an input that can be opened and has no null character in its name is
that standard input is no text. -/
theorem eq_undecodable_of_canOpen {w : World} {path : Text} {e : Fault}
    (h : (readSource w path).2 = .error e) (hopen : w.canOpen path = true) (hnull : '\x00' ∉ path) :
    e = .undecodable := by
  by_cases hinput : path = standardInput
  · rw [readSource, if_pos hinput] at h
    split at h
    · cases h
    · exact (Except.error.inj h).symm
  · rw [World.canOpen, h] at hopen
    rw [readSource, if_neg hinput] at h
    obtain ⟨problem, rfl⟩ := Store.read_eq_error h (hasNull_ofText hnull)
    cases hopen

/-- Inputs that cannot be opened do not change what the others hold. -/
theorem World.sources_filter (w : World) (paths : List Text) :
    w.sources (paths.filter w.canOpen) = w.sources paths := by
  induction paths generalizing w with
  | nil => rfl
  | cons path others ih =>
    cases hopen : w.canOpen path with
    | false =>
      obtain ⟨problem, place, hread⟩ := readSource_of_not_canOpen hopen
      rw [List.filter_cons_of_neg (by simp [hopen]), sources, hread, hopen, ih]
      rfl
    | true =>
      have hrest := ih (readSource w path).1
      rw [canOpen_congr (store_readSource w path)] at hrest
      rw [List.filter_cons_of_pos hopen, sources, sources, hrest]

/-- What is read of an input is text, unless standard input is none. -/
theorem World.eq_undecodable_of_mem_sources {w : World} {paths : List Text} {e : Fault}
    (h : .error e ∈ w.sources paths) (hnull : ∀ path ∈ paths, '\x00' ∉ path) :
    e = .undecodable := by
  induction paths generalizing w with
  | nil => cases h
  | cons path others ih =>
    obtain ⟨hpath, hothers⟩ := List.forall_mem_cons.mp hnull
    rw [sources] at h
    split at h
    · rename_i hopen
      rcases List.mem_cons.mp h with hread | hrest
      · exact eq_undecodable_of_canOpen hread.symm hopen hpath
      · exact ih hrest hothers
    · exact ih h hothers

/-! ## What a run prints -/

/-- A source is converted unless its markup is refused. -/
theorem convertSource_eq_error_iff (env : Environment) (settings : ConvertSettings)
    (title : Option Text) (markup : Text) (fault : Fault) :
    (convertSource env settings title markup).outcome = .error fault ↔
      Refuses env (some settings) markup fault := by
  rw [← ofHtml_eq_error_iff]
  cases title with
  | some title => exact compose_titled_eq_error_iff
  | none =>
    rw [convertSource, Report.outcome_bind]
    cases (ofHtml env (some settings) markup).outcome with
    | error e => rfl
    | ok body =>
      constructor
      · intro hfault
        cases hfault
      · intro hfault
        cases hfault

/-- What is read of an input can be converted: it is text, and is not refused as markup. -/
def IsConvertible (env : Environment) (settings : ConvertSettings) (source : Except Fault Text) :
    Prop :=
  ∃ markup, source = .ok markup ∧ ∀ fault, ¬ Refuses env (some settings) markup fault

section

variable (env : Environment) (settings : ConvertSettings) (title : Option Text)

/-- The document of what is read of an input, or the fault that ends it. -/
def documentOf (source : Except Fault Text) : Except Fault Text :=
  source.bind fun markup => (convertSource env settings title markup).outcome

/-- What is read of an input has a document exactly when it can be converted. -/
theorem exists_documentOf_iff (source : Except Fault Text) :
    (∃ document, documentOf env settings title source = .ok document) ↔
      IsConvertible env settings source := by
  cases source with
  | error e => simp [documentOf, IsConvertible, Except.bind]
  | ok markup =>
    simp only [IsConvertible, Except.ok.injEq, exists_eq_left', ← convertSource_eq_error_iff env
      settings title markup]
    show (∃ document, (convertSource env settings title markup).outcome = .ok document) ↔ _
    cases (convertSource env settings title markup).outcome <;> simp

/-- The documents of what is read of inputs, or the first fault that ends one. -/
def documents (sources : List (Except Fault Text)) : Except Fault (List Text) :=
  sources.mapM (documentOf env settings title)

theorem documents_cons (source : Except Fault Text) (others : List (Except Fault Text)) :
    documents env settings title (source :: others) =
      (documentOf env settings title source).bind fun document =>
        (documents env settings title others).map (document :: ·) := by
  rw [documents, List.mapM_cons]
  rfl

/-- There are documents exactly when all that is read can be converted. -/
theorem exists_documents_iff (sources : List (Except Fault Text)) :
    (∃ docs, documents env settings title sources = .ok docs) ↔
      ∀ source ∈ sources, IsConvertible env settings source := by
  induction sources with
  | nil => exact iff_of_true ⟨[], rfl⟩ (List.forall_mem_nil _)
  | cons source others ih =>
    rw [List.forall_mem_cons, ← ih, ← exists_documentOf_iff env settings title, documents_cons]
    cases documentOf env settings title source with
    | error e => simp [Except.bind]
    | ok document => cases documents env settings title others <;> simp [Except.bind, Except.map]

/-- Where there are no documents, some input could not be read as text, or its markup is refused. -/
theorem exists_of_documents_eq_error {sources : List (Except Fault Text)} {fault : Fault}
    (h : documents env settings title sources = .error fault) :
    .error fault ∈ sources ∨
      ∃ markup, .ok markup ∈ sources ∧ Refuses env (some settings) markup fault := by
  induction sources with
  | nil => cases h
  | cons source others ih =>
    rw [documents_cons] at h
    cases hsource : documentOf env settings title source with
    | error e =>
      rw [hsource] at h
      obtain rfl := Except.error.inj h
      cases source with
      | error e =>
        obtain rfl := Except.error.inj hsource
        exact .inl List.mem_cons_self
      | ok markup =>
        exact .inr ⟨markup, List.mem_cons_self, (convertSource_eq_error_iff ..).mp hsource⟩
    | ok document =>
      rw [hsource] at h
      have hothers : documents env settings title others = .error fault := by
        revert h
        cases documents env settings title others <;> simp [Except.bind, Except.map]
      rcases ih hothers with hmem | ⟨markup, hmem, hrefuses⟩
      · exact .inl (List.mem_cons_of_mem _ hmem)
      · exact .inr ⟨markup, List.mem_cons_of_mem _ hmem, hrefuses⟩

/-- The documents and the number of inputs passed over that a run over inputs has come to. -/
def collected (run : Progress × Except Fault Unit) : Except Fault (List Text × Nat) :=
  run.2.map fun () => (run.1.outputs, run.1.failures)

/-- One input leaves the files as they are. -/
theorem store_convertOne (path : Text) (p : Progress) :
    (convertOne env settings title none path p).1.world.store = p.world.store := by
  have hstore := store_readSource p.world path
  rw [convertOne]
  dsimp only
  split
  · exact hstore
  · exact hstore
  · rw [thenOn]
    split
    · exact hstore
    · exact hstore

variable {path : Text} {p : Progress}

/-- An input that cannot be opened is counted. -/
theorem ended_convertOne_unopened (h : p.world.canOpen path = false) :
    ended (convertOne env settings title none path p) =
      ({ p with failures := p.failures + 1 }, .ok ()) := by
  obtain ⟨problem, place, hread⟩ := readSource_of_not_canOpen h
  rw [convertOne, hread]
  rfl

/-- An input that can be opened adds its document. -/
theorem ended_convertOne_opened (h : p.world.canOpen path = true) :
    ended (convertOne env settings title none path p) =
      match documentOf env settings title (readSource p.world path).2 with
      | .ok document => ({ p with
          world := (readSource p.world path).1, outputs := p.outputs ++ [document] }, .ok ())
      | .error e => ({ p with world := (readSource p.world path).1 }, .error e) := by
  rw [World.canOpen] at h
  rw [convertOne, ← Prod.mk.eta (p := readSource p.world path)]
  dsimp only
  cases hread : (readSource p.world path).2 with
  | error e =>
    rw [hread] at h
    cases e with
    | file problem place => cases h
    | _ => rfl
  | ok markup =>
    dsimp only
    rw [show documentOf env settings title (.ok markup) =
      (convertSource env settings title markup).outcome from rfl]
    cases hsource : (convertSource env settings title markup).outcome with
    | error e => exact ended_thenOn_error (by rw [ended, hsource]) _
    | ok document =>
      rw [ended_thenOn_ok (s := _) (a := document) (by rw [ended, hsource])]
      rfl

/-- A run over inputs collects the documents of those that can be opened and counts the others. -/
theorem collected_each (paths : List Text) (p : Progress) :
    collected (ended (each (convertOne env settings title none) paths p)) =
      (documents env settings title (p.world.sources paths)).map fun docs =>
        (p.outputs ++ docs, p.failures + paths.countP (!p.world.canOpen ·)) := by
  induction paths generalizing p with
  | nil =>
    show Except.ok (p.outputs, p.failures) = Except.ok (p.outputs ++ [], p.failures + 0)
    rw [List.append_nil, Nat.add_zero]
  | cons path others ih =>
    cases hopen : p.world.canOpen path with
    | false =>
      obtain ⟨problem, place, hread⟩ := readSource_of_not_canOpen hopen
      rw [ended_each_cons_ok (ended_convertOne_unopened env settings title hopen), ih,
        World.sources, hread, hopen, List.countP_cons_of_pos (by simp [hopen])]
      simp only [Bool.false_eq_true, if_false, Nat.add_assoc, Nat.add_comm 1]
    | true =>
      have hstep := ended_convertOne_opened env settings title hopen
      rw [World.sources, List.countP_cons_of_neg (by simp [hopen])]
      rw [if_pos hopen, documents_cons]
      cases hsource : documentOf env settings title (readSource p.world path).2 with
      | error e =>
        rw [hsource] at hstep
        rw [ended_each_cons_error hstep]
        rfl
      | ok document =>
        rw [hsource] at hstep
        rw [ended_each_cons_ok hstep, ih]
        dsimp only
        rw [World.canOpen_congr (store_readSource p.world path)]
        cases documents env settings title ((readSource p.world path).1.sources others) with
        | error e => rfl
        | ok docs => simp [Except.map, Except.bind]

end

/-- A text is printed when standard output has an encoding for all of it. -/
theorem print_eq_ok_iff {env : Environment} {status : Nat} {t : Text} {outcome : Outcome} :
    (print env status t).outcome = .ok outcome ↔
      (∀ c ∈ t, env.isPrintable c = true) ∧ outcome = ⟨status, t⟩ := by
  have hprintable : (∀ c ∈ t, env.isPrintable c = true) ↔
      t.find? (fun c => !env.isPrintable c) = none := by
    simp [List.find?_eq_none]
  rw [hprintable, print]
  cases t.find? fun c => !env.isPrintable c with
  | none => simp [Report.ok, eq_comm]
  | some c => simp [Report.fault]

/-- Otherwise it is a character without an encoding that ends the run. -/
theorem exists_of_print_eq_error {env : Environment} {status : Nat} {t : Text} {fault : Fault}
    (h : (print env status t).outcome = .error fault) : ∃ c, fault = .unencodable c := by
  rw [print] at h
  split at h
  · cases h
  · exact ⟨_, (Except.error.inj h).symm⟩

/-- A conversion to standard output leaves the files as they are, however it ends. -/
theorem store_runConvert (env : Environment) (paths : List Text) (title : Option Text)
    (maxDepth : Option Int) (w : World) :
    (runConvert env paths none title maxDepth w).1.store = w.store := by
  rw [runConvert, thenOn]
  split
  · rfl
  · exact each_keeps (P := fun p : Progress => p.world.store = w.store)
      (fun path p hp => (store_convertOne ..).trans hp) rfl paths

/-- A conversion to standard output prints the documents of the inputs that can be opened, unless
one of them has none; the status tells whether there are others. -/
theorem runConvert_outcome {env : Environment} (paths : List Text) (title : Option Text)
    {maxDepth : Option Int} {settings : ConvertSettings}
    (hsettings : (convertSettings env maxDepth).outcome = .ok settings) (w : World) :
    (runConvert env paths none title maxDepth w).2.outcome =
      (documents env settings title (w.sources paths)).bind fun docs =>
        (print env (if paths.all w.canOpen then 0 else 1) (joinOutputs docs)).outcome := by
  have hcollected := collected_each env settings title paths { world := w }
  have hrun : (runConvert env paths none title maxDepth w).2.outcome =
      (collected (ended (each (convertOne env settings title none) paths { world := w }))).bind
        fun found =>
          (print env (if found.2 = 0 then 0 else 1) (joinOutputs found.1)).outcome := by
    simp only [runConvert, thenOn, hsettings]
    obtain ⟨p, events, outcome⟩ := each (convertOne env settings title none) paths { world := w }
    cases outcome <;> rfl
  have hstatus : paths.countP (!w.canOpen ·) = 0 ↔ paths.all w.canOpen = true := by
    simp [List.countP_eq_zero]
  rw [hrun, hcollected]
  cases documents env settings title (w.sources paths) with
  | error e => rfl
  | ok docs => simp only [Except.map, Except.bind, List.nil_append, Nat.zero_add, hstatus]

/-- Whatever the inputs, the files, standard input and the options, a conversion to standard output
leaves the files as they are. It prints what a run over the inputs that can be opened prints,
nothing if there are none, with status 1 if there are others and status 0 otherwise. It ends with a
status exactly when the other run does: when all that is read is text, no markup of it is refused,
and standard output has an encoding for all that is printed. -/
theorem runConvert_passes_unreadable (env : Environment) (paths : List Text) (title : Option Text)
    (maxDepth : Option Int) (w : World) (hnull : ∀ path ∈ paths, '\x00' ∉ path) :
    let run := runConvert env paths none title maxDepth w
    let alone := runConvert env (paths.filter w.canOpen) none title maxDepth w
    run.1.store = w.store ∧
      run.2.outcome = alone.2.outcome.map (fun outcome =>
        { outcome with status := if paths.all w.canOpen then 0 else 1 }) ∧
      (∀ outcome, alone.2.outcome = .ok outcome → outcome.status = 0) ∧
      (paths.filter w.canOpen = [] → alone.2.outcome = .ok ⟨0, []⟩) ∧
      ∃ settings, (convertSettings env maxDepth).outcome = .ok settings ∧
        ((∃ outcome, run.2.outcome = .ok outcome) ↔
          (∀ source ∈ w.sources paths, IsConvertible env settings source) ∧
            ∀ docs, documents env settings title (w.sources paths) = .ok docs →
              ∀ c ∈ joinOutputs docs, env.isPrintable c = true) ∧
        ∀ fault, run.2.outcome = .error fault →
          fault = .undecodable ∨ (∃ n, fault = .longNumeral n) ∨ ∃ c, fault = .unencodable c := by
  obtain ⟨depth, hsettings⟩ := exists_convertSettings env maxDepth
  have hrun := runConvert_outcome paths title hsettings w
  have halone := runConvert_outcome (paths.filter w.canOpen) title hsettings w
  have hall : (paths.filter w.canOpen).all w.canOpen = true := by simp
  rw [hall, if_pos rfl, w.sources_filter] at halone
  dsimp only
  refine ⟨store_runConvert .., ?_, ?_, ?_, _, hsettings, ?_, ?_⟩
  · rw [hrun, halone]
    cases documents env ⟨defaultParser, depth⟩ title (w.sources paths) with
    | error e => rfl
    | ok docs =>
      simp only [Except.bind, print]
      cases (joinOutputs docs).find? fun c => !env.isPrintable c <;> rfl
  · intro outcome houtcome
    rw [halone] at houtcome
    cases hdocs : documents env ⟨defaultParser, depth⟩ title (w.sources paths) with
    | error e =>
      rw [hdocs] at houtcome
      cases houtcome
    | ok docs =>
      rw [hdocs] at houtcome
      rw [(print_eq_ok_iff.mp houtcome).2]
  · intro hnone
    have hsources : w.sources paths = [] := by
      rw [← w.sources_filter, hnone, World.sources]
    rw [halone, hsources]
    rfl
  · rw [← exists_documents_iff env _ title, hrun]
    cases documents env ⟨defaultParser, depth⟩ title (w.sources paths) with
    | error e => simp [Except.bind]
    | ok docs => simp [Except.bind, print_eq_ok_iff]
  · intro fault hfault
    rw [hrun] at hfault
    cases hdocs : documents env ⟨defaultParser, depth⟩ title (w.sources paths) with
    | ok docs =>
      rw [hdocs] at hfault
      exact .inr (.inr (exists_of_print_eq_error hfault))
    | error e =>
      rw [hdocs] at hfault
      obtain rfl := Except.error.inj hfault
      rcases exists_of_documents_eq_error env _ title hdocs with hmem | ⟨markup, -, hrefuses⟩
      · exact .inl (World.eq_undecodable_of_mem_sources hmem hnull)
      · obtain ⟨n, hn, -⟩ := hrefuses.exists_longNumeral (addsNothing_default env markup)
        exact .inr (.inl ⟨n, hn⟩)

/-- A file and standard input. -/
def fileAndInput : World where
  store := ⟨[(["x.html".toList], .file (.text "<b>one</b>".toList))], []⟩
  input := some "two".toList

/-- A missing file among inputs that can be opened, standard input twice. -/
def someMissing : List Text :=
  ["x.html".toList, "missing.html".toList, standardInput, standardInput]

theorem runConvert_passes_unreadable_someMissing :
    (∀ path ∈ someMissing, '\x00' ∉ path) ∧
      (runConvert {} ["x.html".toList, standardInput, standardInput] none none none
        fileAndInput).2.outcome = .ok ⟨0, "**one**\n\ntwo\n\n\n".toList⟩ ∧
      (runConvert {} someMissing none none none fileAndInput).2.outcome =
        .ok ⟨1, "**one**\n\ntwo\n\n\n".toList⟩ ∧
      (runConvert {} someMissing none none none fileAndInput).1.store = fileAndInput.store := by
  have hnull : ∀ path ∈ someMissing, '\x00' ∉ path := by decide
  have hreadable : someMissing.filter fileAndInput.canOpen =
      ["x.html".toList, standardInput, standardInput] := by decide +kernel
  have halone : (runConvert {} ["x.html".toList, standardInput, standardInput] none none none
      fileAndInput).2.outcome = .ok ⟨0, "**one**\n\ntwo\n\n\n".toList⟩ := by decide +kernel
  have hstatus : someMissing.all fileAndInput.canOpen = false := by decide +kernel
  have hpasses := runConvert_passes_unreadable {} someMissing none none fileAndInput hnull
  rw [hreadable, hstatus] at hpasses
  obtain ⟨hstore, hrun, -⟩ := hpasses
  refine ⟨hnull, halone, hrun.trans ?_, hstore⟩
  rw [halone]
  rfl

/-- No files, and a reference with too many digits in standard input. -/
def longInput : World where
  store := ⟨[], []⟩
  input := some longReference

/-- A missing file and that input give no status at all, and neither do a missing file and standard
input that is no text. -/
theorem runConvert_ends_longInput :
    longInput.canOpen "missing.html".toList = false ∧ longInput.canOpen standardInput = true ∧
      (runConvert {} ["missing.html".toList, standardInput] none none none longInput).2.outcome =
        .error (.longNumeral ⟨4301⟩) ∧
      (runConvert {} ["missing.html".toList, standardInput] none none none
        ⟨⟨[], []⟩, none⟩).2.outcome = .error .undecodable := by
  have hsources : longInput.sources ["missing.html".toList, standardInput] =
      [.ok longReference] := by rfl
  have hsettings : (convertSettings {} none).outcome = .ok ⟨defaultParser, defaultDepth⟩ := by
    decide +kernel
  have hsource : (convertSource {} ⟨defaultParser, defaultDepth⟩ none longReference).outcome =
      .error (.longNumeral ⟨4301⟩) :=
    (convertSource_eq_error_iff ..).mpr (refuses_longReference rfl)
  refine ⟨by decide +kernel, longInput.canOpen_standardInput, ?_, by decide +kernel⟩
  rw [runConvert_outcome _ none hsettings longInput, hsources, documents_cons]
  show ((convertSource {} ⟨defaultParser, defaultDepth⟩ none longReference).outcome.bind _).bind _ =
    _
  rw [hsource]
  rfl

end PageMarkdown.Command
