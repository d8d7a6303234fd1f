import Mathlib.Control.Monad.Basic
import PageMarkdown.Page.Fetch
import PageMarkdown.Proofs.Files.Store
import PageMarkdown.Proofs.Report
import PageMarkdown.Proofs.Text.Slug

/-!
# What the files of pages hold

A page is written to a file of its own kind: in a directory for its host, in one for
its title, both named by slugs. Whatever becomes of the page, it leaves the store as
it was, or it makes its directories, or it makes them all and writes to its file. So
no page touches the file of another one, unless both have the same, and after a run
that returns a file holds the document of the last page that was written to it.
-/

namespace PageMarkdown.Page

open Text Markdown Files Report

/-- The file of a page in its directory. -/
def documentPath (directory : Path) : Path := directory.child "index.md".toList

/-- The directory of a page below a root: in one for its host, one for its title. -/
def IsPageDirectory (root directory : Path) : Prop :=
  ∃ site title, IsSlug site ∧ IsSlug title ∧ title.length ≤ 80 ∧
    directory = (root.child site).child title

/-- The directory of a page is named by two slugs, the second one cut at 80 characters. -/
theorem isPageDirectory_outputPath {root directory : Path} {post : Metadata}
    (h : outputPath root post = .ok directory) : IsPageDirectory root directory := by
  rw [outputPath] at h
  cases hparts : Url.splitWithParameters [] (post.sourceUrl.getD []) with
  | error defect =>
    rw [hparts] at h
    cases h
  | ok found =>
    rw [hparts] at h
    have hsite : IsSlug "site".toList := isSlug_of_all (by decide) (by decide)
    have hpage : IsSlug "page".toList := isSlug_of_all (by decide) (by decide)
    exact ⟨_, _, isSlug_slug hsite _, (isSlug_slug hpage _).take (by decide),
      List.length_take_le .., (Except.ok.inj h).symm⟩

/-- The directory of a page lies two places below the root, as no slug leads back. -/
theorem placeOf_directory (s : Store) (root : Path) {site title : Text} (hsite : IsSlug site)
    (htitle : IsSlug title) :
    s.placeOf ((root.child site).child title) = s.placeOf root ++ [site, title] := by
  rw [Store.placeOf_child s _ htitle.ne_up, Store.placeOf_child s _ hsite.ne_up, List.append_assoc,
    List.singleton_append]

/-- The file of a page lies one place further. -/
theorem placeOf_documentPath (s : Store) (directory : Path) :
    s.placeOf (documentPath directory) = s.placeOf directory ++ ["index.md".toList] :=
  Store.placeOf_child s directory (by decide)

/-- Files in different directories of pages are at different places. -/
theorem IsPageDirectory.placeOf_inj {root directory other : Path}
    (h : IsPageDirectory root directory) (h' : IsPageDirectory root other) {s : Store}
    (hsame : s.placeOf (documentPath directory) = s.placeOf (documentPath other)) :
    directory = other := by
  obtain ⟨site, title, hsite, htitle, -, rfl⟩ := h
  obtain ⟨site', title', hsite', htitle', -, rfl⟩ := h'
  rw [placeOf_documentPath, placeOf_documentPath, placeOf_directory s root hsite htitle,
    placeOf_directory s root hsite' htitle'] at hsame
  obtain ⟨rfl, rfl⟩ : site = site' ∧ title = title' := by
    simpa using List.append_cancel_left (List.append_cancel_right hsame)
  rfl

/-! ## One page -/

/-- What a page does to a store: which store it leaves, and what it writes to which file. -/
inductive Changes (root : Path) (s : Store) : Store → Option (Path × Text) → Prop where
  /-- Nothing happens. -/
  | nothing : Changes root s s none
  /-- Directories are made, as far as they can be. -/
  | prepared {directory : Path} (hpage : IsPageDirectory root directory) :
      Changes root s (s.ensure directory).1 none
  /-- The directories are there, and a text is written to the file of the page. -/
  | wrote {directory : Path} {t : Text} {s' : Store} (hpage : IsPageDirectory root directory)
      (hmade : (s.ensure directory).2 = .ok ())
      (hwrite : (s.ensure directory).1.write (documentPath directory) t = .ok s') :
      Changes root s s' (some (documentPath directory, t))

section

variable {env : Environment} {network : Network} {settings : FetchSettings} {root : Path}
  {url : Text} {s s' : Store}

/-- The directory of a page is made, unless its URL cannot be split. -/
theorem ended_buildOutputDirectory (root : Path) (post : Metadata) (s : Store) :
    ended (buildOutputDirectory root post s) =
      match outputPath root post with
      | .error defect => (s, .error (.url defect))
      | .ok directory =>
        ((s.ensure directory).1, (s.ensure directory).2.map fun _ => directory) := by
  rw [buildOutputDirectory]
  cases outputPath root post with
  | error defect => rfl
  | ok directory =>
    dsimp only
    cases (s.ensure directory).2 <;> rfl

variable (env url) in
/-- A page whose URL is not allowed is not written. -/
theorem ended_writePage_of_defect {rendered : Metadata × Text} {defect : Url.Defect}
    (hpath : outputPath root rendered.1 = .error defect) :
    ended (writePage env root url rendered s) = (s, .error (.url defect)) := by
  refine ended_thenOn_error ?_ _
  rw [ended_buildOutputDirectory, hpath]

variable (env url) in
/-- A page whose directory cannot be made is not written. -/
theorem ended_writePage_of_blocked {rendered : Metadata × Text} {directory : Path} {e : Fault}
    (hpath : outputPath root rendered.1 = .ok directory)
    (hmade : (s.ensure directory).2 = .error e) :
    ended (writePage env root url rendered s) = ((s.ensure directory).1, .error e) := by
  refine ended_thenOn_error ?_ _
  rw [ended_buildOutputDirectory, hpath]
  dsimp only
  rw [hmade]
  rfl

variable (env url) in
/-- Once its directory is there, a page is written unless its file cannot be opened or its document
has no octets. -/
theorem ended_writePage (rendered : Metadata × Text) {directory : Path}
    (hpath : outputPath root rendered.1 = .ok directory)
    (hmade : (s.ensure directory).2 = .ok ()) :
    let made := (s.ensure directory).1
    let path := documentPath directory
    let run := ended (writePage env root url rendered s)
    ((∀ u s', made.write path u ≠ .ok s') ∧ run = (made, .ok none)) ∨
    (∃ s', (∀ c ∈ rendered.2, env.isHalf c = false) ∧ made.write path rendered.2 = .ok s' ∧
      run = (s', .ok (some ⟨url, path, rendered.2⟩))) ∨
    ∃ s' half, half ∈ rendered.2 ∧ env.isHalf half = true ∧ made.write path [] = .ok s' ∧
      run = (s', .error (.unencodable half)) := by
  intro made path run
  have hbuilt : ended (buildOutputDirectory root rendered.1 s) = (made, .ok directory) := by
    rw [ended_buildOutputDirectory, hpath]
    dsimp only
    rw [hmade]
    rfl
  have hrun : run = ended (thenOn (saveDocument env path rendered.2 made) fun saved store =>
      (store, Report.ok (if saved then some ⟨url, path, rendered.2⟩ else none))) :=
    ended_thenOn_ok hbuilt _
  have hnull : Store.hasNull path = false := by
    rw [show path = directory.child "index.md".toList from rfl, Store.hasNull_child,
      Store.hasNull_of_ensure hmade]
    rfl
  -- The end of the run is that of saving the document, told in the words of a page.
  rcases Store.save_cases hnull env.isHalf made rendered.2 with
    ⟨problem, hunopened, hsave⟩ | ⟨s', hwhole, hwrite, hsave⟩ |
    ⟨s', half, hmem, hhalf, hwrite, hsave⟩
  · refine .inl ⟨hunopened, hrun.trans (ended_thenOn_ok (s := made) (a := false) ?_ _)⟩
    rw [saveDocument, hsave]
    rfl
  · refine .inr (.inl ⟨s', hwhole, hwrite, hrun.trans (ended_thenOn_ok (s := s') (a := true) ?_ _)⟩)
    rw [saveDocument, hsave]
    rfl
  · refine .inr (.inr ⟨s', half, hmem, hhalf, hwrite, hrun.trans (ended_thenOn_error ?_ _)⟩)
    rw [saveDocument, hsave]
    rfl

/-- What the page of a URL comes to before it is written, if there is one to write. -/
def rendered? (env : Environment) (network : Network) (settings : FetchSettings) (url : Text) :
    Except Fault (Option (Metadata × Text)) :=
  (fetchPage network settings url).outcome.bind fun found =>
    match found with
    | none => .ok none
    | some page => (renderPage env network.extract settings page).outcome.map some

/-- Until a page is written the store stays as it is. -/
theorem ended_processUrl (env : Environment) (network : Network) (settings : FetchSettings)
    (root : Path) (url : Text) (s : Store) :
    ended (processUrl env network settings root url s) =
      match rendered? env network settings url with
      | .error e => (s, .error e)
      | .ok none => (s, .ok none)
      | .ok (some rendered) => ended (writePage env root url rendered s) := by
  rw [processUrl, rendered?]
  cases hfetched : (fetchPage network settings url).outcome with
  | error e => exact ended_thenOn_error (congrArg (Prod.mk s) hfetched) _
  | ok found =>
    rw [ended_thenOn_ok (congrArg (Prod.mk s) hfetched)]
    cases found with
    | none => rfl
    | some page =>
      simp only [Except.bind]
      cases hrender : (renderPage env network.extract settings page).outcome with
      | error e => exact ended_thenOn_error (congrArg (Prod.mk s) hrender) _
      | ok rendered => exact ended_thenOn_ok (congrArg (Prod.mk s) hrender) _

/-- Whatever becomes of a page, the store changes in one of the ways. When the page is passed over
or comes to a result, nothing but the file of the result is written. -/
theorem exists_changes_processUrl (env : Environment) (network : Network)
    (settings : FetchSettings) (root : Path) (url : Text) (s : Store) :
    ∃ written, Changes root s (processUrl env network settings root url s).1 written ∧
      ∀ found, (processUrl env network settings root url s).2.outcome = .ok found →
        written = found.map fun r => (r.path, r.markdown) := by
  -- The ways and the ends of the run are read off together.
  suffices h : ∀ s' outcome,
      ended (processUrl env network settings root url s) = (s', outcome) →
        ∃ written, Changes root s s' written ∧
          ∀ found, outcome = .ok found → written = found.map fun r => (r.path, r.markdown) from
    h _ _ rfl
  intro s' outcome h
  rw [ended_processUrl] at h
  split at h
  · obtain ⟨rfl, rfl⟩ := Prod.mk.inj h
    exact ⟨none, .nothing, nofun⟩
  · obtain ⟨rfl, rfl⟩ := Prod.mk.inj h
    exact ⟨none, .nothing, fun found hfound => by rw [← Except.ok.inj hfound]; rfl⟩
  · rename_i rendered _
    cases hpath : outputPath root rendered.1 with
    | error defect =>
      obtain ⟨rfl, rfl⟩ := Prod.mk.inj ((ended_writePage_of_defect env url hpath).symm.trans h)
      exact ⟨none, .nothing, nofun⟩
    | ok directory =>
      have hpage := isPageDirectory_outputPath hpath
      cases hmade : (s.ensure directory).2 with
      | error e =>
        obtain ⟨rfl, rfl⟩ := Prod.mk.inj
          ((ended_writePage_of_blocked env url hpath hmade).symm.trans h)
        exact ⟨none, .prepared hpage, nofun⟩
      | ok u =>
        rcases ended_writePage env url rendered hpath hmade with
          ⟨-, hrun⟩ | ⟨s'', -, hwrite, hrun⟩ | ⟨s'', half, -, -, hwrite, hrun⟩
        · obtain ⟨rfl, rfl⟩ := Prod.mk.inj (hrun.symm.trans h)
          exact ⟨none, .prepared hpage, fun found hfound => by rw [← Except.ok.inj hfound]; rfl⟩
        · obtain ⟨rfl, rfl⟩ := Prod.mk.inj (hrun.symm.trans h)
          exact ⟨_, .wrote hpage hmade hwrite,
            fun found hfound => by rw [← Except.ok.inj hfound]; rfl⟩
        · obtain ⟨rfl, rfl⟩ := Prod.mk.inj (hrun.symm.trans h)
          exact ⟨_, .wrote hpage hmade hwrite, nofun⟩

namespace Changes

variable {directory : Path} {path : Path} {t : Text} {written : Option (Path × Text)}

/-- The file that a page writes holds what it writes, and is the file of a page. -/
theorem holds (h : Changes root s s' (some (path, t))) :
    s'.Holds path t ∧
      ∃ directory, IsPageDirectory root directory ∧ path = documentPath directory := by
  cases h with
  | wrote hpage hmade hwrite => exact ⟨Store.holds_write hwrite, _, hpage, rfl⟩

/-- A page leaves the files of other pages alone. -/
theorem keeps (h : Changes root s s' written) (hpage : IsPageDirectory root directory)
    (hholds : s.Holds (documentPath directory) t)
    (hsame : ∀ w ∈ written, w.1 = documentPath directory → w.2 = t) :
    s'.Holds (documentPath directory) t := by
  cases h with
  | nothing => exact hholds
  | prepared => exact hholds.extends (Store.extends_ensure s _)
  | @wrote other u s' hother hmade hwrite =>
    by_cases hfile : documentPath other = documentPath directory
    · rw [← hsame _ rfl hfile, ← hfile]
      exact Store.holds_write hwrite
    · refine (hholds.extends (Store.extends_ensure s other)).write hwrite fun hplace => hfile ?_
      rw [hpage.placeOf_inj hother hplace]

end Changes

/-! ## Runs -/

variable {urls others : List Text} {results : List FetchResult}

/-- A run returns when its first page does and the run over the others does from there. -/
theorem ended_runFetcher_cons_iff :
    ended (runFetcher env network settings root (url :: others) s) = (s', .ok results) ↔
      ∃ made found rest,
        ended (processUrl env network settings root url s) = (made, .ok found) ∧
        ended (runFetcher env network settings root others made) = (s', .ok rest) ∧
        results = found.toList ++ rest := by
  rw [runFetcher]
  simp only [ended_thenOn_eq_ok_iff]
  constructor
  · rintro ⟨made, found, hfirst, s'', rest, hrest, hends⟩
    obtain ⟨rfl, hresults⟩ := Prod.mk.inj hends
    exact ⟨made, found, rest, hfirst, hrest, (Except.ok.inj hresults).symm⟩
  · rintro ⟨made, found, rest, hfirst, hrest, rfl⟩
    exact ⟨made, found, hfirst, s', rest, hrest, rfl⟩

/-- A page that returns changes the store as its result says. -/
theorem changes_of_ended {found : Option FetchResult}
    (h : ended (processUrl env network settings root url s) = (s', .ok found)) :
    Changes root s s' (found.map fun r => (r.path, r.markdown)) := by
  obtain ⟨rfl, hfound⟩ := Prod.mk.inj h
  obtain ⟨written, hchanges, hwritten⟩ :=
    exists_changes_processUrl env network settings root url s
  rwa [hwritten found hfound] at hchanges

/-- A run leaves a file of a page alone unless it writes another document to it. -/
theorem keeps_runFetcher {directory : Path} {t : Text}
    (h : ended (runFetcher env network settings root urls s) = (s', .ok results))
    (hpage : IsPageDirectory root directory) (hholds : s.Holds (documentPath directory) t)
    (hsame : ∀ r ∈ results, r.path = documentPath directory → r.markdown = t) :
    s'.Holds (documentPath directory) t := by
  induction urls generalizing s results with
  | nil =>
    obtain rfl : s = s' := congrArg Prod.fst h
    exact hholds
  | cons url others ih =>
    obtain ⟨made, found, rest, hfirst, hrest, rfl⟩ := ended_runFetcher_cons_iff.mp h
    obtain ⟨hfound, hothers⟩ := List.forall_mem_append.mp hsame
    refine ih hrest ((changes_of_ended hfirst).keeps hpage hholds fun w hw => ?_) hothers
    obtain ⟨r, hr, rfl⟩ := Option.map_eq_some_iff.mp hw
    exact hfound r (Option.mem_toList.mpr hr)

/-- After a run the file of a result holds its document, if no later result of the run has another
document for it. -/
theorem holds_runFetcher {before after : List FetchResult} {r : FetchResult}
    (h : ended (runFetcher env network settings root urls s) = (s', .ok results))
    (hresults : results = before ++ r :: after)
    (hlater : ∀ r' ∈ after, r'.path = r.path → r'.markdown = r.markdown) :
    s'.Holds r.path r.markdown := by
  induction urls generalizing s results before with
  | nil =>
    obtain rfl := Except.ok.inj (congrArg Prod.snd h)
    simp at hresults
  | cons url others ih =>
    obtain ⟨made, found, rest, hfirst, hrest, rfl⟩ := ended_runFetcher_cons_iff.mp h
    cases found with
    | none => exact ih hrest hresults
    | some first =>
      cases before with
      | nil =>
        obtain ⟨rfl, rfl⟩ := List.cons.inj hresults
        obtain ⟨hholds, directory, hpage, hpath⟩ := (changes_of_ended hfirst).holds
        rw [hpath] at hholds hlater ⊢
        exact keeps_runFetcher hrest hpage hholds hlater
      | cons next before => exact ih hrest (List.cons.inj hresults).2

end

/-- After a run that returns, the file of a result holds exactly its document when no later result
has the same path. So every result is held by its file exactly when no two results have the same
path and different documents. -/
theorem runFetcher_holds (env : Environment) (network : Network) (settings : FetchSettings)
    (root : Path) (urls : List Text) (s s' : Store) (results : List FetchResult)
    (h : Report.ended (runFetcher env network settings root urls s) = (s', .ok results)) :
    (∀ before r after, results = before ++ r :: after → (∀ r' ∈ after, r'.path ≠ r.path) →
      s'.Holds r.path r.markdown) ∧
    ((∀ r ∈ results, s'.Holds r.path r.markdown) ↔
      ∀ r ∈ results, ∀ r' ∈ results, r.path = r'.path → r.markdown = r'.markdown) := by
  refine ⟨fun before r after hresults hlater => ?_, fun hall r hr r' hr' hpath => ?_,
    fun hsame r hr => ?_⟩
  · exact holds_runFetcher h hresults fun r' hr' hpath => absurd hpath (hlater r' hr')
  · have hheld := hall r' hr'
    rw [← hpath] at hheld
    exact (hall r hr).unique hheld
  · obtain ⟨before, after, hresults⟩ := List.append_of_mem hr
    refine holds_runFetcher h hresults fun r' hr' hpath => ?_
    have hmem : r' ∈ results := by
      rw [hresults]
      exact List.mem_append_right _ (List.mem_cons_of_mem _ hr')
    exact hsame r' hmem r hr hpath

/-- A site that answers every URL with the URL itself, as Markdown. -/
def echoSite : Network where
  respond request := .ok
    { text := request.url, size := octetCount request.url, url := some request.url
      contentType := some "text/markdown".toList }
  extract _ := {}

/-- A run over two URLs that differ in the case of a letter. -/
def sameSlugRun : Store × Report (List FetchResult) :=
  runFetcher {} echoSite {} ⟨['/'], ["out".toList]⟩
    ["https://a.test/a".toList, "https://a.test/A".toList] ⟨[], []⟩

/-- The file of both results of that run. -/
def sameSlugPath : Path :=
  ⟨['/'], ["out".toList, "a-test".toList, "https-a-test-a".toList, "index.md".toList]⟩

theorem runFetcher_holds_sameSlug :
    sameSlugRun.2.outcome =
      .ok [⟨"https://a.test/a".toList, sameSlugPath, "https://a.test/a\n".toList⟩,
        ⟨"https://a.test/A".toList, sameSlugPath, "https://a.test/A\n".toList⟩] ∧
    sameSlugRun.1.Holds sameSlugPath "https://a.test/A\n".toList := by
  have houtcome : sameSlugRun.2.outcome =
      .ok [⟨"https://a.test/a".toList, sameSlugPath, "https://a.test/a\n".toList⟩,
        ⟨"https://a.test/A".toList, sameSlugPath, "https://a.test/A\n".toList⟩] := by
    decide +kernel
  obtain ⟨hheld, -⟩ := runFetcher_holds {} echoSite {} ⟨['/'], ["out".toList]⟩
    ["https://a.test/a".toList, "https://a.test/A".toList] ⟨[], []⟩ sameSlugRun.1 _
    (congrArg (Prod.mk sameSlugRun.1) houtcome)
  exact ⟨houtcome, hheld [_] _ [] rfl (by simp)⟩

/-- The document of the first page is lost. -/
theorem runFetcher_loses_sameSlug :
    (∃ r ∈ (sameSlugRun.2.outcome.toOption.getD []), r.path = sameSlugPath ∧
      r.markdown = "https://a.test/a\n".toList) ∧
    ¬ sameSlugRun.1.Holds sameSlugPath "https://a.test/a\n".toList := by
  have hlast : sameSlugRun.1.Holds sameSlugPath "https://a.test/A\n".toList :=
    ⟨["out".toList, "a-test".toList, "https-a-test-a".toList, "index.md".toList],
      by decide +kernel, by decide +kernel⟩
  exact ⟨by decide +kernel, fun hfirst => absurd (hfirst.unique hlast) (by decide)⟩

end PageMarkdown.Page
