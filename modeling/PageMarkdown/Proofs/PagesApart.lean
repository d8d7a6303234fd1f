import PageMarkdown.Proofs.Containment
import PageMarkdown.Proofs.PageContent

/-!
# Pages that end a run

A page ends the run that it is in, is passed over, or is written. What it does is
settled by its answer, by what it holds, and by the files that were there before the
run: the documents and directories of other pages make no difference to it. So a run
returns exactly when none of its pages ends it, and then its results are those of
the pages that are written, each as if there were no others.
-/

namespace PageMarkdown.Files.Path

end PageMarkdown.Files.Path

namespace PageMarkdown.Page

open Text Html Markdown Files Report

/-! ## Stores that are alike for pages -/

/-- Two stores are alike for the pages below a root: the same directories can be made, and the same
documents can be written. -/
structure Alike (root : Path) (s s' : Store) : Prop where
  /-- The directory of a page can be made in both stores or in neither. -/
  clear : ∀ directory, IsPageDirectory root directory →
    (s'.IsClear directory ↔ s.IsClear directory)
  /-- Its document can be written in both or in neither. -/
  takes : ∀ directory, IsPageDirectory root directory →
    (s'.TakesFile directory "index.md".toList ↔ s.TakesFile directory "index.md".toList)

namespace Alike

variable {root : Path} {s s' : Store}

theorem symm (h : Alike root s s') : Alike root s' s :=
  ⟨fun directory hpage => (h.clear directory hpage).symm,
    fun directory hpage => (h.takes directory hpage).symm⟩

end Alike

section

variable {root : Path} {s s' : Store}

end

/-! ## How pages end -/

section

variable (env : Environment) (network : Network) (settings : FetchSettings) (root : Path)

/-- The answer for a URL gives a page: it is no failure and not too large. -/
def Gives (url : Text) (page : FetchedPage) : Prop :=
  ∃ response, network.answer (requestFor settings url) = .ok response ∧
    (response.size : Int) ≤ settings.maxOctets ∧ page = pageOf url response

/-- The page of a URL comes to a document, which belongs in a directory below the root. -/
def HasDocument (url : Text) (directory : Path) (document : Text) : Prop :=
  ∃ page post, Gives network settings url page ∧
    (renderPage env network.extract settings page).outcome = .ok (post, document) ∧
    outputPath root post = .ok directory

/-- The page of a URL is passed over. -/
inductive PassedOver (s : Store) (url : Text) : Prop where
  /-- The request fails in the way that it announces. -/
  | failed {reason : Text}
      (hfails : network.answer (requestFor settings url) = .error (.announced reason))
  /-- The answer is too large. -/
  | large {response : Response}
      (hanswer : network.answer (requestFor settings url) = .ok response)
      (hlarge : settings.maxOctets < response.size)
  /-- The directory of the document can be made, but its file cannot be opened. -/
  | unopened {directory : Path} {document : Text}
      (hdocument : HasDocument env network settings root url directory document)
      (hnull : Store.hasNull root = false) (hclear : s.IsClear directory)
      (hrefused : ¬ s.TakesFile directory "index.md".toList)

/-- The page of a URL is written, with this result. -/
structure IsWritten (s : Store) (url : Text) (directory : Path) (document : Text) : Prop where
  /-- The document of the page belongs in the directory. -/
  settled : HasDocument env network settings root url directory document
  /-- No name on the way to the root holds a null character. -/
  null : Store.hasNull root = false
  /-- The directory can be made. -/
  clear : s.IsClear directory
  /-- The file can be opened. -/
  opens : s.TakesFile directory "index.md".toList
  /-- The document has octets. -/
  whole : ∀ c ∈ document, env.isHalf c = false

end

section

variable {env : Environment} {network : Network} {settings : FetchSettings} {root : Path}
  {url : Text} {s s' : Store} {directory : Path} {document : Text}

/-- Slugs hold no null character. -/
theorem hasNull_of_isPageDirectory (h : IsPageDirectory root directory) :
    Store.hasNull directory = Store.hasNull root := by
  obtain ⟨site, title, hsite, htitle, -, rfl⟩ := h
  simp [Store.hasNull_child, hsite.null_not_mem, htitle.null_not_mem]

/-- What a page comes to is what it is rendered to. -/
theorem rendered?_of_gives {page : FetchedPage} (h : Gives network settings url page) :
    rendered? env network settings url =
      (renderPage env network.extract settings page).outcome.map some := by
  obtain ⟨response, hanswer, hsize, rfl⟩ := h
  have hfetched : (fetchPage network settings url).outcome = .ok (some (pageOf url response)) := by
    simp only [fetchPage, hanswer, if_neg (not_lt.mpr hsize)]
    rfl
  rw [rendered?, hfetched]
  rfl

/-- Once a page has a document, it is left to write it. -/
theorem HasDocument.exists_writePage
    (h : HasDocument env network settings root url directory document) (s : Store) :
    ∃ post, outputPath root post = .ok directory ∧
      ended (processUrl env network settings root url s) =
        ended (writePage env root url (post, document) s) := by
  obtain ⟨page, post, hgives, hrender, hpath⟩ := h
  refine ⟨post, hpath, ?_⟩
  rw [ended_processUrl, rendered?_of_gives hgives, hrender]
  rfl

/-- Once the directory of a page can be made, its file and its document decide. -/
theorem HasDocument.ends_of_clear
    (h : HasDocument env network settings root url directory document)
    (hnull : Store.hasNull root = false) (hclear : s.IsClear directory) :
    let run := (processUrl env network settings root url s).2
    (¬ s.TakesFile directory "index.md".toList ∧ run.outcome = .ok none) ∨
    (s.TakesFile directory "index.md".toList ∧ (∀ c ∈ document, env.isHalf c = false) ∧
      run.outcome = .ok (some ⟨url, documentPath directory, document⟩)) ∨
    s.TakesFile directory "index.md".toList ∧ (∃ half ∈ document, env.isHalf half = true) ∧
      run.Fails := by
  intro run
  obtain ⟨post, hpath, hrun⟩ := h.exists_writePage s
  have hpage := isPageDirectory_outputPath hpath
  have hmade : (s.ensure directory).2 = .ok () :=
    Store.ensure_eq_ok_iff.mpr ⟨(hasNull_of_isPageDirectory hpage).trans hnull, hclear⟩
  have hopens : ∀ t, (∃ s', (s.ensure directory).1.write (documentPath directory) t = .ok s') ↔
      s.TakesFile directory "index.md".toList := fun t =>
    Store.exists_write_child_iff hmade (by decide) (by decide)
  rcases ended_writePage env url (post, document) hpath hmade with
    ⟨hrefused, hends⟩ | ⟨s', hwhole, hwrite, hends⟩ | ⟨s', half, hmem, hhalf, hwrite, hends⟩
  · refine .inl ⟨fun htakes => ?_, congrArg Prod.snd (hrun.trans hends)⟩
    obtain ⟨s', hwrite⟩ := (hopens []).mpr htakes
    exact hrefused [] s' hwrite
  · exact .inr (.inl ⟨(hopens _).mp ⟨s', hwrite⟩, hwhole, congrArg Prod.snd (hrun.trans hends)⟩)
  · exact .inr (.inr ⟨(hopens _).mp ⟨s', hwrite⟩, ⟨half, hmem, hhalf⟩, _,
      congrArg Prod.snd (hrun.trans hends)⟩)

/-- A page that is passed over comes to nothing. -/
theorem PassedOver.outcome (h : PassedOver env network settings root s url) :
    (processUrl env network settings root url s).2.outcome = .ok none := by
  have hends := ended_processUrl env network settings root url s
  cases h with
  | failed hfails =>
    have hrendered : rendered? env network settings url = .ok none := by
      simp only [rendered?, fetchPage, hfails]
      rfl
    rw [hrendered] at hends
    exact congrArg Prod.snd hends
  | large hanswer hlarge =>
    have hrendered : rendered? env network settings url = .ok none := by
      simp only [rendered?, fetchPage, hanswer, if_pos hlarge]
      rfl
    rw [hrendered] at hends
    exact congrArg Prod.snd hends
  | unopened hdocument hnull hclear hrefused =>
    rcases hdocument.ends_of_clear hnull hclear with ⟨-, hnone⟩ | ⟨hopens, -⟩ | ⟨hopens, -⟩
    · exact hnone
    · exact absurd hopens hrefused
    · exact absurd hopens hrefused

/-- A page that is written comes to its result. -/
theorem IsWritten.outcome (h : IsWritten env network settings root s url directory document) :
    (processUrl env network settings root url s).2.outcome =
      .ok (some ⟨url, documentPath directory, document⟩) := by
  rcases h.settled.ends_of_clear h.null h.clear with
    ⟨hrefused, -⟩ | ⟨-, -, hwritten⟩ | ⟨-, ⟨half, hmem, hhalf⟩, -⟩
  · exact absurd h.opens hrefused
  · exact hwritten
  · exact absurd (h.whole half hmem) (by simp [hhalf])

namespace Alike

end Alike

end

section

variable (env : Environment) (network : Network) (settings : FetchSettings) (root : Path)

/-- The result that a page comes to when it is processed alone, if it comes to one. -/
def alone (s : Store) (url : Text) : Option FetchResult :=
  (processUrl env network settings root url s).2.outcome.toOption.join

variable {env network settings root} {s s' : Store} {url : Text}

end

end PageMarkdown.Page
