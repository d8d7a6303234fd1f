import PageMarkdown.Proofs.FetchRun
import PageMarkdown.Proofs.Files.Way

/-!
# What a page changes

However a page ends, it changes one file at most, the document that is named by
two slugs below the root, and beside it only makes directories: the root with
those that lead to it, and one for each slug. Slugs hold no points and no
slashes, so no title and no URL leads anywhere else.
-/

namespace PageMarkdown.Page

open Text Markdown Files

/-- Nothing differs between two stores but the document below a root that is named by two slugs, and
the directories on the way to it. -/
structure WritesOnly (root : Path) (site title : Text) (s s' : Store) : Prop where
  /-- Relative paths start from the same place. -/
  workingPlace : s'.workingPlace = s.workingPlace
  /-- A place that differs is that of the document, where a text was written over a file or over
  nothing, or that of a directory on the way, made where nothing was. -/
  change : ∀ place, s'.at? place ≠ s.at? place →
    (place = s.placeOf root ++ [site, title, "index.md".toList] ∧
      s.at? place ≠ some .directory ∧ ∃ t, s'.at? place = some (.file (.text t))) ∨
    (((∃ p : Path, p.OnWayTo root ∧ place = s.placeOf p) ∨
        place = s.placeOf root ++ [site] ∨ place = s.placeOf root ++ [site, title]) ∧
      s.at? place = none ∧ s'.at? place = some .directory)

section

variable {root : Path} {site title : Text} {s s' : Store}

theorem WritesOnly.refl (root : Path) (site title : Text) (s : Store) :
    WritesOnly root site title s s :=
  ⟨rfl, fun _ hchange => absurd rfl hchange⟩

/-- Making the directory of a page makes no directory beside it. -/
theorem writesOnly_of_prepares (hsite : IsSlug site) (htitle : IsSlug title)
    (h : Store.Prepares ((root.child site).child title) s s') :
    WritesOnly root site title s s' := by
  refine ⟨h.workingPlace, fun place hchange => .inr ?_⟩
  rcases h.entry place with hsame | ⟨hnone, hmade, p, hp, rfl⟩
  · exact absurd hsame hchange
  · refine ⟨?_, hnone, hmade⟩
    rcases Path.onWayTo_child_iff.mp hp with rfl | hp
    · exact .inr (.inr (placeOf_directory s root hsite htitle))
    · rcases Path.onWayTo_child_iff.mp hp with rfl | hp
      · exact .inr (.inl (Store.placeOf_child s root hsite.ne_up))
      · exact .inl ⟨p, hp, rfl⟩

/-- Writing the document as well changes no other file. -/
theorem writesOnly_of_write (hsite : IsSlug site) (htitle : IsSlug title) {made : Store}
    (hmade : Store.Prepares ((root.child site).child title) s made) {document : Text}
    (hwrite : made.write (documentPath ((root.child site).child title)) document = .ok s') :
    WritesOnly root site title s s' := by
  obtain ⟨written, hlocate, hfree, rfl⟩ := Store.write_eq_ok hwrite
  have hplace : written = s.placeOf root ++ [site, title, "index.md".toList] := by
    rw [Store.locate_eq hlocate, Store.placeOf_congr hmade.workingPlace, placeOf_documentPath,
      placeOf_directory s root hsite htitle, List.append_assoc]
    rfl
  refine ⟨hmade.workingPlace, fun place hchange => ?_⟩
  by_cases hdocument : place = written
  · refine .inl ⟨hdocument.trans hplace, fun hdirectory => hfree ?_, document, ?_⟩
    · rw [← hdocument]
      exact hmade.keeps.entry place _ hdirectory
    · rw [Store.at?_put hfree, if_pos hdocument]
  · rw [Store.at?_put hfree, if_neg hdocument] at hchange ⊢
    exact (writesOnly_of_prepares hsite htitle hmade).change place hchange

/-- What a page does to a store changes nothing beyond a document and the directories on the way to
it. The document is not written where a directory on the way to the root is. -/
theorem Changes.exists_writesOnly {written : Option (Path × Text)}
    (h : Changes root s s' written) :
    ∃ site title, IsSlug site ∧ IsSlug title ∧ title.length ≤ 80 ∧
      WritesOnly root site title s s' ∧
      ∀ p : Path, p.OnWayTo root →
        s.placeOf p = s.placeOf root ++ [site, title, "index.md".toList] →
          s'.at? (s.placeOf p) = s.at? (s.placeOf p) ∨ s'.at? (s.placeOf p) = some .directory := by
  cases h with
  | nothing =>
    exact ⟨['a'], ['a'], isSlug_of_all (by decide) (by decide),
      isSlug_of_all (by decide) (by decide), by decide, .refl .., fun _ _ _ => .inl rfl⟩
  | prepared hpage =>
    obtain ⟨site, title, hsite, htitle, hshort, rfl⟩ := hpage
    have hprepared := Store.prepares_ensure s ((root.child site).child title)
    refine ⟨site, title, hsite, htitle, hshort, writesOnly_of_prepares hsite htitle hprepared,
      fun p _ _ => ?_⟩
    exact (hprepared.entry (s.placeOf p)).imp_right fun h => h.2.1
  | wrote hpage hmade hwrite =>
    obtain ⟨site, title, hsite, htitle, hshort, rfl⟩ := hpage
    refine ⟨site, title, hsite, htitle, hshort,
      writesOnly_of_write hsite htitle (Store.prepares_ensure ..) hwrite, fun p hp _ => .inr ?_⟩
    -- The directories on the way were there before the document was written.
    refine (Store.directoriesKept_write hwrite).directory _ (Store.directory_of_ensure hmade ?_)
    exact Path.onWayTo_child_iff.mpr (.inr (Path.onWayTo_child_iff.mpr (.inr hp)))

end

/-- Whatever the page and the store, and whether the page was written, was passed over or ended in a
fault: what has changed in the store is the document of the page at most, and the directories on the
way to it that were missing. Below the root it is named by two slugs, the second one of 80
characters at most. -/
theorem processUrl_writesOnly (env : Environment) (network : Network) (settings : FetchSettings)
    (root : Path) (url : Text) (s : Store) :
    ∃ site title, IsSlug site ∧ IsSlug title ∧ title.length ≤ 80 ∧
      WritesOnly root site title s (processUrl env network settings root url s).1 := by
  obtain ⟨written, hchanges, -⟩ := exists_changes_processUrl env network settings root url s
  obtain ⟨site, title, hsite, htitle, hshort, hwrites, -⟩ := hchanges.exists_writesOnly
  exact ⟨site, title, hsite, htitle, hshort, hwrites⟩

/-- No part of a URL leads out of the root. -/
example :
    let network : Network :=
      { respond := fun request => .ok
          { text := request.url, size := 0, url := some request.url
            contentType := some "text/markdown".toList }
        extract := fun _ => {} }
    let site := "u-p-a-test-8".toList
    let title := "https-u-p-a-test-8-x".toList
    (processUrl {} network {} ⟨['/'], ["out".toList]⟩ "https://u:p@a.test:8/../../x".toList
      ⟨[], []⟩).1.entries.map Prod.fst =
      [["out".toList], ["out".toList, site], ["out".toList, site, title],
        ["out".toList, site, title, "index.md".toList]] := by
  decide +kernel

end PageMarkdown.Page
