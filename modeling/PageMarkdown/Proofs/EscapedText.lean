import PageMarkdown.Proofs.Conversion
import PageMarkdown.Proofs.Element
import PageMarkdown.Proofs.Html.Markup

/-!
# The Markdown of escaped text

Escaped text is read back as one string. The walk resolves the references of every
string that it reads, so that those which the text itself spells are resolved
too; what this gives is flattened. A text that spells no reference comes back
flattened and otherwise as it is.
-/

namespace PageMarkdown.Markdown

open Text Html

/-- Settling leaves nothing to do in a squeezed text but to trim it. -/
theorem Converter.settle_squeeze (t : Text) : Converter.settle (squeeze t) = flatten t := by
  have hflat := isFlat_flatten t
  have hrun : ¬ HasBlankRun (flatten t) := by
    rintro ⟨before, a, b, after, he, -, -⟩
    have hfeed : '\n' ∈ flatten t := by
      rw [he]
      simp
    exact absurd (hflat.squeezed.spaces '\n' hfeed (by decide)) (by decide)
  rw [Converter.settle, trim_squeeze, collapseBlankLines_eq_self hrun, hflat.trimmed.trim_eq]

/-- A document of one string is the flattened text of the string. -/
theorem documentText_string (c : Converter) {t d : Text} (h : Reference.resolveAll t = .ok d) :
    c.documentText (bodyOf [.text .plain t]) = .ok (flatten d) := by
  have hshown : stringMarkdown t = .clear (squeeze d) := by
    rw [stringMarkdown, shownText, h]
    rfl
  have hwalk : walkAll c.room 0 (bodyOf [.text .plain t]) = .clear (squeeze d) := by
    show walkAll c.room 0 [.text .plain t] = _
    rw [walkAll, walkAll, walk, hshown, Marked.append_clear]
    rfl
  rw [Converter.documentText_eq, hwalk, Marked.clear, ← Converter.settle_squeeze]
  rfl

/-- All blank text spells no reference. -/
theorem resolveAll_of_isAllBlank {t : Text} (h : isAllBlank t = true) :
    Reference.resolveAll t = .ok t :=
  resolveFrom_plain fun hamp => absurd (List.all_eq_true.mp h '&' hamp) (by decide)

/-- Escaped text becomes the flattened text in which the references that it spells itself are
resolved. -/
theorem ofHtml_escape (env : Environment) (settings : Option ConvertSettings) {t d : Text}
    (hroom : env.stackFull = false)
    (hparser : (ConvertSettings.inUse env settings).parser = defaultParser)
    (hd : Reference.resolveAll t = .ok d) :
    (ofHtml env settings (escape t)).outcome = .ok (flatten d) := by
  rw [ofHtml_outcome, isAllBlank_escape]
  cases hblank : isAllBlank t with
  | true =>
    rw [resolveAll_of_isAllBlank hblank] at hd
    rw [← Except.ok.inj hd, flatten, (trim_eq_nil_iff t).mpr hblank]
    rfl
  | false =>
    rw [if_neg Bool.false_ne_true, convertedOrFault, hparser,
      Environment.treeOf_of_parse (parse_escape hblank), hroom]
    exact documentText_string _ hd

/-- A text with brackets, with wide blanks and with a reference of its own, which is resolved. -/
theorem ofHtml_escape_brackets :
    (Environment.stackFull {} = false ∧
      (ConvertSettings.inUse {} none).parser = defaultParser ∧
      Reference.resolveAll " a &lt b\t\n<c> ".toList = .ok " a < b\t\n<c> ".toList) ∧
      (ofHtml {} none (escape " a &lt b\t\n<c> ".toList)).outcome = .ok "a < b <c>".toList := by
  have hd : Reference.resolveAll " a &lt b\t\n<c> ".toList = .ok " a < b\t\n<c> ".toList := by
    decide +kernel
  have hflat : flatten " a < b\t\n<c> ".toList = "a < b <c>".toList := by decide
  exact ⟨⟨rfl, rfl, hd⟩, hflat ▸ ofHtml_escape {} none rfl rfl hd⟩

/-- What a text spells does not come back as it was spelled: the text of the reference for a
less-than sign becomes the sign. -/
theorem ofHtml_escape_resolves_twice :
    (ofHtml {} none (escape "&lt;".toList)).outcome = .ok "<".toList ∧
      (ofHtml {} none (escape "&lt;".toList)).outcome ≠ .ok (flatten "&lt;".toList) := by
  have hless : (ofHtml {} none (escape "&lt;".toList)).outcome = .ok "<".toList := by
    decide +kernel
  have hkept : flatten "&lt;".toList ≠ "<".toList := by decide
  refine ⟨hless, fun hflat => hkept ?_⟩
  exact (Except.ok.inj (hless.symm.trans hflat)).symm

end PageMarkdown.Markdown
