import PageMarkdown.Proofs.Conversion
import PageMarkdown.Proofs.Html.PlainText

/-!
# Line feeds of the fallback

Where markup has no tree that can be walked, its plain text is the result. It is
trimmed like every other result, but no run of line feeds in it is collapsed. When
a piece of the markup is dropped, the line feeds in front of it and behind it come
to stand side by side; three of them are in a row exactly as in the markup, or
because nothing but dropped pieces stood between them.
-/

namespace PageMarkdown.Html

open Text

/-! ## Line feeds in a row -/

/-- Somewhere three line feeds follow one another directly. -/
def HasThreeFeeds (t : Text) : Prop := ['\n', '\n', '\n'] <:+: t

/-- The text is nothing, or begins with a less-than sign and ends with a greater-than sign. -/
def IsBracketed (t : Text) : Prop := t = [] ∨ ∃ inside, t = '<' :: inside ++ ['>']

/-- Nothing is left of a text exactly when it is bracketed. -/
theorem stripped_nil_iff (t : Text) : Stripped [] t ↔ IsBracketed t := by
  constructor
  · intro h
    generalize hleft : ([] : Text) = left at h
    induction h with
    | nil => exact .inl rfl
    | keep c _ _ => cases hleft
    | drop inside _ ih =>
      rcases ih hleft with rfl | ⟨further, rfl⟩
      · exact .inr ⟨inside, rfl⟩
      · exact .inr ⟨inside ++ '>' :: '<' :: further, by simp⟩
  · rintro (rfl | ⟨inside, rfl⟩)
    · exact .nil
    · exact .drop inside .nil

/-- Three line feeds of the text have nothing between them but what is bracketed. -/
def HasJoinedFeeds (t : Text) : Prop :=
  ∃ before gap gap' after, t = before ++ '\n' :: gap ++ '\n' :: gap' ++ '\n' :: after ∧
    IsBracketed gap ∧ IsBracketed gap'

/-- Line feeds that are left in a row had only dropped pieces between them. -/
theorem Stripped.hasJoinedFeeds {t u : Text} (h : Stripped t u) (ht : HasThreeFeeds t) :
    HasJoinedFeeds u := by
  obtain ⟨front, back, rfl⟩ := ht
  rw [List.append_assoc] at h
  obtain ⟨frontOf, rest, rfl, -, hrest⟩ := h.exists_of_append
  obtain ⟨first, rest, rfl, -, hrest⟩ := hrest.exists_of_cons
  obtain ⟨gap, rest, rfl, hgap, hrest⟩ := hrest.exists_of_cons
  obtain ⟨gap', rest, rfl, hgap', -⟩ := hrest.exists_of_cons
  exact ⟨frontOf ++ first, gap, gap', rest, by simp, (stripped_nil_iff gap).mp hgap,
    (stripped_nil_iff gap').mp hgap'⟩

theorem plainText_hasJoinedFeeds {markup : Text} (h : HasThreeFeeds (plainText markup)) :
    HasJoinedFeeds markup :=
  (stripped_untrimmed markup).hasJoinedFeeds (h.trans (infix_trim _))

end PageMarkdown.Html

namespace PageMarkdown.Markdown

open Text Html

/-- Three line feeds in a row are a run of blank lines. -/
theorem hasBlankRun_of_hasThreeFeeds {t : Text} (h : HasThreeFeeds t) : HasBlankRun t := by
  obtain ⟨before, after, rfl⟩ := h
  exact ⟨before, [], [], after, by simp, by simp, by simp⟩

/-! ## Results -/

/-- Why there is no tree to walk: the parser does not exist, it refuses the markup, or the stack has
no room. -/
inductive NoWalk (env : Environment) (used : ConvertSettings) (markup : Text) : Prop where
  /-- No parser has the name that is asked for. -/
  | parserMissing : env.builder? used.parser = none → NoWalk env used markup
  /-- The parser refuses the markup. -/
  | rejected {build : TreeBuilder} : env.builder? used.parser = some build →
      build markup = .error .rejectedMarkup → NoWalk env used markup
  /-- There is a tree, but no room to walk it. -/
  | stackFull {build : TreeBuilder} {nodes : List Node} :
      env.builder? used.parser = some build → build markup = .ok nodes →
      env.stackFull = true → NoWalk env used markup

/-- Markup that is not blank falls back to its plain text. -/
structure FallsBack (env : Environment) (settings : Option ConvertSettings) (markup : Text) :
    Prop where
  /-- Blank markup is converted to nothing before any question is asked. -/
  filled : isAllBlank markup = false
  /-- There is no tree to walk. -/
  noWalk : NoWalk env (ConvertSettings.inUse env settings) markup

section

variable {env : Environment} {settings : Option ConvertSettings} {markup : Text}

/-- Markup that falls back is converted to its plain text. -/
theorem FallsBack.ofHtml_outcome (h : FallsBack env settings markup) :
    (ofHtml env settings markup).outcome = .ok (plainText markup) := by
  rw [Markdown.ofHtml_outcome, h.filled, if_neg Bool.false_ne_true, convertedOrFault]
  cases h.noWalk with
  | parserMissing hparser =>
    rw [Environment.treeOf_eq_none_iff.mpr (.inl hparser)]
  | rejected hparser hrefused =>
    rw [Environment.treeOf_eq_none_iff.mpr (.inr ⟨_, hparser, hrefused⟩)]
  | stackFull hparser hbuilt hroom =>
    rw [Environment.treeOf_eq_tree_iff.mpr ⟨_, hparser, hbuilt⟩]
    exact if_pos hroom

/-- A result is nothing, the plain text of markup that falls back, or a settled document. -/
theorem ofHtml_eq_ok {t : Text} (h : (ofHtml env settings markup).outcome = .ok t) :
    t = [] ∨ FallsBack env settings markup ∧ t = plainText markup ∨
      ∃ walked, t = Converter.settle walked := by
  rw [ofHtml_outcome] at h
  split at h
  · exact .inl (Except.ok.inj h).symm
  · rename_i hfilled
    have hfilled : isAllBlank markup = false := by simpa using hfilled
    rw [convertedOrFault] at h
    split at h
    · cases h
    · rename_i hnone
      obtain rfl := Except.ok.inj h
      refine .inr (.inl ⟨⟨hfilled, ?_⟩, rfl⟩)
      rcases Environment.treeOf_eq_none_iff.mp hnone with hparser | ⟨build, hparser, hrefused⟩
      · exact .parserMissing hparser
      · exact .rejected hparser hrefused
    · rename_i nodes htree
      obtain ⟨build, hparser, hbuilt⟩ := Environment.treeOf_eq_tree_iff.mp htree
      split at h
      · rename_i hroom
        exact .inr (.inl ⟨⟨hfilled, .stackFull hparser hbuilt hroom⟩, (Except.ok.inj h).symm⟩)
      · rw [Converter.documentText_eq, unlessRefused_eq_ok_iff] at h
        exact .inr (.inr ⟨_, h.2⟩)

end

/-- Markup that falls back is always converted, to its plain text. Every result is trimmed, and one
with three line feeds in a row comes from such markup, in which three line feeds have nothing
between them but what begins with a less-than sign and ends with a greater-than sign. -/
theorem ofHtml_threeFeeds (env : Environment) (settings : Option ConvertSettings)
    (markup : Text) :
    (FallsBack env settings markup →
      (ofHtml env settings markup).outcome = .ok (plainText markup)) ∧
    ∀ t, (ofHtml env settings markup).outcome = .ok t →
      IsTrimmed t ∧
        (HasThreeFeeds t → FallsBack env settings markup ∧ HasJoinedFeeds markup) := by
  refine ⟨fun h => h.ofHtml_outcome, fun t ht => ?_⟩
  rcases ofHtml_eq_ok ht with rfl | ⟨hfalls, rfl⟩ | ⟨walked, rfl⟩
  · exact ⟨isTrimmed_nil, fun hfeeds => absurd (List.eq_nil_of_infix_nil hfeeds) (by decide)⟩
  · exact ⟨isTrimmed_trim _, fun hfeeds => ⟨hfalls, plainText_hasJoinedFeeds hfeeds⟩⟩
  · exact ⟨isTrimmed_trim _, fun hfeeds =>
      absurd (hasBlankRun_of_hasThreeFeeds hfeeds) (not_hasBlankRun_settle walked)⟩

/-- Two tags on lines of their own leave three line feeds in a row. -/
theorem ofHtml_threeFeeds_tagLines :
    let settings : ConvertSettings := ⟨"no-such-parser".toList, 100⟩
    let markup := "a\n<br>\n<br>\nb".toList
    FallsBack {} (some settings) markup ∧
      (ofHtml {} (some settings) markup).outcome = .ok "a\n\n\nb".toList ∧
      HasThreeFeeds "a\n\n\nb".toList := by
  have hfalls : FallsBack {} (some ⟨"no-such-parser".toList, 100⟩) "a\n<br>\n<br>\nb".toList :=
    ⟨by decide, .parserMissing rfl⟩
  exact ⟨hfalls, hfalls.ofHtml_outcome.trans (by decide), ['a'], ['b'], rfl⟩

end PageMarkdown.Markdown
