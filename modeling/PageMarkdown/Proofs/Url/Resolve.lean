import PageMarkdown.Proofs.Html.TagName
import PageMarkdown.Proofs.Url.Safe
import PageMarkdown.Url.Resolve

/-!
# Schemes of resolved references

A reference with a scheme of its own that is not the one of the base stays as it is.
Any other one is resolved to a URL that is put together with the scheme of the base
in front. So a reference on a page with a hierarchical URL always comes to have a
scheme, whatever its shape.
-/

namespace PageMarkdown.Url

open Text

/-! ## Finding a scheme -/

theorem eq_append_of_cut {separator : Char} {t front rest : Text}
    (h : cut separator t = (front, some rest)) : t = front ++ separator :: rest := by
  induction t generalizing front with
  | nil => cases h
  | cons c t ih =>
    rw [cut] at h
    split at h
    · rename_i hc
      obtain ⟨rfl, hrest⟩ := Prod.mk.inj h
      rw [hc, Option.some.inj hrest]
      rfl
    · obtain ⟨rfl, hrest⟩ := Prod.mk.inj h
      exact congrArg (c :: ·) (ih (Prod.ext rfl hrest))

/-- A scheme that is found is there. -/
theorem hasScheme_of_scheme? {url name rest : Text} (h : scheme? url = some (name, rest)) :
    HasScheme url name := by
  unfold Url.scheme? at h
  split at h
  · rename_i c tail after hcut
    split at h
    · rename_i hname
      obtain ⟨rfl, rfl⟩ := Prod.mk.inj (Option.some.inj h)
      obtain ⟨hletter, htail⟩ := Bool.and_eq_true_iff.mp hname
      refine ⟨⟨c, rfl, hletter⟩, ?_, ?_⟩
      · refine List.forall_mem_cons.mpr ⟨?_, List.all_eq_true.mp htail⟩
        rw [isSchemeChar, hletter, Bool.true_or, Bool.true_or, Bool.true_or, Bool.true_or]
      · exact ⟨after, by rw [eq_append_of_cut hcut, List.append_assoc]; rfl⟩
    · cases h
  · cases h

/-- A URL that is taken apart has a scheme in front, or gets the default one. -/
theorem scheme_of_split {default url : Text} {p : Parts} (h : split default url = .ok p) :
    p.scheme = default ∨ ∃ name, HasScheme (tidy url) name ∧ p.scheme = name.map Char.toLower := by
  cases hfound : scheme? (tidy url) with
  | some found =>
    obtain ⟨name, rest⟩ := found
    have hscheme := hasScheme_of_scheme? hfound
    exact .inr ⟨name, hscheme, hscheme.split h⟩
  | none =>
    unfold Url.split at h
    simp only [hfound] at h
    split at h
    · cases h
    · split at h
      · cases h
      · obtain rfl := Except.ok.inj h
        exact .inl rfl

/-- Parameters are taken out of the path and leave the scheme. -/
theorem split_of_splitWithParameters {default url parameters : Text} {p : Parts}
    (h : splitWithParameters default url = .ok (p, parameters)) :
    ∃ q, split default url = .ok q ∧ p.scheme = q.scheme := by
  unfold splitWithParameters at h
  cases hsplit : split default url with
  | error e =>
    rw [hsplit] at h
    cases h
  | ok q =>
    rw [hsplit] at h
    refine ⟨q, rfl, ?_⟩
    simp only [Except.map, Except.ok.injEq] at h
    split at h <;> obtain ⟨rfl, -⟩ := Prod.mk.inj h <;> rfl

/-! ## Writing a scheme -/

/-- The name of a scheme: a letter, then characters of schemes. -/
structure IsSchemeName (name : Text) : Prop where
  /-- The name begins with a letter. -/
  letter : ∃ c, name.head? = some c ∧ isLetter c = true
  /-- The name has only characters of schemes. -/
  chars : ∀ c ∈ name, isSchemeChar c = true

theorem HasScheme.isSchemeName {url name : Text} (h : HasScheme url name) : IsSchemeName name :=
  ⟨h.letter, h.chars⟩

/-- A character of schemes stays one in lower case. -/
theorem isSchemeChar_toLower {c : Char} (h : isSchemeChar c = true) :
    isSchemeChar c.toLower = true := by
  by_cases hupper : c.isUpper = true
  · have hletter : isLetter c.toLower = true :=
      isLetter_toLower (by simp [isLetter, Char.isAlpha, hupper])
    rw [isSchemeChar, hletter, Bool.true_or, Bool.true_or, Bool.true_or, Bool.true_or]
  · rwa [Char.toLower_eq_of_not_isUpper hupper]

theorem IsSchemeName.lower {name : Text} (h : IsSchemeName name) :
    IsSchemeName (name.map Char.toLower) := by
  obtain ⟨⟨c, hhead, hletter⟩, hchars⟩ := h
  refine ⟨⟨c.toLower, by rw [List.head?_map, hhead]; rfl, ?_⟩, fun d hd => ?_⟩
  · exact isLetter_toLower hletter
  · obtain ⟨e, he, rfl⟩ := List.mem_map.mp hd
    exact isSchemeChar_toLower (hchars e he)

/-- A character of schemes is no control and no space. -/
theorem solid_of_isSchemeChar {c : Char} (h : isSchemeChar c = true) : 0x20 < c.toNat := by
  by_contra hlow
  have hall : ∀ n ≤ 0x20, isSchemeChar (Char.ofNat n) = false := by decide
  have hnone := hall c.toNat (by omega)
  rw [Char.ofNat_toNat, h] at hnone
  cases hnone

/-- A scheme that is written in front of a URL is found there, and in any tidy form of it. -/
theorem IsSchemeName.hasScheme {name : Text} (h : IsSchemeName name) (rest : Text) :
    HasScheme (tidy (name ++ ':' :: rest)) name := by
  have hsolid : ∀ c ∈ name ++ [':'], 0x20 < c.toNat := by
    intro c hc
    rcases List.mem_append.mp hc with hc | hc
    · exact solid_of_isSchemeChar (h.chars c hc)
    · obtain rfl := List.mem_singleton.mp hc
      decide
  refine ⟨h.letter, h.chars, ?_⟩
  have hfront : name ++ ':' :: rest = name ++ [':'] ++ rest := List.append_cons ..
  rw [hfront, tidy_append hsolid (by simp)]
  exact List.prefix_append _ _

/-- Parts that are put together have their scheme in front. -/
theorem Parts.hasScheme_toText {p : Parts} (h : IsSchemeName p.scheme) :
    HasScheme (tidy p.toText) p.scheme := by
  have hfilled : p.scheme.isEmpty = false := by
    obtain ⟨c, hhead, -⟩ := h.letter
    obtain ⟨tail, htail⟩ := List.head?_eq_some_iff.mp hhead
    rw [htail]
    rfl
  rw [Parts.toText, hfilled, if_neg Bool.false_ne_true, List.append_assoc, List.append_assoc,
    List.append_assoc]
  exact h.hasScheme _

theorem hasScheme_joinWithParameters {p : Parts} (h : IsSchemeName p.scheme) (parameters : Text) :
    HasScheme (tidy (joinWithParameters p parameters)) p.scheme := by
  unfold joinWithParameters
  split
  · exact Parts.hasScheme_toText h
  · exact Parts.hasScheme_toText (p := { p with path := p.path ++ ';' :: parameters }) h

/-! ## Resolving -/

/-- A reference that is resolved stays as it is, when its scheme is not the one of the base or not
hierarchical, or becomes a URL that is put together with the scheme of the base. -/
theorem resolve_eq_ok {base reference url : Text} (hbase : base ≠ []) (hreference : reference ≠ [])
    (h : resolve base reference = .ok url) :
    ∃ b baseParameters r parameters, splitWithParameters [] base = .ok (b, baseParameters) ∧
      splitWithParameters b.scheme reference = .ok (r, parameters) ∧
      ((r.scheme ≠ b.scheme ∨ r.scheme ∉ relativeSchemes) ∧ url = reference ∨
        ∃ p more, p.scheme = b.scheme ∧ url = joinWithParameters p more) := by
  rw [resolve, if_neg (by simpa using hbase), if_neg (by simpa using hreference)] at h
  cases hb : splitWithParameters [] base with
  | error e =>
    rw [hb] at h
    cases h
  | ok found =>
    obtain ⟨b, baseParameters⟩ := found
    rw [hb] at h
    cases hr : splitWithParameters b.scheme reference with
    | error e =>
      simp only [hr] at h
      cases h
    | ok found =>
      obtain ⟨r, parameters⟩ := found
      refine ⟨b, baseParameters, r, parameters, rfl, hr, ?_⟩
      simp only [hr] at h
      split at h
      · rename_i hforeign
        refine .inl ⟨?_, (Except.ok.inj h).symm⟩
        simpa using hforeign
      · rename_i hsame
        have hscheme : r.scheme = b.scheme := by
          simp only [Bool.or_eq_true, bne_iff_ne, not_or, not_not] at hsame
          exact hsame.1
        right
        split at h
        · exact ⟨r, parameters, hscheme, (Except.ok.inj h).symm⟩
        · generalize hrest : (if authoritySchemes.contains r.scheme = true then
            { r with authority := b.authority } else r) = rest at h
          have hkept : rest.scheme = b.scheme := by
            rw [← hrest, ← hscheme]
            split <;> rfl
          split at h
          · exact ⟨_, _, by exact hkept, (Except.ok.inj h).symm⟩
          · exact ⟨_, _, by exact hkept, (Except.ok.inj h).symm⟩

/-- A reference that is resolved against a URL with a hierarchical scheme comes to have a scheme: it
has another one of its own and stays as it is, or it gets the one of the base. -/
theorem resolve_hasScheme {base reference url name : Text} (hbase : HasScheme (tidy base) name)
    (hrelative : name.map Char.toLower ∈ relativeSchemes) (hreference : reference ≠ [])
    (h : resolve base reference = .ok url) :
    (url = reference ∧ ∃ own, HasScheme (tidy reference) own ∧
      own.map Char.toLower ≠ name.map Char.toLower) ∨
    HasScheme (tidy url) (name.map Char.toLower) := by
  have hfilled : base ≠ [] := by
    rintro rfl
    obtain ⟨rest, hrest⟩ := hbase.colon
    simp [tidy] at hrest
  obtain ⟨b, baseParameters, r, parameters, hb, hr, hurl⟩ := resolve_eq_ok hfilled hreference h
  obtain ⟨q, hq, hqScheme⟩ := split_of_splitWithParameters hb
  have hbScheme : b.scheme = name.map Char.toLower := hqScheme.trans (hbase.split hq)
  rcases hurl with ⟨hforeign, rfl⟩ | ⟨p, more, hp, rfl⟩
  · -- The scheme of the base is hierarchical, so the reference has another one.
    have hother : r.scheme ≠ name.map Char.toLower := by
      rintro heq
      rw [heq, hbScheme] at hforeign
      exact hforeign.elim (fun hne => hne rfl) fun hnone => hnone hrelative
    obtain ⟨p, hp, hpScheme⟩ := split_of_splitWithParameters hr
    rcases scheme_of_split hp with hdefault | ⟨own, hown, hlower⟩
    · exact absurd (hpScheme.trans (hdefault.trans hbScheme)) hother
    · exact .inl ⟨rfl, own, hown, by rwa [← hlower, ← hpScheme]⟩
  · right
    rw [← hbScheme, ← hp]
    refine hasScheme_joinWithParameters ?_ more
    rw [hp, hbScheme]
    exact hbase.isSchemeName.lower

/-! ## Defects -/

end PageMarkdown.Url
