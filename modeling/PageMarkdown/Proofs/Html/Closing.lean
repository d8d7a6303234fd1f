import PageMarkdown.Proofs.Html.Token

/-!
# Closing pieces

What is read up to the first closing piece has none in it. Where such a text is
written in front of a closing piece, it is read up to that one again: blanks
inside of a closing piece do not reach from the text into what is behind it.
-/

namespace PageMarkdown.Html.Token

open Text

/-! ## Searching -/

/-- A search fails when no end of the text begins with a closing piece. -/
theorem seek_eq_none_iff {closer : Text → Option Text} {t : Text} :
    seek closer t = none ↔ ∀ u, u <:+ t → u ≠ [] → closer u = none := by
  induction t with
  | nil =>
    refine ⟨fun _ u hu hne => ?_, fun _ => rfl⟩
    exact absurd (List.suffix_nil.mp hu) hne
  | cons c t ih =>
    have hcons : seek closer (c :: t) = none ↔
        closer (c :: t) = none ∧ seek closer t = none := by
      rw [seek]
      split
      · rename_i rest hfound
        simp [hfound]
      · rename_i hnone
        simp [hnone]
    rw [hcons, ih]
    constructor
    · rintro ⟨hfirst, hothers⟩ u hu hne
      rcases List.suffix_cons_iff.mp hu with rfl | hu
      · exact hfirst
      · exact hothers u hu hne
    · intro h
      exact ⟨h _ (List.suffix_refl _) (List.cons_ne_nil c t),
        fun u hu hne => h u (hu.trans (List.suffix_cons c t)) hne⟩

/-- Where the text in front of a closing piece has none, a search finds that one. -/
theorem seek_append {closer : Text → Option Text} {t behind rest : Text}
    (h : ∀ u, u <:+ t → u ≠ [] → closer (u ++ behind) = none)
    (hbehind : closer behind = some rest) (hne : behind ≠ []) :
    seek closer (t ++ behind) = some (t, rest) := by
  induction t with
  | nil =>
    obtain ⟨c, u, rfl⟩ := List.exists_cons_of_ne_nil hne
    rw [List.nil_append, seek, hbehind]
  | cons c t ih =>
    have hfirst := h (c :: t) (List.suffix_refl _) (List.cons_ne_nil c t)
    have hothers := ih fun u hu => h u (hu.trans (List.suffix_cons c t))
    rw [List.cons_append] at hfirst ⊢
    rw [seek, hfirst, hothers]
    rfl

/-- The text in front of the first closing piece has none, if a piece is found whatever follows
it. -/
theorem seek_inside {closer : Text → Option Text} {t inside rest : Text}
    (hstable : ∀ {u v : Text}, closer u = some v → ∀ w, closer (u ++ w) = some (v ++ w))
    (h : seek closer t = some (inside, rest)) : seek closer inside = none := by
  induction t generalizing inside with
  | nil => cases h
  | cons c t ih =>
    have htext := seek_eq_some h
    rw [seek] at h
    split at h
    · obtain ⟨rfl, -⟩ := Prod.mk.inj (Option.some.inj h)
      rfl
    · rename_i hnone
      obtain ⟨⟨front, behind⟩, hseek, hcut⟩ := Option.map_eq_some_iff.mp h
      obtain ⟨rfl, rfl⟩ := Prod.mk.inj hcut
      obtain ⟨u, hu, -⟩ := htext
      rw [seek]
      split
      · rename_i found hfound
        rw [hu, hstable hfound u] at hnone
        cases hnone
      · rw [ih hseek]
        rfl

/-- A text is read through a character that is not in it. -/
theorem through_append {c : Char} {t : Text} (h : c ∉ t) (rest : Text) :
    through c (t ++ c :: rest) = some (t, rest) := by
  refine seek_append (fun u hu hne => ?_) (if_pos rfl) (List.cons_ne_nil c rest)
  obtain ⟨d, v, rfl⟩ := List.exists_cons_of_ne_nil hne
  have hd : d ≠ c := by
    rintro rfl
    exact h (hu.subset List.mem_cons_self)
  exact if_neg hd

/-- What is read through a character does not have it. -/
theorem not_mem_of_through {c : Char} {t inside behind : Text}
    (h : through c t = some (inside, behind)) : c ∉ inside := by
  have hnone := seek_eq_none_iff.mp (seek_inside ?_ h)
  · intro hmem
    obtain ⟨front, back, rfl⟩ := List.append_of_mem hmem
    have hfound := hnone (c :: back) (List.suffix_append ..) (List.cons_ne_nil c back)
    simp at hfound
  · intro u v hu w
    cases u with
    | nil => cases hu
    | cons d u =>
      obtain ⟨rfl, hv⟩ := Option.ite_none_right_eq_some.mp hu
      exact (if_pos rfl).trans (congrArg (fun rest => some (rest ++ w)) (Option.some.inj hv))

/-! ## Pieces with blanks -/

/-- Blanks in front of a text that begins with none are cut off as they are without it. -/
theorem trimLeft_append {w : Text} (hw : trimLeft w = w) (u : Text) :
    trimLeft (u ++ w) = trimLeft u ++ w := by
  rw [trimLeft, List.dropWhile_append]
  split
  · rename_i h
    rw [trimLeft, List.isEmpty_iff.mp h, List.nil_append]
    exact hw
  · rfl

theorem spaced?_singleton (c d : Char) (t : Text) :
    spaced? [c] (d :: t) = if d = c then some t else none := rfl

theorem spaced?_cons_cons (c c' d : Char) (cs t : Text) :
    spaced? (c :: c' :: cs) (d :: t) = if d = c then spaced? (c' :: cs) (trimLeft t) else none :=
  rfl

/-- A piece is found whatever follows it. -/
theorem spaced?_append {cs u v : Text} (h : spaced? cs u = some v) (w : Text) :
    spaced? cs (u ++ w) = some (v ++ w) := by
  induction cs generalizing u with
  | nil => exact congrArg (fun rest => some (rest ++ w)) (Option.some.inj h)
  | cons c cs ih =>
    cases u with
    | nil => cases h
    | cons d u =>
      rw [List.cons_append]
      cases cs with
      | nil =>
        rw [spaced?_singleton] at h ⊢
        obtain ⟨hd, rfl⟩ : d = c ∧ u = v := by simpa using h
        rw [if_pos hd]
      | cons c' cs =>
        rw [spaced?_cons_cons] at h ⊢
        obtain ⟨hd, h⟩ := Option.ite_none_right_eq_some.mp h
        have hfilled : ¬ (u.dropWhile isBlank).isEmpty = true := by
          intro hempty
          rw [trimLeft, List.isEmpty_iff.mp hempty] at h
          cases h
        rw [if_pos hd, trimLeft, List.dropWhile_append, if_neg hfilled]
        exact ih h

/-- All characters of a piece that is found are in the text. -/
theorem mem_of_spaced? {cs u v : Text} (h : spaced? cs u = some v) {c : Char} (hc : c ∈ cs) :
    c ∈ u := by
  induction cs generalizing u with
  | nil => cases hc
  | cons c' cs ih =>
    cases u with
    | nil => cases h
    | cons d u =>
      cases cs with
      | nil =>
        rw [spaced?_singleton] at h
        obtain ⟨rfl, -⟩ := Option.ite_none_right_eq_some.mp h
        obtain rfl := List.mem_singleton.mp hc
        exact List.mem_cons_self
      | cons c'' cs =>
        rw [spaced?_cons_cons] at h
        obtain ⟨rfl, hothers⟩ := Option.ite_none_right_eq_some.mp h
        rcases List.mem_cons.mp hc with rfl | hc
        · exact List.mem_cons_self
        · exact List.mem_cons_of_mem d ((List.dropWhile_suffix _).subset (ih hothers hc))

/-- What has not all of a piece does not get it from a text behind it that begins with no end of
the piece. -/
theorem spaced?_append_eq_none {cs u w : Text} (h : spaced? cs u = none) (hw : trimLeft w = w)
    (hpiece : ∀ ending, ending <:+ cs → ending ≠ [] → spaced? ending w = none) :
    spaced? cs (u ++ w) = none := by
  induction cs generalizing u with
  | nil => cases h
  | cons c cs ih =>
    cases u with
    | nil => exact hpiece _ (List.suffix_refl _) (List.cons_ne_nil c cs)
    | cons d u =>
      rw [List.cons_append]
      cases cs with
      | nil =>
        rw [spaced?_singleton] at h ⊢
        have hd : d ≠ c := by simpa using h
        rw [if_neg hd]
      | cons c' cs =>
        rw [spaced?_cons_cons] at h ⊢
        split at h
        · rename_i hd
          rw [if_pos hd, trimLeft_append hw]
          exact ih h fun ending hending => hpiece ending (hending.trans (List.suffix_cons c _))
        · rename_i hd
          rw [if_neg hd]

/-! ## Comments -/

theorem commentEnd?_append {u v : Text} (h : commentEnd? u = some v) (w : Text) :
    commentEnd? (u ++ w) = some (v ++ w) := by
  unfold commentEnd? at h
  split at h
  · exact spaced?_append h w
  · cases h

/-- A text without the sign that ends a tag has no end of a comment. -/
theorem seek_commentEnd?_eq_none {t : Text} (h : '>' ∉ t) : seek commentEnd? t = none := by
  refine seek_eq_none_iff.mpr fun u hu _ => ?_
  by_contra hfound
  obtain ⟨v, hv⟩ := Option.ne_none_iff_exists'.mp hfound
  unfold commentEnd? at hv
  split at hv
  · exact h (hu.subset (List.mem_cons_of_mem _ (mem_of_spaced? hv (by simp))))
  · cases hv

/-- A comment is read up to the end that is written behind it. -/
theorem seek_comment {t : Text} (h : seek commentEnd? t = none) (rest : Text) :
    seek commentEnd? (t ++ "-->".toList ++ rest) = some (t, rest) := by
  rw [List.append_assoc]
  refine seek_append (fun u hu hne => ?_) rfl (by simp)
  have hnone := seek_eq_none_iff.mp h u hu hne
  obtain ⟨c, v, rfl⟩ := List.exists_cons_of_ne_nil hne
  by_cases hc : c = '-'
  · obtain rfl := hc
    have hpiece : spaced? ['-', '>'] v = none := hnone
    refine spaced?_append_eq_none hpiece rfl fun ending hending hfilled => ?_
    rcases List.suffix_cons_iff.mp hending with rfl | hending
    · rfl
    · rcases List.suffix_cons_iff.mp hending with rfl | hending
      · rfl
      · exact absurd (List.suffix_nil.mp hending) hfilled
  · unfold commentEnd?
    split
    · rename_i heq
      exact absurd (List.cons.inj heq).1 hc
    · rfl

/-! ## Marked sections -/

/-- The end of a section in double brackets. -/
def sectionEnd? : Text → Option Text := spaced? [']', ']', '>']

/-- A text that has no end of a section in single brackets has none in double ones. -/
theorem seek_sectionEnd?_eq_none {t : Text} (h : seek (spaced? [']', '>']) t = none) :
    seek sectionEnd? t = none := by
  refine seek_eq_none_iff.mpr fun u hu hne => ?_
  obtain ⟨c, v, rfl⟩ := List.exists_cons_of_ne_nil hne
  rw [sectionEnd?, spaced?_cons_cons]
  split
  · by_cases hblank : trimLeft v = []
    · rw [hblank]
      rfl
    · have hv : trimLeft v <:+ t :=
        ((List.dropWhile_suffix _).trans (List.suffix_cons c v)).trans hu
      exact seek_eq_none_iff.mp h _ hv hblank
  · rfl

/-- A section is read up to the end that is written behind it. -/
theorem seek_section {t : Text} (h : seek sectionEnd? t = none) (rest : Text) :
    seek sectionEnd? (t ++ "]]>".toList ++ rest) = some (t, rest) := by
  rw [List.append_assoc]
  refine seek_append (fun u hu hne => ?_) rfl (by simp)
  have hnone := seek_eq_none_iff.mp h u hu hne
  obtain ⟨c, v, rfl⟩ := List.exists_cons_of_ne_nil hne
  rw [sectionEnd?, spaced?_cons_cons] at hnone
  rw [sectionEnd?, List.cons_append, spaced?_cons_cons]
  split at hnone
  · rename_i hc
    have hclosed : trimLeft ("]]>".toList ++ rest) = "]]>".toList ++ rest := rfl
    rw [if_pos hc, trimLeft_append hclosed]
    refine spaced?_append_eq_none hnone hclosed fun ending hending hfilled => ?_
    rcases List.suffix_cons_iff.mp hending with rfl | hending
    · rfl
    · rcases List.suffix_cons_iff.mp hending with rfl | hending
      · rfl
      · exact absurd (List.suffix_nil.mp hending) hfilled
  · rename_i hc
    rw [if_neg hc]

end PageMarkdown.Html.Token
