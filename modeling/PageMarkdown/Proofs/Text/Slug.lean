import PageMarkdown.Text.Slug

/-!
# What slugs are made of

A slug is filled and has nothing in it but lower-case letters, digits and
hyphens, so as the name of a directory it never leads back.
-/

namespace PageMarkdown.Text

/-- A filled text of slug characters and hyphens. -/
structure IsSlug (t : Text) : Prop where
  /-- There is something. -/
  filled : t ≠ []
  /-- There is nothing else. -/
  made : ∀ c ∈ t, isSlugChar c = true ∨ c = '-'

theorem isSlug_of_all {t : Text} (hfilled : t ≠ []) (h : t.all isSlugChar = true) : IsSlug t :=
  ⟨hfilled, fun c hc => .inl (List.all_eq_true.mp h c hc)⟩

theorem made_slugFrom (begun pending : Bool) (t : Text) :
    ∀ c ∈ slugFrom begun pending t, isSlugChar c = true ∨ c = '-' := by
  fun_induction slugFrom begun pending t with
  | case1 => simp
  | case2 begun pending c t hc hjoin ih =>
    exact List.forall_mem_cons.mpr ⟨.inr rfl, List.forall_mem_cons.mpr ⟨.inl hc, ih⟩⟩
  | case3 begun pending c t hc hjoin ih => exact List.forall_mem_cons.mpr ⟨.inl hc, ih⟩
  | case4 begun pending c t hc ih => exact ih

theorem isSlug_slug {fallback : Text} (h : IsSlug fallback) (t : Text) :
    IsSlug (slug fallback t) := by
  have hmade := made_slugFrom false false ((t.filter fun c => c.toNat < 0x80).map Char.toLower)
  rw [slug]
  split
  · exact h
  · rename_i hfilled
    exact ⟨hfilled, hmade⟩

namespace IsSlug

variable {t : Text}

theorem take (h : IsSlug t) {count : Nat} (hcount : 0 < count) : IsSlug (t.take count) :=
  ⟨by simpa [List.take_eq_nil_iff, h.filled] using Nat.ne_of_gt hcount,
    fun c hc => h.made c (List.mem_of_mem_take hc)⟩

theorem ne_up (h : IsSlug t) : t ≠ ['.', '.'] := by
  rintro rfl
  exact absurd (h.made '.' List.mem_cons_self) (by decide)

theorem null_not_mem (h : IsSlug t) : '\x00' ∉ t :=
  fun hmem => absurd (h.made _ hmem) (by decide)

end IsSlug

end PageMarkdown.Text
