import PageMarkdown.Html.PlainText
import PageMarkdown.Proofs.Text.Blank

/-!
# What is left without tags

Scripts, style sheets and tags are dropped as pieces that begin with a less-than
sign and end with a greater-than sign. Dropping in two passes is dropping once: a
tag that the first pass has spliced together is a longer piece of the markup. A
less-than sign is kept only where no greater-than sign follows, so no tag is left
and a second run finds nothing to drop.
-/

namespace PageMarkdown.Html

open Text

/-! ## Dropped pieces -/

/-- The first text is left of the second one when pieces between a less-than sign and a greater-than
sign are dropped. -/
inductive Stripped : Text → Text → Prop where
  /-- Nothing is left of nothing. -/
  | nil : Stripped [] []
  /-- A character is kept. -/
  | keep (c : Char) {t u : Text} : Stripped t u → Stripped (c :: t) (c :: u)
  /-- A piece is dropped. -/
  | drop (inside : Text) {t u : Text} : Stripped t u → Stripped t ('<' :: inside ++ '>' :: u)

namespace Stripped

variable {t u v : Text}

theorem sublist (h : Stripped t u) : t.Sublist u := by
  induction h with
  | nil => exact List.Sublist.refl []
  | keep c _ ih => exact ih.cons_cons c
  | drop inside _ ih =>
    exact ih.trans ((List.suffix_cons '>' _).trans (List.suffix_append ..)).sublist

theorem append {t' u' : Text} (h : Stripped t u) (h' : Stripped t' u') :
    Stripped (t ++ t') (u ++ u') := by
  induction h with
  | nil => exact h'
  | keep c _ ih => exact ih.keep c
  | drop inside _ ih => simpa using ih.drop inside

/-- In front of a character that is left everything has been dropped. -/
theorem exists_of_cons {c : Char} (h : Stripped (c :: t) u) :
    ∃ dropped rest, u = dropped ++ c :: rest ∧ Stripped [] dropped ∧ Stripped t rest := by
  generalize ht : c :: t = left at h
  induction h with
  | nil => cases ht
  | keep d h ih =>
    obtain ⟨rfl, rfl⟩ := List.cons.inj ht
    exact ⟨[], _, rfl, .nil, h⟩
  | drop inside _ ih =>
    obtain ⟨dropped, rest, rfl, hdropped, hrest⟩ := ih ht
    exact ⟨'<' :: inside ++ '>' :: dropped, rest, by simp, hdropped.drop inside, hrest⟩

/-- What two parts are left of stands one behind the other. -/
theorem exists_of_append (h : Stripped (t ++ u) v) :
    ∃ front back, v = front ++ back ∧ Stripped t front ∧ Stripped u back := by
  induction t generalizing v with
  | nil => exact ⟨[], v, rfl, .nil, h⟩
  | cons c t ih =>
    obtain ⟨dropped, rest, rfl, hdropped, hrest⟩ := h.exists_of_cons
    obtain ⟨front, back, rfl, hfront, hback⟩ := ih hrest
    exact ⟨dropped ++ c :: front, back, by simp, hdropped.append (hfront.keep c), hback⟩

/-- Dropping twice is dropping once: a piece of what is left spans what was dropped inside it. -/
theorem trans (h : Stripped t u) (h' : Stripped u v) : Stripped t v := by
  induction h generalizing v with
  | nil => exact h'
  | keep c _ ih =>
    obtain ⟨dropped, rest, rfl, hdropped, hrest⟩ := h'.exists_of_cons
    exact hdropped.append ((ih hrest).keep c)
  | drop inside _ ih =>
    obtain ⟨dropped, rest, rfl, hdropped, hrest⟩ := h'.exists_of_cons
    obtain ⟨front, back, rfl, -, hback⟩ := exists_of_append hrest
    obtain ⟨between, after, rfl, -, hafter⟩ := hback.exists_of_cons
    simpa using hdropped.append ((ih hafter).drop (front ++ between))

end Stripped

/-! ## Scripts and style sheets -/

/-- What follows a word stands at the end. -/
theorem afterWord?_suffix {word t rest : Text} (h : afterWord? word t = some rest) :
    rest <:+ t := by
  fun_induction afterWord? word t with
  | case1 t => exact Option.some.inj h ▸ List.suffix_refl t
  | case2 => cases h
  | case3 p word c t _ ih => exact (ih h).trans (List.suffix_cons c t)
  | case4 => cases h

theorem afterFolded?_suffix {word t rest : Text} (h : afterFolded? word t = some rest) :
    rest <:+ t := by
  fun_induction afterFolded? word t with
  | case1 t => exact Option.some.inj h ▸ List.suffix_refl t
  | case2 => cases h
  | case3 word c t ih => exact (ih h).trans (List.suffix_cons c t)
  | case4 => cases h

/-- An end tag ends with a greater-than sign. -/
theorem afterEndTag?_suffix {name t rest : Text} (h : afterEndTag? name t = some rest) :
    '>' :: rest <:+ t := by
  rw [afterEndTag?.eq_def] at h
  split at h
  · rename_i t
    split at h
    · rename_i found hfound
      obtain rfl := Option.some.inj h
      obtain ⟨behind, hbehind, htrim⟩ := Option.map_eq_some_iff.mp hfound
      have hclosed : '>' :: found <:+ behind := htrim ▸ List.dropWhile_suffix isBlank
      have ht : behind <:+ t := afterWord?_suffix hbehind
      exact (hclosed.trans ht).trans ((List.suffix_cons '/' t).trans (List.suffix_cons '<' _))
    · cases h
  · cases h

theorem behindEndTag?_suffix {name t rest : Text} (h : behindEndTag? name t = some rest) :
    '>' :: rest <:+ t := by
  induction t with
  | nil => cases h
  | cons c t ih =>
    rw [behindEndTag?] at h
    split at h
    · rename_i hfound
      exact Option.some.inj h ▸ afterEndTag?_suffix hfound
    · exact (ih h).trans (List.suffix_cons c t)

/-- The name of a hidden element is followed by what stands at the end. -/
theorem hiddenName?_suffix {t name rest : Text} (h : hiddenName? t = some (name, rest)) :
    rest <:+ t := by
  rw [hiddenName?] at h
  split at h
  · rename_i found hscript
    obtain ⟨behind, hbehind, hfound⟩ := Option.map_eq_some_iff.mp hscript
    obtain ⟨-, rfl⟩ := Prod.mk.inj (hfound.trans (Option.some.inj h))
    exact afterFolded?_suffix hbehind
  · obtain ⟨behind, hbehind, hfound⟩ := Option.map_eq_some_iff.mp h
    obtain ⟨-, rfl⟩ := Prod.mk.inj hfound
    exact afterFolded?_suffix hbehind

/-- A script or style sheet is a piece that can be dropped. -/
theorem exists_of_afterHidden? {c : Char} {t rest : Text}
    (h : afterHidden? (c :: t) = some rest) : c = '<' ∧ '>' :: rest <:+ t := by
  rw [afterHidden?.eq_def] at h
  split at h
  · rename_i t' ht
    obtain ⟨rfl, rfl⟩ := List.cons.inj ht
    refine ⟨rfl, ?_⟩
    split at h
    · cases h
    · rename_i name behind hname
      split at h
      · rename_i d inside hinside
        have hopened : d :: inside <:+ behind := hinside ▸ List.dropWhile_suffix (· != '>')
        have hclosed : '>' :: rest <:+ inside := behindEndTag?_suffix h
        exact ((hclosed.trans (List.suffix_cons d inside)).trans hopened).trans
          (hiddenName?_suffix hname)
      · cases h
  · cases h

/-- Only pieces are dropped with scripts and style sheets. -/
theorem stripped_dropHiddenFrom (skip : Nat) (t : Text) :
    Stripped (dropHiddenFrom skip t) (t.drop skip) := by
  fun_induction dropHiddenFrom skip t with
  | case1 skip =>
    rw [List.drop_nil]
    exact .nil
  | case2 skip c t ih => exact ih
  | case3 c t rest hhidden ih =>
    obtain ⟨rfl, inside, rfl⟩ := exists_of_afterHidden? hhidden
    have hbehind : (inside ++ '>' :: rest).drop ((inside ++ '>' :: rest).length - rest.length) =
        rest := by
      have hskipped : (inside ++ '>' :: rest).length - rest.length = inside.length + 1 := by
        simp only [List.length_append, List.length_cons]
        omega
      rw [hskipped, List.drop_append, Nat.add_sub_cancel_left, List.drop_eq_nil_of_le (by omega)]
      rfl
    rw [hbehind] at ih
    exact ih.drop inside
  | case4 c t hkept ih => exact ih.keep c

theorem stripped_dropHidden (t : Text) : Stripped (dropHidden t) t := stripped_dropHiddenFrom 0 t

/-! ## Tags -/

/-- Only pieces are dropped with tags. A text that begins inside of a tag which ends goes on behind
its end. -/
theorem stripped_dropTagsFrom (t : Text) :
    Stripped (dropTagsFrom false t) t ∧
      ('>' ∈ t → ∃ inside rest, t = inside ++ '>' :: rest ∧
        Stripped (dropTagsFrom true t) rest) := by
  induction t with
  | nil => exact ⟨.nil, fun h => by cases h⟩
  | cons c t ih =>
    obtain ⟨houtside, hinside⟩ := ih
    constructor
    · rw [dropTagsFrom]
      split
      · rename_i htag
        obtain ⟨rfl, hclosed⟩ : c = '<' ∧ '>' ∈ t := by simpa using htag
        obtain ⟨inside, rest, rfl, hrest⟩ := hinside hclosed
        exact hrest.drop inside
      · exact houtside.keep c
    · intro hclosed
      rw [dropTagsFrom]
      by_cases hc : c = '>'
      · exact ⟨[], t, by rw [hc]; rfl, by simpa [hc] using houtside⟩
      · obtain ⟨inside, rest, rfl, hrest⟩ :=
          hinside ((List.mem_cons.mp hclosed).resolve_left (Ne.symm hc))
        have hgoesOn : (c != '>') = true := by simpa using hc
        exact ⟨c :: inside, rest, rfl, hgoesOn ▸ hrest⟩

theorem stripped_dropTags (t : Text) : Stripped (dropTags t) t := (stripped_dropTagsFrom t).1

/-- No less-than sign of the text is followed by a greater-than sign. -/
def IsTagless (t : Text) : Prop := ∀ before after, t = before ++ '<' :: after → '>' ∉ after

theorem isTagless_nil : IsTagless [] := fun before after h => by simp at h

theorem isTagless_cons (c : Char) (t : Text) :
    IsTagless (c :: t) ↔ (c = '<' → '>' ∉ t) ∧ IsTagless t := by
  constructor
  · refine fun h => ⟨?_, fun before after ht => h (c :: before) after (by rw [ht]; rfl)⟩
    rintro rfl
    exact h [] t rfl
  · rintro ⟨hfirst, hrest⟩ before after ht
    cases before with
    | nil =>
      obtain ⟨rfl, rfl⟩ := List.cons.inj ht
      exact hfirst rfl
    | cons d before => exact hrest before after (List.cons.inj ht).2

theorem IsTagless.part {t u : Text} (hu : IsTagless u) (h : t <:+: u) : IsTagless t := by
  obtain ⟨front, back, rfl⟩ := h
  rintro before after rfl hclosed
  exact hu (front ++ before) (after ++ back) (by simp) (List.mem_append_left back hclosed)

/-- Where no less-than sign stands there is no tag. -/
theorem isTagless_of_not_mem {t : Text} (h : '<' ∉ t) : IsTagless t := by
  rintro before after rfl
  exact absurd (List.mem_append_right before List.mem_cons_self) h

/-- Tags that are dropped leave none: a less-than sign is kept when nothing closes it. -/
theorem isTagless_dropTagsFrom (inTag : Bool) (t : Text) : IsTagless (dropTagsFrom inTag t) := by
  induction t generalizing inTag with
  | nil => exact isTagless_nil
  | cons c t ih =>
    cases inTag with
    | true => exact ih _
    | false =>
      rw [dropTagsFrom]
      split
      · exact ih true
      · rename_i hkept
        refine (isTagless_cons _ _).mpr ⟨fun hc hclosed => ?_, ih false⟩
        have hlater : '>' ∈ t := (stripped_dropTags t).sublist.subset hclosed
        exact hkept (by simp [hc, hlater])

namespace IsTagless

variable {t : Text}

/-- Without tags no tag is dropped. -/
theorem dropTags_eq (h : IsTagless t) : dropTags t = t := by
  induction t with
  | nil => rfl
  | cons c t ih =>
    obtain ⟨hfirst, hrest⟩ := (isTagless_cons c t).mp h
    have hkept : ¬ (c = '<' && t.contains '>') = true := by simpa using hfirst
    rw [dropTags, dropTagsFrom, if_neg hkept]
    exact congrArg (c :: ·) (ih hrest)

/-- Without tags no script or style sheet is dropped. -/
theorem dropHidden_eq (h : IsTagless t) : dropHidden t = t := by
  induction t with
  | nil => rfl
  | cons c t ih =>
    obtain ⟨hfirst, hrest⟩ := (isTagless_cons c t).mp h
    rw [dropHidden, dropHiddenFrom]
    cases hhidden : afterHidden? (c :: t) with
    | some rest =>
      obtain ⟨hc, hclosed⟩ := exists_of_afterHidden? hhidden
      exact absurd (hclosed.subset List.mem_cons_self) (hfirst hc)
    | none => exact congrArg (c :: ·) (ih hrest)

theorem plainText_eq (h : IsTagless t) : plainText t = trim t := by
  rw [plainText, h.dropHidden_eq, h.dropTags_eq]

end IsTagless

/-! ## Plain text -/

/-- The text that is left before its ends are trimmed. -/
theorem stripped_untrimmed (markup : Text) : Stripped (dropTags (dropHidden markup)) markup :=
  (stripped_dropTags _).trans (stripped_dropHidden markup)

theorem isTagless_plainText (markup : Text) : IsTagless (plainText markup) :=
  (isTagless_dropTagsFrom false _).part (infix_trim _)

/-- Plain text has no tag, is trimmed, and is what is left of the markup, in its order, when pieces
between a less-than sign and a greater-than sign are dropped. It is its own plain text, and markup
without a less-than sign is only trimmed. -/
theorem plainText_stripped (markup : Text) :
    IsTagless (plainText markup) ∧ IsTrimmed (plainText markup) ∧
      (plainText markup).Sublist markup ∧
      (∃ kept, Stripped kept markup ∧ plainText markup = trim kept) ∧
      plainText (plainText markup) = plainText markup ∧
      ('<' ∉ markup → plainText markup = trim markup) := by
  have htagless := isTagless_plainText markup
  have hstripped := stripped_untrimmed markup
  refine ⟨htagless, isTrimmed_trim _, ?_, ⟨_, hstripped, rfl⟩, ?_, fun hplain => ?_⟩
  · exact (infix_trim _).sublist.trans hstripped.sublist
  · rw [htagless.plainText_eq]
    exact trim_trim _
  · exact (isTagless_of_not_mem hplain).plainText_eq

/-- A script inside of a name, a bracket inside of a tag and one that is never closed. -/
example : plainText " <scr<script>a</script>ipt>b<i<b>c<<script>d</SCRIPT >e>f < g ".toList =
    "bcf < g".toList := by decide

end PageMarkdown.Html
