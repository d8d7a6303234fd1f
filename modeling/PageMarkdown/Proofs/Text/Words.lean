import PageMarkdown.Proofs.Text.Lines

/-!
# The words of a text

Blanks separate words and do nothing else, so every change to the blanks of a text
that takes none away between two other characters leaves its words alone. A flat
text is its words with single spaces between them, hence there is one flat text
for each list of words.
-/

namespace PageMarkdown.Text

/-- The words joined by single spaces. -/
def unwords (ws : List Text) : Text := [' '].intercalate ws

/-! ## Words from the left -/

theorem words_cons (c : Char) (t : Text) :
    words (c :: t) =
      if isBlank c then words t
      else match t, words t with
        | d :: _, first :: others =>
          if isBlank d then [c] :: first :: others else (c :: first) :: others
        | _, others => [c] :: others := rfl

theorem words_cons_blank {c : Char} (h : isBlank c = true) (t : Text) :
    words (c :: t) = words t := by
  rw [words_cons, if_pos h]

/-- Before a blank, and at the end, a character is a word of its own. -/
theorem words_cons_apart {c : Char} {t : Text} (h : isBlank c = false) (ht : ¬ StartsSolid t) :
    words (c :: t) = [c] :: words t := by
  rw [words_cons, h, if_neg Bool.false_ne_true]
  cases t with
  | nil => rfl
  | cons d t =>
    have hd : isBlank d = true := by
      by_contra hd
      exact ht (startsSolid_cons (Bool.of_not_eq_true hd) t)
    cases hwords : words (d :: t) with
    | nil => rfl
    | cons first others =>
      dsimp only
      rw [if_pos hd]

/-- Before another character that is no blank, a character joins the word. -/
theorem words_cons_onto {c : Char} {t : Text} (h : isBlank c = false) (ht : StartsSolid t) :
    ∃ first others, words t = first :: others ∧ words (c :: t) = (c :: first) :: others := by
  induction t generalizing c with
  | nil => exact absurd rfl ht.ne_nil
  | cons d t ih =>
    obtain ⟨e, he, hd⟩ := ht
    obtain rfl : d = e := Option.some.inj he
    obtain ⟨first, others, hwords⟩ : ∃ first others, words (d :: t) = first :: others := by
      by_cases hstart : StartsSolid t
      · obtain ⟨first, others, -, hwords⟩ := ih hd hstart
        exact ⟨_, _, hwords⟩
      · exact ⟨_, _, words_cons_apart hd hstart⟩
    refine ⟨first, others, hwords, ?_⟩
    rw [words_cons, h, if_neg Bool.false_ne_true, hwords]
    dsimp only
    rw [hd, if_neg Bool.false_ne_true]

/-! ## Texts with the same words -/

/-- Two texts have the same words, and before both of them or before neither a character would be a
word of its own. -/
structure SameWords (t u : Text) : Prop where
  /-- The words. -/
  words : words t = words u
  /-- Whether the first word stands at the start. -/
  starts : StartsSolid t ↔ StartsSolid u

theorem SameWords.refl (t : Text) : SameWords t t := ⟨rfl, Iff.rfl⟩

/-- A character in front of both texts makes no difference. -/
theorem SameWords.cons {t u : Text} (h : SameWords t u) (c : Char) :
    SameWords (c :: t) (c :: u) := by
  refine ⟨?_, by simp [StartsSolid]⟩
  cases hc : isBlank c with
  | true => rw [words_cons_blank hc, words_cons_blank hc, h.words]
  | false =>
    by_cases ht : StartsSolid t
    · obtain ⟨first, others, hwords, hcons⟩ := words_cons_onto hc ht
      obtain ⟨first', others', hwords', hcons'⟩ := words_cons_onto hc (h.starts.mp ht)
      obtain ⟨rfl, rfl⟩ := List.cons.inj (hwords.symm.trans (h.words.trans hwords'))
      rw [hcons, hcons']
    · rw [words_cons_apart hc ht, words_cons_apart hc (mt h.starts.mpr ht), h.words]

theorem not_startsSolid_cons {c : Char} (h : isBlank c = true) (t : Text) :
    ¬ StartsSolid (c :: t) := by
  rintro ⟨d, hd, hsolid⟩
  obtain rfl : c = d := Option.some.inj hd
  rw [h] at hsolid
  cases hsolid

/-- Which blank stands in front does not matter. -/
theorem SameWords.of_blank {c d : Char} {t u : Text} (hc : isBlank c = true)
    (hd : isBlank d = true) (h : Text.words t = Text.words u) : SameWords (c :: t) (d :: u) :=
  ⟨by rw [words_cons_blank hc, words_cons_blank hd, h],
    iff_of_false (not_startsSolid_cons hc t) (not_startsSolid_cons hd u)⟩

/-! ## Changes to blanks -/

theorem words_squeezeFrom (t : Text) :
    words (squeezeFrom true t) = words t ∧ SameWords (squeezeFrom false t) t := by
  induction t with
  | nil => exact ⟨rfl, .refl []⟩
  | cons c t ih =>
    obtain ⟨htrue, hfalse⟩ := ih
    rw [squeezeFrom, squeezeFrom]
    cases hc : isBlank c with
    | true => exact ⟨htrue.trans (words_cons_blank hc t).symm, .of_blank (by decide) hc htrue⟩
    | false => exact ⟨(hfalse.cons c).words, hfalse.cons c⟩

theorem words_squeeze (t : Text) : words (squeeze t) = words t := (words_squeezeFrom t).2.words

theorem words_append_left {before : Text} (h : ∀ c ∈ before, isBlank c = true) (t : Text) :
    words (before ++ t) = words t := by
  induction before with
  | nil => rfl
  | cons c before ih =>
    obtain ⟨hc, hbefore⟩ := List.forall_mem_cons.mp h
    rw [List.cons_append, words_cons_blank hc, ih hbefore]

theorem sameWords_append_right {after : Text} (h : ∀ c ∈ after, isBlank c = true) (t : Text) :
    SameWords (t ++ after) t := by
  induction t with
  | nil =>
    refine ⟨by simpa using words_append_left h [], iff_of_false ?_ fun hnil => hnil.ne_nil rfl⟩
    rintro ⟨c, hc, hsolid⟩
    rw [h c (List.mem_of_head? hc)] at hsolid
    cases hsolid
  | cons c t ih => exact ih.cons c

theorem words_trim (t : Text) : words (trim t) = words t := by
  obtain ⟨before, after, ht, hbefore, hafter⟩ := exists_append_trim t
  calc words (trim t) = words (before ++ trim t) := (words_append_left hbefore _).symm
    _ = words (before ++ trim t ++ after) := (sameWords_append_right hafter _).words.symm
    _ = words t := by rw [← ht]

theorem words_flatten (t : Text) : words (flatten t) = words t := by
  rw [flatten, words_squeeze, words_trim]

theorem sameWords_unifyBreaks (t : Text) : SameWords (unifyBreaks t) t := by
  fun_induction unifyBreaks t with
  | case1 => exact .refl []
  | case2 t ih =>
    refine .of_blank (by decide) (by decide) ?_
    rw [ih.words, words_cons_blank (by decide)]
  | case3 c t _ ih =>
    by_cases hc : c = '\r'
    · subst hc
      exact .of_blank (by decide) (by decide) ih.words
    · rw [if_neg hc]
      exact ih.cons c

/-! ## Flat texts -/

theorem unwords_cons_cons (w next : Text) (ws : List Text) :
    unwords (w :: next :: ws) = w ++ ' ' :: unwords (next :: ws) := by
  simp [unwords, List.intercalate, List.intersperse]

/-- A longer first word lengthens the join. -/
theorem unwords_onto (c : Char) (w : Text) (ws : List Text) :
    unwords ((c :: w) :: ws) = c :: unwords (w :: ws) := by
  cases ws with
  | nil => simp [unwords]
  | cons next ws => rw [unwords_cons_cons, unwords_cons_cons, List.cons_append]

/-- A text that does not end in a blank and has no blanks but single spaces is its words with single
spaces between them, behind another space if it begins with one. -/
theorem IsSqueezed.eq_unwords {t : Text} (h : IsSqueezed t)
    (hlast : ∀ c, t.getLast? = some c → isBlank c = false) :
    (StartsSolid t → unwords (words t) = t) ∧
      (t ≠ [] → ¬ StartsSolid t → ' ' :: unwords (words t) = t ∧ words t ≠ []) := by
  induction t with
  | nil => exact ⟨fun hnil => absurd rfl hnil.ne_nil, fun hne => absurd rfl hne⟩
  | cons c t ih =>
    obtain ⟨hsingle, hrest⟩ := List.isChain_cons.mp h.single
    have ht : IsSqueezed t := ⟨fun d hd => h.spaces d (List.mem_cons_of_mem _ hd), hrest⟩
    cases t with
    | nil =>
      have hc : isBlank c = false := hlast c rfl
      have hstart : StartsSolid [c] := startsSolid_cons hc []
      refine ⟨fun _ => ?_, fun _ hno => absurd hstart hno⟩
      rw [words_cons_apart hc fun hnil => hnil.ne_nil rfl]
      rfl
    | cons d t =>
      obtain ⟨hsolid, hspace⟩ := ih ht fun e he => hlast e (by rwa [List.getLast?_cons_cons])
      cases hc : isBlank c with
      | true =>
        have hd : StartsSolid (d :: t) := startsSolid_cons (hsingle d rfl hc) t
        refine ⟨fun hstart => absurd hstart (not_startsSolid_cons hc _), fun _ _ => ?_⟩
        rw [words_cons_blank hc, hsolid hd, h.spaces c List.mem_cons_self hc]
        obtain ⟨first, others, hwords⟩ : ∃ first others, words (d :: t) = first :: others := by
          cases hwords : words (d :: t) with
          | nil =>
            rw [hwords] at hsolid
            cases hsolid hd
          | cons first others => exact ⟨first, others, rfl⟩
        exact ⟨rfl, hwords ▸ List.cons_ne_nil _ _⟩
      | false =>
        refine ⟨fun _ => ?_, fun _ hno => absurd (startsSolid_cons hc _) hno⟩
        by_cases hd : StartsSolid (d :: t)
        · obtain ⟨first, others, hwords, hcons⟩ := words_cons_onto hc hd
          rw [hcons, unwords_onto, ← hwords, hsolid hd]
        · obtain ⟨hjoin, hne⟩ := hspace (List.cons_ne_nil d t) hd
          rw [words_cons_apart hc hd]
          cases hwords : words (d :: t) with
          | nil => exact absurd hwords hne
          | cons first others => rw [unwords_cons_cons, ← hwords, hjoin, List.singleton_append]

/-- A flat text is its words with single spaces between them. -/
theorem IsFlat.unwords_words {t : Text} (h : IsFlat t) : unwords (words t) = t := by
  cases t with
  | nil => rfl
  | cons c t =>
    exact (h.squeezed.eq_unwords h.trimmed.last).1 (startsSolid_cons (h.trimmed.head c rfl) t)

/-- Flattening leaves the words of a text with single spaces between them. -/
theorem flatten_eq_unwords (t : Text) : flatten t = unwords (words t) := by
  rw [← words_flatten, (isFlat_flatten t).unwords_words]

end PageMarkdown.Text
