import PageMarkdown.Proofs.Html.Closing
import PageMarkdown.Proofs.Html.Markup
import PageMarkdown.Proofs.Html.TagName

/-!
# Reading constructs one after another

A text that is made of whole constructs is read to its end by the first pass, and
no construct is taken for data. What each construct is read as is shown for the
constructs that written markup is made of: references, tags, comments, sections,
declarations and instructions.
-/

namespace PageMarkdown.Html.Token

open Text

variable {stray : Nat → Char}

/-! ## Constructs in a row -/

/-- Outside of raw text the reader takes the text to its end, construct by construct, into tokens
that satisfy a property. -/
inductive ReadsAs (p : Token → Prop) : Text → Prop where
  /-- The end of the text. -/
  | done : ReadsAs p []
  /-- A character of data. -/
  | plain {c : Char} {t : Text} (hc : c ≠ '<' ∧ c ≠ '&') (ht : ReadsAs p t) : ReadsAs p (c :: t)
  /-- A construct. -/
  | construct {c : Char} {front rest : Text} {tokens : List Token} (hc : c = '<' ∨ c = '&')
      (hmove : ∀ stray final, move stray final none (c :: (front ++ rest)) =
        .ok (.advance tokens rest none))
      (htokens : ∀ token ∈ tokens, p token) (hrest : ReadsAs p rest) :
      ReadsAs p (c :: (front ++ rest))

variable {p : Token → Prop}

/-- Behind data, what is left is read as well. -/
theorem ReadsAs.dropData {t : Text} (h : ReadsAs p t) :
    ReadsAs p (t.dropWhile fun c => c != '<' && c != '&') := by
  induction h with
  | done => exact .done
  | plain hc _ ih =>
    rw [List.dropWhile_cons_of_pos (by simpa using hc)]
    exact ih
  | construct hc hmove htokens hrest _ =>
    rw [List.dropWhile_cons_of_neg (by rcases hc with rfl | rfl <;> decide)]
    exact .construct hc hmove htokens hrest

/-- Data is read up to the next construct. -/
theorem move_data {c : Char} (hc : c ≠ '<' ∧ c ≠ '&') (t : Text) (final : Bool) :
    ∃ chunk, move stray final none (c :: t) =
      .ok (.advance [.data chunk] (t.dropWhile fun c => c != '<' && c != '&') none) := by
  refine ⟨c :: t.takeWhile fun c => c != '<' && c != '&', ?_⟩
  have hrun : ∀ d ∈ c :: t.takeWhile (fun c => c != '<' && c != '&'), d ≠ '<' ∧ d ≠ '&' := by
    refine List.forall_mem_cons.mpr ⟨hc, fun d hd => ?_⟩
    simpa using List.mem_takeWhile_imp hd
  have hrest : ∀ d, (t.dropWhile fun c => c != '<' && c != '&').head? = some d →
      d = '<' ∨ d = '&' := by
    intro d hd
    have hnot := List.head?_dropWhile_not (fun c => c != '<' && c != '&') t
    rw [hd] at hnot
    simpa [or_iff_not_imp_left] using hnot
  have hmove := move_run stray (List.cons_ne_nil _ _) hrun hrest final
  rwa [List.cons_append, List.takeWhile_append_dropWhile] at hmove

/-- One move takes the reader over tokens with the property, to a text that is read as well. -/
theorem ReadsAs.move (hdata : ∀ chunk, p (.data chunk)) {t : Text} (h : ReadsAs p t)
    (hne : t ≠ []) (final : Bool) :
    ∃ tokens rest, Token.move stray final none t = .ok (.advance tokens rest none) ∧
      (∀ token ∈ tokens, p token) ∧ ReadsAs p rest ∧ rest.length < t.length := by
  cases h with
  | done => exact absurd rfl hne
  | @plain c t hc ht =>
    obtain ⟨chunk, hmove⟩ := move_data hc t final
    have hlength := (List.dropWhile_suffix (l := t) fun c => c != '<' && c != '&').length_le
    exact ⟨_, _, hmove, by simpa using hdata chunk, ht.dropData, Nat.lt_succ_of_le hlength⟩
  | @construct c front rest tokens hc hmove htokens hrest =>
    refine ⟨tokens, rest, hmove stray final, htokens, hrest, ?_⟩
    rw [List.length_cons, List.length_append]
    omega

/-- A pass reads such a text to its end. -/
theorem ReadsAs.pass (hdata : ∀ chunk, p (.data chunk)) (final : Bool) {fuel : Nat} {t : Text}
    (h : ReadsAs p t) (hfuel : t.length < fuel) :
    ∃ tokens, Token.pass stray final fuel none t = .ok ⟨tokens, [], none⟩ ∧
      ∀ token ∈ tokens, p token := by
  induction fuel generalizing t with
  | zero => exact absurd hfuel (Nat.not_lt_zero _)
  | succ fuel ih =>
    by_cases hne : t = []
    · rw [hne]
      exact ⟨[], rfl, by simp⟩
    · obtain ⟨tokens, rest, hmove, htokens, hrest, hshorter⟩ := h.move hdata hne final
      obtain ⟨others, hpass, hothers⟩ := ih hrest (by omega)
      refine ⟨tokens ++ others, ?_, List.forall_mem_append.mpr ⟨htokens, hothers⟩⟩
      rw [Token.pass, hmove]
      simp only [hpass, Except.map]

/-- Such a text has tokens. -/
theorem ReadsAs.scan (hdata : ∀ chunk, p (.data chunk)) {t : Text} (h : ReadsAs p t) :
    ∃ tokens, scan stray t = .ok tokens ∧ ∀ token ∈ tokens, p token := by
  obtain ⟨tokens, hpass, htokens⟩ := h.pass hdata false (Nat.lt_succ_self _)
  refine ⟨tokens, ?_, htokens⟩
  rw [Token.scan, hpass]
  simp [Token.pass, Token.move, dataBefore]

/-! ## References -/

/-- Escaped text is read, and what is behind it. -/
theorem ReadsAs.escape (hdata : ∀ chunk, p (.data chunk)) (t : Text) {rest : Text}
    (hrest : ReadsAs p rest) : ReadsAs p (escape t ++ rest) := by
  induction t with
  | nil => exact hrest
  | cons c t ih =>
    cases hc : isReserved c with
    | true =>
      obtain ⟨name, hspells, he⟩ := escape_reserved hc
      have hcut : Html.escape (c :: t) ++ rest =
          '&' :: ((name ++ [';']) ++ (Html.escape t ++ rest)) := by simp [he]
      rw [hcut]
      have hmove : ∀ stray final, Token.move stray final none
          ('&' :: ((name ++ [';']) ++ (Html.escape t ++ rest))) =
            .ok (.advance [.data [c]] (Html.escape t ++ rest) none) := by
        intro stray final
        simpa using move_spelled hspells final (Html.escape t ++ rest)
      exact .construct (.inr rfl) hmove (by simp [hdata]) ih
    | false =>
      rw [escape_cons_plain hc]
      refine .plain ⟨?_, ?_⟩ ih <;> rintro rfl <;> exact absurd hc (by decide)

/-! ## Markup -/

/-- A construct at a less-than sign is read, and what is behind it. -/
theorem ReadsAs.markup {front rest : Text} {tokens : List Token} (hne : front ≠ [])
    (h : readMarkup none (front ++ rest) = .ok (.complete tokens rest none))
    (htokens : ∀ token ∈ tokens, p token) (hrest : ReadsAs p rest) :
    ReadsAs p ('<' :: (front ++ rest)) := by
  refine .construct (.inl rfl) (fun stray final => ?_) htokens hrest
  obtain ⟨c, t, ht⟩ := List.exists_cons_of_ne_nil (List.append_ne_nil_of_left_ne_nil hne rest)
  rw [ht] at h ⊢
  show (readMarkup none (c :: t)).map _ = _
  rw [h]
  rfl

/-- A comment is read as it is written. -/
theorem readMarkup_comment {t : Text} (h : seek commentEnd? t = none) (rest : Text) :
    readMarkup none ("!--".toList ++ t ++ "-->".toList ++ rest) =
      .ok (.complete [.comment t] rest none) := by
  show Except.ok (upTo (seek commentEnd? (t ++ "-->".toList ++ rest)) .comment) = _
  rw [seek_comment h]
  rfl

/-- A section of character data is read as it is written. -/
theorem readMarkup_cdata {t : Text} (h : seek sectionEnd? t = none) (rest : Text) :
    readMarkup none ("![CDATA[".toList ++ t ++ "]]>".toList ++ rest) =
      .ok (.complete [.marked ("CDATA[".toList ++ t)] rest none) := by
  have hnone : seek sectionEnd? ("CDATA[".toList ++ t) = none := by
    simpa [seek, sectionEnd?, spaced?_cons_cons] using h
  show Except.ok
    (upTo (seek sectionEnd? ("CDATA[".toList ++ t ++ "]]>".toList ++ rest)) .marked) = _
  rw [seek_section hnone]
  rfl

/-- A document type is read as it is written. -/
theorem readMarkup_doctype {t : Text} (h : '>' ∉ t) (rest : Text) :
    readMarkup none ("!DOCTYPE ".toList ++ t ++ ['>'] ++ rest) =
      .ok (.complete [.doctype t] rest none) := by
  have hinside : '>' ∉ "DOCTYPE ".toList ++ t := by simpa using h
  show Except.ok (upTo (through '>' ("DOCTYPE ".toList ++ t ++ ['>'] ++ rest))
    fun inside => .doctype (inside.drop 8)) = _
  rw [List.append_assoc, List.singleton_append, through_append hinside]
  rfl

/-- A processing instruction is read as it is written. -/
theorem readMarkup_instruction {t : Text} (h : '>' ∉ t) (rest : Text) :
    readMarkup none ('?' :: t ++ ['>'] ++ rest) = .ok (.complete [.instruction t] rest none) := by
  show Except.ok (upTo (through '>' (t ++ ['>'] ++ rest)) .instruction) = _
  rw [List.append_assoc, List.singleton_append, through_append h]
  rfl

end PageMarkdown.Html.Token
