import Mathlib.Data.List.Infix
import PageMarkdown.Markdown.Image
import PageMarkdown.Proofs.Text.Blank
import PageMarkdown.Proofs.Text.Replace

/-!
# Reading the title of an image back

The title of an image stands between quotes, and the quotes in it are written
behind a backslash. A reader of Markdown takes a backslash in front of punctuation
away and ends the title at the first quote that has none. It finds the title that
was written exactly when each backslash of it stands in front of a character that
is no punctuation. Any other one is lost, or ends the title too early, or hides
its end.
-/

namespace PageMarkdown.Markdown

open Text

/-! ## Reading a title -/

/-- A punctuation character of ASCII. -/
def isPunctuation (c : Char) : Bool :=
  let n := c.toNat
  (0x21 ≤ n && n ≤ 0x2F) || (0x3A ≤ n && n ≤ 0x40) || (0x5B ≤ n && n ≤ 0x60) ||
    (0x7B ≤ n && n ≤ 0x7E)

/-- Read a quoted title, with a backslash in front of the text if `escaped`: the title, and the text
behind the quote that ends it. -/
def titleFrom : (escaped : Bool) → Text → Option (Text × Text)
  | _, [] => none
  | true, c :: t =>
    (titleFrom false t).map fun found =>
      (if isPunctuation c then c :: found.1 else '\\' :: c :: found.1, found.2)
  | false, c :: t =>
    if c = '"' then some ([], t)
    else if c = '\\' then titleFrom true t
    else (titleFrom false t).map fun found => (c :: found.1, found.2)

/-- The title at the start of a text that follows an opening quote, and the text behind it. -/
def title? (t : Text) : Option (Text × Text) := titleFrom false t

/-- The title as it stands between its quotes. -/
def escapeQuotes (t : Text) : Text := replace '"' ['\\', '"'] t

@[simp] theorem escapeQuotes_nil : escapeQuotes [] = [] := rfl

@[simp] theorem escapeQuotes_quote (t : Text) :
    escapeQuotes ('"' :: t) = '\\' :: '"' :: escapeQuotes t := rfl

theorem escapeQuotes_cons {c : Char} (h : c ≠ '"') (t : Text) :
    escapeQuotes (c :: t) = c :: escapeQuotes t :=
  replace_cons_of_ne h ..

theorem escapeQuotes_append (t u : Text) :
    escapeQuotes (t ++ u) = escapeQuotes t ++ escapeQuotes u :=
  replace_append ..

theorem length_escapeQuotes (t : Text) :
    (escapeQuotes t).length = t.length + t.count '"' := by
  induction t with
  | nil => rfl
  | cons c t ih =>
    by_cases hc : c = '"'
    · subst hc
      simp only [escapeQuotes_quote, List.length_cons, List.count_cons_self, ih]
      omega
    · simp only [escapeQuotes_cons hc, List.length_cons, List.count_cons_of_ne hc, ih]
      omega

/-- Punctuation behind a backslash is taken for itself. -/
theorem title?_escaped {c : Char} (h : isPunctuation c = true) (t : Text) :
    title? ('\\' :: c :: t) = (title? t).map fun found => (c :: found.1, found.2) := by
  simp only [title?, titleFrom, h, if_true, show ('\\' : Char) ≠ '"' by decide, if_false]

/-- A character that is neither quote nor backslash is taken for itself. -/
theorem title?_cons {c : Char} (hquote : c ≠ '"') (hbackslash : c ≠ '\\') (t : Text) :
    title? (c :: t) = (title? t).map fun found => (c :: found.1, found.2) := by
  rw [title?, titleFrom, if_neg hquote, if_neg hbackslash]
  rfl

theorem ne_of_not_isPunctuation {c : Char} (h : isPunctuation c = false) : c ≠ '"' ∧ c ≠ '\\' := by
  constructor <;> (rintro rfl; exact absurd h (by decide))

/-- A backslash in front of anything but punctuation is taken for itself. -/
theorem title?_backslash {c : Char} (h : isPunctuation c = false) (t : Text) :
    title? ('\\' :: c :: t) = (title? (c :: t)).map fun found => ('\\' :: found.1, found.2) := by
  obtain ⟨hquote, hbackslash⟩ := ne_of_not_isPunctuation h
  rw [title?_cons hquote hbackslash]
  simp only [title?, titleFrom, h, if_false, Bool.false_eq_true, Option.map_map,
    show ('\\' : Char) ≠ '"' by decide, if_true, Function.comp_def]

/-- A reader has seen every character of the title, a backslash in front of each of its quotes, and
the quote that ends it. -/
theorem length_of_titleFrom {escaped : Bool} {t title behind : Text}
    (h : titleFrom escaped t = some (title, behind)) :
    title.length + title.count '"' + 1 + behind.length ≤ t.length + escaped.toNat := by
  fun_induction titleFrom escaped t generalizing title behind with
  | case1 => cases h
  | case2 c t ih =>
    obtain ⟨⟨rest, after⟩, hrest, heq⟩ := Option.map_eq_some_iff.mp h
    obtain ⟨rfl, rfl⟩ := Prod.mk.inj heq
    have hle := ih hrest
    split
    · simp only [List.count_cons, List.length_cons, Bool.toNat_true, Bool.toNat_false] at *
      split <;> omega
    · rename_i hc
      have hquote := (ne_of_not_isPunctuation (Bool.of_not_eq_true hc)).1
      simp only [List.count_cons_of_ne hquote, List.count_cons_of_ne (show '\\' ≠ '"' by decide),
        List.length_cons, Bool.toNat_true, Bool.toNat_false] at *
      omega
  | case3 t =>
    obtain ⟨rfl, rfl⟩ := Prod.mk.inj (Option.some.inj h)
    simp only [List.length_nil, List.count_nil, List.length_cons]
    omega
  | case4 t _ ih =>
    have hle := ih h
    simp only [List.length_cons, Bool.toNat_true, Bool.toNat_false] at *
    omega
  | case5 c t hquote _ ih =>
    obtain ⟨⟨rest, after⟩, hrest, heq⟩ := Option.map_eq_some_iff.mp h
    obtain ⟨rfl, rfl⟩ := Prod.mk.inj heq
    have hle := ih hrest
    simp only [List.count_cons_of_ne hquote, List.length_cons, Bool.toNat_false] at *
    omega

/-! ## Backslashes that stay -/

/-- Each backslash of the text stands in front of a character that is no punctuation. -/
def KeepsBackslashes (t : Text) : Prop :=
  ∀ front rest, t = front ++ '\\' :: rest → ∃ c, rest.head? = some c ∧ isPunctuation c = false

theorem keepsBackslashes_nil : KeepsBackslashes [] := by
  intro front rest h
  cases front <;> cases h

theorem keepsBackslashes_cons (c : Char) (t : Text) :
    KeepsBackslashes (c :: t) ↔
      (c = '\\' → ∃ d, t.head? = some d ∧ isPunctuation d = false) ∧ KeepsBackslashes t := by
  constructor
  · refine fun h => ⟨?_, fun front rest ht => h (c :: front) rest (by rw [ht]; rfl)⟩
    rintro rfl
    exact h [] t rfl
  · rintro ⟨hc, ht⟩ front rest heq
    cases front with
    | nil =>
      obtain ⟨rfl, rfl⟩ := List.cons.inj heq
      exact hc rfl
    | cons d front => exact ht front rest (List.cons.inj heq).2

/-- In front of the first backslash that does not stay, all of them do. -/
theorem exists_first_of_not_keepsBackslashes {t : Text} (h : ¬ KeepsBackslashes t) :
    ∃ front rest, t = front ++ '\\' :: rest ∧ KeepsBackslashes front ∧
      ∀ c, rest.head? = some c → isPunctuation c = true := by
  induction t with
  | nil => exact absurd keepsBackslashes_nil h
  | cons c t ih =>
    by_cases hc : c = '\\' ∧ ∀ d, t.head? = some d → isPunctuation d = true
    · exact ⟨[], t, by rw [hc.1]; rfl, keepsBackslashes_nil, hc.2⟩
    · have hstays : c = '\\' → ∃ d, t.head? = some d ∧ isPunctuation d = false := by
        intro hbackslash
        simpa using mt (And.intro hbackslash) hc
      obtain ⟨front, rest, rfl, hfront, hrest⟩ :=
        ih fun ht => h ((keepsBackslashes_cons c t).mpr ⟨hstays, ht⟩)
      refine ⟨c :: front, rest, rfl, (keepsBackslashes_cons c front).mpr ⟨fun hb => ?_, hfront⟩,
        hrest⟩
      obtain ⟨d, hd, hplain⟩ := hstays hb
      cases front with
      | nil =>
        obtain rfl : '\\' = d := Option.some.inj hd
        exact absurd hplain (by decide)
      | cons e front => exact ⟨d, hd, hplain⟩

/-- A text whose backslashes stay is read as itself. -/
theorem KeepsBackslashes.title?_append {t : Text} (h : KeepsBackslashes t) (u : Text) :
    title? (escapeQuotes t ++ u) = (title? u).map fun found => (t ++ found.1, found.2) := by
  induction t with
  | nil => simp
  | cons c t ih =>
    obtain ⟨hc, ht⟩ := (keepsBackslashes_cons c t).mp h
    have hread := ih ht
    by_cases hquote : c = '"'
    · subst hquote
      rw [escapeQuotes_quote, List.cons_append, List.cons_append, title?_escaped (by decide), hread,
        Option.map_map]
      rfl
    · rw [escapeQuotes_cons hquote, List.cons_append]
      by_cases hbackslash : c = '\\'
      · subst hbackslash
        obtain ⟨d, hd, hplain⟩ := hc rfl
        obtain ⟨t, rfl⟩ := List.head?_eq_some_iff.mp hd
        rw [escapeQuotes_cons (ne_of_not_isPunctuation hplain).1] at hread ⊢
        rw [List.cons_append, title?_backslash hplain, ← List.cons_append, hread, Option.map_map]
        rfl
      · rw [title?_cons hquote hbackslash, hread, Option.map_map]
        rfl

theorem title?_quote (t : Text) : title? ('"' :: t) = some ([], t) := rfl

/-- A title is read back exactly when its backslashes stay. -/
theorem title?_escapeQuotes_iff (t behind : Text) :
    title? (escapeQuotes t ++ '"' :: behind) = some (t, behind) ↔ KeepsBackslashes t := by
  constructor
  · intro hread
    by_contra hslips
    obtain ⟨front, rest, rfl, hfront, hrest⟩ := exists_first_of_not_keepsBackslashes hslips
    rw [escapeQuotes_append, List.append_assoc, hfront.title?_append] at hread
    obtain ⟨⟨found, after⟩, hfound, heq⟩ := Option.map_eq_some_iff.mp hread
    obtain ⟨hfoundEq, rfl⟩ := Prod.mk.inj heq
    obtain rfl := List.append_cancel_left hfoundEq
    -- What is read begins with the character behind the backslash, so that is a backslash too, and
    -- the rest of the text is too short for both of them.
    rw [escapeQuotes_cons (by decide), List.cons_append] at hfound
    cases rest with
    | nil =>
      rw [escapeQuotes_nil, List.nil_append, title?_escaped (by decide)] at hfound
      obtain ⟨_, _, heq⟩ := Option.map_eq_some_iff.mp hfound
      exact absurd (List.cons.inj (Prod.mk.inj heq).1).1 (by decide)
    | cons c rest =>
      have hpunctuation := hrest c rfl
      by_cases hquote : c = '"'
      · subst hquote
        rw [escapeQuotes_quote, List.cons_append, List.cons_append,
          title?_escaped (by decide), title?_quote] at hfound
        cases hfound
      · rw [escapeQuotes_cons hquote, List.cons_append, title?_escaped hpunctuation] at hfound
        obtain ⟨⟨tail, after⟩, htail, heq⟩ := Option.map_eq_some_iff.mp hfound
        obtain ⟨hcons, rfl⟩ := Prod.mk.inj heq
        obtain ⟨rfl, rfl⟩ := List.cons.inj hcons
        have hle := length_of_titleFrom htail
        simp only [List.length_cons, List.length_append, length_escapeQuotes, Bool.toNat_false,
          List.count_cons_of_ne (show '\\' ≠ '"' by decide)] at hle
        omega
  · intro h
    rw [h.title?_append, title?_quote, Option.map_some, List.append_nil]

/-! ## Images -/

/-- An image with a title that is not blank is written with the title at its end, between quotes.
The title is read back, with the closing parenthesis alone behind it, exactly when its backslashes
stay. In front of a quote, a backslash ends the title; at the end of the title, it hides the quote
that ends it, and no title is read. -/
theorem imageMarkdown_title_iff (url alt : Text) {title : Text} (h : flatten title ≠ []) :
    ∃ written, imageMarkdown url alt title =
        '!' :: '[' :: firstFilled (flatten alt) (flatten title) ++ ']' :: '(' ::
          Url.sanitize url ++ ' ' :: '"' :: written ∧
      (title? written = some (flatten title, [')']) ↔ KeepsBackslashes (flatten title)) ∧
      (∀ front rest, flatten title = front ++ '\\' :: '"' :: rest → KeepsBackslashes front →
        title? written = some (front ++ ['\\'], escapeQuotes rest ++ ['"', ')'])) ∧
      ∀ front, flatten title = front ++ ['\\'] → KeepsBackslashes front →
        title? written = none := by
  refine ⟨escapeQuotes (flatten title) ++ ['"', ')'], ?_, title?_escapeQuotes_iff _ _, ?_, ?_⟩
  · have hempty : (flatten title).isEmpty = false := by simpa using h
    simp [imageMarkdown, firstFilled, hempty, escapeQuotes]
  · intro front rest heq hfront
    rw [heq, escapeQuotes_append, List.append_assoc, hfront.title?_append,
      escapeQuotes_cons (by decide), escapeQuotes_quote, List.cons_append, List.cons_append,
      List.cons_append, title?_escaped (by decide), title?_quote]
    rfl
  · intro front heq hfront
    rw [heq, escapeQuotes_append, List.append_assoc, hfront.title?_append]
    rfl

/-- Quotes and a backslash between letters come back. -/
theorem imageMarkdown_title_iff_quotes :
    flatten " say \"hi\" in\n C:\\dir ".toList ≠ [] ∧
      KeepsBackslashes "say \"hi\" in C:\\dir".toList ∧
      imageMarkdown "u.png".toList "A".toList " say \"hi\" in\n C:\\dir ".toList =
        "![A](u.png \"say \\\"hi\\\" in C:\\dir\")".toList ∧
      title? "say \\\"hi\\\" in C:\\dir\")".toList =
        some ("say \"hi\" in C:\\dir".toList, [')']) := by
  have hflat : flatten " say \"hi\" in\n C:\\dir ".toList = "say \"hi\" in C:\\dir".toList := by
    decide
  have hfilled : flatten " say \"hi\" in\n C:\\dir ".toList ≠ [] := by
    rw [hflat]
    decide
  obtain ⟨written, hwritten, hread, -⟩ := imageMarkdown_title_iff "u.png".toList "A".toList hfilled
  have hmarkdown : imageMarkdown "u.png".toList "A".toList " say \"hi\" in\n C:\\dir ".toList =
      "![A](u.png \"say \\\"hi\\\" in C:\\dir\")".toList := by decide
  have hfront : "![A](u.png \"".toList ++ "say \\\"hi\\\" in C:\\dir\")".toList =
      "![A](u.png \"".toList ++ written := hmarkdown.symm.trans hwritten
  obtain rfl := List.append_cancel_left hfront
  have htitle : title? "say \\\"hi\\\" in C:\\dir\")".toList =
      some ("say \"hi\" in C:\\dir".toList, [')']) := by decide
  rw [hflat] at hread
  exact ⟨hfilled, hread.mp htitle, hmarkdown, htitle⟩

/-- A backslash at the end of a title escapes the quote that ends it. -/
theorem imageMarkdown_title_unended :
    imageMarkdown "u.png".toList "A".toList "a\\".toList = "![A](u.png \"a\\\")".toList ∧
      flatten "a\\".toList = "a\\".toList ∧ title? "a\\\")".toList = none := by
  decide

end PageMarkdown.Markdown
