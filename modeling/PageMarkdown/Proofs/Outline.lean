import PageMarkdown.Markdown.Walk
import PageMarkdown.Proofs.Text.Lines

/-!
# The lines of a list

An item is written line by line: its first filled line behind the marker, and
every further filled line as a continuation. Line feeds that are dropped before
take no filled line away. Every line of a list therefore ends solidly, and an
outermost list begins with a marker.
-/

namespace PageMarkdown.Markdown

open Text Html

/-! ## Items -/

/-- Dropping line feeds that stand side by side keeps the filled lines. -/
theorem filledLines_append_dropEmptyLines (t u : Text) :
    filledLines (t ++ dropEmptyLines u) = filledLines (t ++ u) := by
  induction u generalizing t with
  | nil => rfl
  | cons c u ih =>
    rw [dropEmptyLines]
    split
    · rename_i h
      obtain ⟨hc, hu⟩ : c = '\n' ∧ u.head? = some '\n' := by simpa using h
      obtain ⟨v, rfl⟩ := List.head?_eq_some_iff.mp hu
      rw [ih, hc, filledLines_append_feed, filledLines_append_feed, filledLines_cons_feed]
    · have hshift := ih (t ++ [c])
      rwa [List.append_assoc, List.append_assoc, List.singleton_append,
        List.singleton_append] at hshift

theorem filledLines_dropEmptyLines (t : Text) : filledLines (dropEmptyLines t) = filledLines t :=
  filledLines_append_dropEmptyLines [] t

theorem startsSolid_dropEmptyLines {t : Text} (h : StartsSolid t) :
    StartsSolid (dropEmptyLines t) := by
  obtain ⟨c, hc, hb⟩ := h
  cases t with
  | nil => cases hc
  | cons d t =>
    obtain rfl : d = c := Option.some.inj hc
    have hd : d ≠ '\n' := by
      rintro rfl
      cases hb
    rw [dropEmptyLines, if_neg (by simp [hd])]
    exact startsSolid_cons hb _

/-- The line of an item that has its marker. -/
def markedLine (ordered : Bool) (depth number : Nat) (first : Text) : Text :=
  indentation depth ++ marker ordered number ++ ' ' :: trim first

/-- An item is written by its filled lines: the first one is marked, and the others continue it. -/
theorem itemLines_eq {item : Text} (h : StartsSolid item) :
    ∃ first rest, filledLines item = first :: rest ∧ StartsSolid first ∧
      ∀ ordered depth number, itemLines ordered depth number item =
        markedLine ordered depth number first :: rest.map (continuationLine (2 * depth + 2)) := by
  obtain ⟨first, rest, hlines, hfirst⟩ := (startsSolid_dropEmptyLines h).lines_eq
  refine ⟨first, rest.filter fun line => !isAllBlank line, ?_, hfirst, ?_⟩
  · rw [← filledLines_dropEmptyLines, filledLines, hlines, List.filter_cons,
      hfirst.isAllBlank_eq_false]
    rfl
  · intro ordered depth number
    rw [itemLines, hlines]
    simp only [indentation, List.length_replicate]
    rfl

/-! ## Lines that read as items -/

/-- The number of spaces in front of a line. -/
def leadingSpaces (line : Text) : Nat := (line.takeWhile (· = ' ')).length

/-- A line is its leading spaces and what is behind them. -/
theorem replicate_leadingSpaces_append (line : Text) :
    List.replicate (leadingSpaces line) ' ' ++ line.dropWhile (· = ' ') = line := by
  have hspaces : line.takeWhile (· = ' ') = List.replicate (leadingSpaces line) ' ' :=
    List.eq_replicate_iff.mpr ⟨rfl, fun c hc => by simpa using List.mem_takeWhile_imp hc⟩
  rw [← hspaces, List.takeWhile_append_dropWhile]

/-- Spaces in front of something else are passed over. -/
theorem dropWhile_replicate_append (n : Nat) {c : Char} (hc : c ≠ ' ') (t : Text) :
    (List.replicate n ' ' ++ c :: t).dropWhile (· = ' ') = c :: t := by
  rw [List.dropWhile_append_of_pos (by simp), List.dropWhile_cons_of_neg (by simpa using hc)]

/-- Spaces in front of a solid start are counted. -/
theorem leadingSpaces_replicate_append (n : Nat) {t : Text} (h : StartsSolid t) :
    leadingSpaces (List.replicate n ' ' ++ t) = n := by
  obtain ⟨c, hc, hb⟩ := h
  obtain ⟨rest, rfl⟩ := List.head?_eq_some_iff.mp hc
  have hspace : c ≠ ' ' := by
    rintro rfl
    cases hb
  rw [leadingSpaces, List.takeWhile_append_of_pos (by simp)]
  simp [hspace]

/-- The line reads as an item: spaces, a dash or a number with a point, and a space. -/
def ReadsAsItem (line : Text) : Prop :=
  ∃ spaces bullet rest, line = List.replicate spaces ' ' ++ (bullet ++ ' ' :: rest) ∧
    (bullet = ['-'] ∨ ∃ digits, digits ≠ [] ∧ (∀ c ∈ digits, DecimalDigit.isDigit c = true) ∧
      bullet = digits ++ ['.'])

theorem isItemLine_iff (line : Text) : isItemLine line = true ↔ ReadsAsItem line := by
  constructor
  · intro h
    have hline := replicate_leadingSpaces_append line
    rw [isItemLine] at h
    split at h
    · rename_i rest hbody
      refine ⟨leadingSpaces line, ['-'], rest, ?_, .inl rfl⟩
      rw [List.singleton_append, ← hbody, hline]
    · split at h
      · rename_i d ds rest hdigits hbehind
        have hbody := (line.dropWhile (· = ' ')).takeWhile_append_dropWhile
          (p := DecimalDigit.isDigit)
        rw [hdigits, hbehind] at hbody
        refine ⟨leadingSpaces line, (d :: ds) ++ ['.'], rest, ?_,
          .inr ⟨d :: ds, List.cons_ne_nil d ds, ?_, rfl⟩⟩
        · simpa [← hbody] using hline.symm
        · exact fun c hc => List.mem_takeWhile_imp (hdigits ▸ hc)
      · cases h
  · rintro ⟨spaces, bullet, rest, rfl, rfl | ⟨digits, hne, hdigits, rfl⟩⟩
    · rw [isItemLine, List.singleton_append, dropWhile_replicate_append spaces (by decide)]
      rfl
    · obtain ⟨d, ds, rfl⟩ := List.exists_cons_of_ne_nil hne
      have hd : DecimalDigit.isDigit d = true := hdigits d List.mem_cons_self
      have hspace : d ≠ ' ' := by
        rintro rfl
        exact absurd hd (by decide)
      have hdash : d ≠ '-' := by
        rintro rfl
        exact absurd hd (by decide)
      have hpoint : DecimalDigit.isDigit '.' = false := by decide
      have hbody : (d :: ds) ++ ['.'] ++ ' ' :: rest = (d :: ds) ++ '.' :: ' ' :: rest := by simp
      rw [isItemLine, hbody, List.cons_append, dropWhile_replicate_append spaces hspace]
      split
      · rename_i heq
        exact absurd (List.cons.inj heq).1 hdash
      · rw [← List.cons_append, List.takeWhile_append_of_pos hdigits,
          List.dropWhile_append_of_pos hdigits]
        simp [hpoint]

/-! ## Lines -/

/-- The lines of an item end solidly. -/
theorem endsSolid_of_mem_itemLines {item : Text} (h : StartsSolid item) {ordered : Bool}
    {depth number : Nat} {line : Text} (hline : line ∈ itemLines ordered depth number item) :
    EndsSolid line := by
  obtain ⟨first, rest, hfilled, hfirst, hlines⟩ := itemLines_eq h
  rw [hlines] at hline
  rcases List.mem_cons.mp hline with rfl | hline
  · exact ((isSolid_trim hfirst.isAllBlank_eq_false).ends.cons ' ').append _
  · obtain ⟨l, hl, rfl⟩ := List.mem_map.mp hline
    have hmem : l ∈ filledLines item := hfilled ▸ List.mem_cons_of_mem _ hl
    exact (isSolid_trim (of_mem_filledLines hmem).1).ends.append _

/-- The lines of a list end solidly. -/
theorem endsSolid_of_mem_listLines {items : List Text} (h : ∀ item ∈ items, StartsSolid item)
    {ordered : Bool} {depth number : Nat} {line : Text}
    (hline : line ∈ listLines ordered depth number items) : EndsSolid line := by
  induction items generalizing number with
  | nil => cases hline
  | cons item items ih =>
    obtain ⟨hitem, hitems⟩ := List.forall_mem_cons.mp h
    rcases List.mem_append.mp hline with hline | hline
    · exact endsSolid_of_mem_itemLines hitem hline
    · exact ih hitems hline

/-- A decimal numeral begins with a digit. -/
theorem startsSolid_ofNat (n : Nat) : StartsSolid (ofNat n) := by
  obtain ⟨c, t, h⟩ := List.exists_cons_of_ne_nil (Nat.toDigits_ne_nil : Nat.toDigits 10 n ≠ [])
  have hmem : c ∈ Nat.toDigits 10 n := by
    rw [h]
    exact List.mem_cons_self
  have hdigit := Nat.isDigit_of_mem_toDigits (by decide) (by decide) hmem
  rw [ofNat, h]
  exact startsSolid_cons (isBlank_of_isDigit hdigit) t

theorem startsSolid_marker (ordered : Bool) (number : Nat) :
    StartsSolid (marker ordered number) := by
  cases ordered with
  | false => exact startsSolid_cons rfl _
  | true => exact (startsSolid_ofNat number).append ['.']

/-- An outermost list begins with the marker of its first item. -/
theorem listLines_outermost {item : Text} (h : StartsSolid item) (items : List Text)
    (ordered : Bool) :
    ∃ line ls, listLines ordered 0 1 (item :: items) = line :: ls ∧ StartsSolid line := by
  obtain ⟨first, rest, -, -, hlines⟩ := itemLines_eq h
  rw [listLines, hlines, List.cons_append]
  exact ⟨_, _, rfl, (startsSolid_marker ordered 1).append _⟩

/-- The items of a list are trimmed and not empty. -/
theorem isSolid_of_mem_walkItems {room depth : Nat} {nodes : List Node} {item : Text}
    (h : item ∈ (walkItems room depth nodes).value) : IsSolid item := by
  induction nodes with
  | nil => simp [walkItems, Marked.clear] at h
  | cons node others ih =>
    cases node with
    | text kind content => exact ih (by simpa [walkItems] using h)
    | element name attributes kids =>
      rw [walkItems] at h
      split at h
      · rcases List.mem_append.mp h with h | h
        · rw [Marked.map] at h
          split at h
          · cases h
          · rename_i hfilled
            obtain rfl := List.mem_singleton.mp h
            exact isSolid_trim (Bool.of_not_eq_true hfilled)
        · exact ih h
      · exact ih h

end PageMarkdown.Markdown
