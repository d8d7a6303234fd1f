import PageMarkdown.Proofs.Marks
import PageMarkdown.Proofs.Outline

/-!
# Reading preformatted text back

A reader of Markdown takes the content of a fenced block from the line behind its
opening fence up to the first line that closes it: three backquotes or more behind
three spaces at most. Preformatted text is written between fences of three, as it
is, so it is read back exactly when none of its own lines closes a fence. Where one
does, the content ends in front of that line, and the rest is read as Markdown.
-/

namespace PageMarkdown.Markdown

open Text Html

/-! ## Lines with their endings -/

/-- A character that ends a line of Markdown. A carriage return and the line feed behind it are one
ending. -/
def endsLine (c : Char) : Bool := c = '\n' || c = '\r'

/-- Put a character in front of the first line, opening it when there is none. -/
def ontoFirst (c : Char) : List Text → List Text
  | [] => [[c]]
  | line :: ls => (c :: line) :: ls

/-- The lines of a text, each with the ending that it has. -/
def wholeLines : Text → List Text
  | [] => []
  | '\r' :: '\n' :: t => ['\r', '\n'] :: wholeLines t
  | c :: t => if endsLine c then [c] :: wholeLines t else ontoFirst c (wholeLines t)

/-- A line without its ending. -/
def lineContent (line : Text) : Text := line.takeWhile fun c => !endsLine c

theorem flatten_ontoFirst (c : Char) (ls : List Text) :
    (ontoFirst c ls).flatten = c :: ls.flatten := by
  cases ls <;> rfl

/-- The lines of a text make up all of it. -/
theorem flatten_wholeLines (t : Text) : (wholeLines t).flatten = t := by
  fun_induction wholeLines t with
  | case1 => rfl
  | case2 t ih => rw [List.flatten_cons, ih]; rfl
  | case3 c t _ _ ih => rw [List.flatten_cons, ih]; rfl
  | case4 c t _ _ ih => rw [flatten_ontoFirst, ih]

/-- A line feed by itself is a line. -/
theorem wholeLines_feed (t : Text) : wholeLines ('\n' :: t) = ['\n'] :: wholeLines t := by
  rw [wholeLines]
  · rfl
  · exact fun _ hc => absurd hc (by decide)

/-- A character that ends no line comes to stand in front of the first one. -/
theorem wholeLines_cons {c : Char} (h : endsLine c = false) (t : Text) :
    wholeLines (c :: t) = ontoFirst c (wholeLines t) := by
  rw [wholeLines]
  · rw [if_neg (by simp [h])]
  · rintro _ rfl
    exact absurd h (by decide)

/-- What ends a line is a blank. -/
theorem endsLine_of_solid {c : Char} (h : isBlank c = false) : endsLine c = false := by
  by_contra hends
  rw [Bool.not_eq_false, endsLine, Bool.or_eq_true, decide_eq_true_eq, decide_eq_true_eq] at hends
  rcases hends with rfl | rfl <;> exact absurd h (by decide)

/-- Behind a blank the rest of a text has the same end. -/
theorem endsSolid_of_blank_cons {c : Char} (hc : isBlank c = true) {t : Text}
    (h : EndsSolid (c :: t)) : EndsSolid t := by
  obtain ⟨d, hd, hb⟩ := h
  cases t with
  | nil =>
    obtain rfl : c = d := Option.some.inj hd
    rw [hc] at hb
    cases hb
  | cons e t => exact ⟨d, by rwa [List.getLast?_cons_cons] at hd, hb⟩

/-- A line feed behind a solid end is the ending of the last line, and the lines of what follows
come behind it. -/
theorem wholeLines_append_feed {t : Text} (h : EndsSolid t) (u : Text) :
    ∃ front last, wholeLines t = front ++ [last] ∧ (∀ c ∈ last, endsLine c = false) ∧
      wholeLines (t ++ '\n' :: u) = front ++ (last ++ ['\n']) :: wholeLines u := by
  fun_induction wholeLines t with
  | case1 => exact absurd rfl h.ne_nil
  | case2 t ih =>
    obtain ⟨front, last, hlines, hlast, hwhole⟩ :=
      ih (endsSolid_of_blank_cons rfl (endsSolid_of_blank_cons rfl h))
    exact ⟨['\r', '\n'] :: front, last, by rw [hlines]; rfl, hlast, by
      rw [List.cons_append, List.cons_append, wholeLines, hwhole]; rfl⟩
  | case3 c t hpair hc ih =>
    have hblank : isBlank c = true := by
      by_contra hsolid
      rw [endsLine_of_solid (Bool.of_not_eq_true hsolid)] at hc
      cases hc
    have ht := endsSolid_of_blank_cons hblank h
    obtain ⟨front, last, hlines, hlast, hwhole⟩ := ih ht
    refine ⟨[c] :: front, last, by rw [hlines]; rfl, hlast, ?_⟩
    rw [List.cons_append, wholeLines, if_pos hc, hwhole]
    · rfl
    · rintro v rfl hv
      obtain ⟨d, t, rfl⟩ := List.exists_cons_of_ne_nil ht.ne_nil
      exact hpair t rfl (by rw [(List.cons.inj hv).1])
  | case4 c t _ hc ih =>
    have hc : endsLine c = false := Bool.of_not_eq_true hc
    rw [List.cons_append, wholeLines_cons hc]
    by_cases ht : t = []
    · subst ht
      exact ⟨[], [c], rfl, List.forall_mem_singleton.mpr hc, by
        rw [List.nil_append, wholeLines_feed]; rfl⟩
    · obtain ⟨d, hd, hb⟩ := h
      have hrest : EndsSolid t := by
        obtain ⟨e, t, rfl⟩ := List.exists_cons_of_ne_nil ht
        exact ⟨d, by rwa [List.getLast?_cons_cons] at hd, hb⟩
      obtain ⟨front, last, hlines, hlast, hwhole⟩ := ih hrest
      rw [hlines, hwhole]
      cases front with
      | nil => exact ⟨[], c :: last, rfl, List.forall_mem_cons.mpr ⟨hc, hlast⟩, rfl⟩
      | cons line front => exact ⟨(c :: line) :: front, last, rfl, hlast, rfl⟩

/-- A line feed behind a line without ending is no content of it. -/
theorem lineContent_append_feed {line : Text} (h : ∀ c ∈ line, endsLine c = false) :
    lineContent (line ++ ['\n']) = line := by
  rw [lineContent, List.takeWhile_append_of_pos fun c hc => by simp [h c hc]]
  exact List.append_nil line

theorem lineContent_of_unended {line : Text} (h : ∀ c ∈ line, endsLine c = false) :
    lineContent line = line :=
  List.takeWhile_eq_self_iff.mpr fun c hc => by simp [h c hc]

/-! ## Reading a fenced block -/

/-- The marks of an opening fence. -/
def fence : Text := ['\x60', '\x60', '\x60']

/-- The line closes a fenced block: three backquotes or more, behind three spaces at most. -/
def closesFence (line : Text) : Bool :=
  let content := lineContent line
  let marks := content.dropWhile (· = ' ')
  leadingSpaces content ≤ 3 && 3 ≤ marks.length && marks.all (· = '\x60')

/-- The lines in front of the first one that closes a fenced block, if there is one. -/
def untilFence : List Text → Option (List Text)
  | [] => none
  | line :: ls => if closesFence line then some [] else (untilFence ls).map (line :: ·)

/-- The text of lines that stand one below another. The ending of the last one ends the text. -/
def contentOf : List Text → Text
  | [] => []
  | [line] => lineContent line
  | line :: next :: ls => line ++ contentOf (next :: ls)

/-- The content of the fenced block at the start of a text, in front of which lines may be empty. -/
def fencedContent? (t : Text) : Option Text :=
  match (wholeLines t).dropWhile fun line => (lineContent line).isEmpty with
  | [] => none
  | opening :: ls => if lineContent opening = fence then (untilFence ls).map contentOf else none

/-- The lines up to a closing one that is known are read as far as none of them closes. -/
theorem untilFence_append {closing : Text} (h : closesFence closing = true) (ls rest : List Text) :
    untilFence (ls ++ closing :: rest) = some (ls.takeWhile fun line => !closesFence line) := by
  induction ls with
  | nil => rw [List.nil_append, untilFence, if_pos h]; rfl
  | cons line ls ih =>
    rw [List.cons_append, untilFence, ih, List.takeWhile_cons]
    cases closesFence line <;> rfl

/-- Lines whose last one ends with a line feed have the text of the lines without it. -/
theorem contentOf_append_feed (front : List Text) {last : Text}
    (h : ∀ c ∈ last, endsLine c = false) :
    contentOf (front ++ [last ++ ['\n']]) = (front ++ [last]).flatten := by
  induction front with
  | nil => simpa [contentOf] using lineContent_append_feed h
  | cons line front ih =>
    obtain ⟨next, ls, hls⟩ := List.exists_cons_of_ne_nil
      (List.append_ne_nil_of_right_ne_nil front (List.cons_ne_nil (last ++ ['\n']) []))
    rw [List.cons_append, hls, contentOf, ← hls, ih]
    rfl

/-- The text of lines is no longer than the lines. -/
theorem length_contentOf_le (ls : List Text) : (contentOf ls).length ≤ ls.flatten.length := by
  fun_induction contentOf ls with
  | case1 => exact Nat.le_refl 0
  | case2 line =>
    have hle := (List.takeWhile_prefix (l := line) fun c => !endsLine c).length_le
    simpa [lineContent] using hle
  | case3 line next ls ih => simpa using ih

/-- A line that closes a fenced block is not empty. -/
theorem length_pos_of_closesFence {line : Text} (h : closesFence line = true) :
    0 < line.length := by
  cases line with
  | nil => cases h
  | cons c line => exact Nat.succ_pos _

/-- A block between fences is read as far as none of its lines closes it. -/
theorem fencedContent?_block {text : Text} (h : EndsSolid text) :
    ∃ front last, wholeLines text = front ++ [last] ∧ (∀ c ∈ last, endsLine c = false) ∧
      fencedContent? (block (fence ++ '\n' :: text ++ '\n' :: fence)) =
        some (contentOf ((front ++ [last ++ ['\n']]).takeWhile fun line => !closesFence line)) := by
  obtain ⟨front, last, hlines, hlast, hwhole⟩ :=
    wholeLines_append_feed h (fence ++ ['\n', '\n'])
  refine ⟨front, last, hlines, hlast, ?_⟩
  have hblock : block (fence ++ '\n' :: text ++ '\n' :: fence) =
      '\n' :: '\n' :: '\x60' :: '\x60' :: '\x60' :: '\n' ::
        (text ++ '\n' :: (fence ++ ['\n', '\n'])) := by
    simp [block, fence]
  have hmark : endsLine '\x60' = false := by decide
  have hread : wholeLines (block (fence ++ '\n' :: text ++ '\n' :: fence)) =
      ['\n'] :: ['\n'] :: (fence ++ ['\n']) ::
        ((front ++ [last ++ ['\n']]) ++ (fence ++ ['\n']) :: [['\n']]) := by
    rw [hblock, wholeLines_feed, wholeLines_feed, wholeLines_cons hmark, wholeLines_cons hmark,
      wholeLines_cons hmark, wholeLines_feed, hwhole, List.append_assoc]
    rfl
  have hclosing : closesFence (fence ++ ['\n']) = true := by decide
  rw [fencedContent?, hread]
  exact congrArg (Option.map contentOf) (untilFence_append hclosing _ _)

/-- Where no line closes the block, all of the text is read; where one does, what stands in front of
the first such line. -/
theorem fencedContent?_eq {text : Text} (h : EndsSolid text) :
    ((∀ line ∈ wholeLines text, closesFence line = false) →
      fencedContent? (block (fence ++ '\n' :: text ++ '\n' :: fence)) = some text) ∧
    ∀ before line after, wholeLines text = before ++ line :: after →
      (∀ l ∈ before, closesFence l = false) → closesFence line = true →
        fencedContent? (block (fence ++ '\n' :: text ++ '\n' :: fence)) =
          some (contentOf before) := by
  obtain ⟨front, last, hlines, hlast, hread⟩ := fencedContent?_block h
  have hsame : closesFence (last ++ ['\n']) = closesFence last := by
    simp only [closesFence, lineContent_append_feed hlast, lineContent_of_unended hlast]
  rw [hread]
  constructor
  · intro hopen
    rw [hlines] at hopen
    obtain ⟨hfront, hend⟩ := List.forall_mem_append.mp hopen
    have hall : ∀ line ∈ front ++ [last ++ ['\n']], (!closesFence line) = true := by
      refine List.forall_mem_append.mpr ⟨fun line hline => by rw [hfront line hline]; rfl, ?_⟩
      rw [List.forall_mem_singleton, hsame, hend last (List.mem_singleton_self last)]
      rfl
    rw [List.takeWhile_eq_self_iff.mpr hall, contentOf_append_feed front hlast, ← hlines,
      flatten_wholeLines]
  · intro before line after hcut hbefore hline
    have hopen : ∀ l ∈ before, (!closesFence l) = true := fun l hl => by rw [hbefore l hl]; rfl
    have hstop : ∀ rest : List Text,
        (before ++ line :: rest).takeWhile (fun l => !closesFence l) = before := fun rest => by
      rw [List.takeWhile_append_of_pos hopen, List.takeWhile_cons_of_neg (by simp [hline]),
        List.append_nil]
    rw [hlines] at hcut
    rcases List.eq_nil_or_concat after with rfl | ⟨after, final, rfl⟩
    · -- The closing line is the last one, which has no ending in the text by itself.
      obtain ⟨rfl, hend⟩ := List.append_inj' hcut rfl
      obtain rfl : last = line := List.head_eq_of_cons_eq hend
      rw [List.takeWhile_append_of_pos hopen, List.takeWhile_cons_of_neg (by simp [hsame, hline]),
        List.append_nil]
    · rw [List.concat_eq_append, ← List.cons_append, ← List.append_assoc] at hcut
      obtain ⟨rfl, -⟩ := List.append_inj' hcut rfl
      rw [List.append_assoc, List.cons_append, hstop]

/-- The text is read back exactly when no line of it closes the block. -/
theorem fencedContent?_eq_iff {text : Text} (h : EndsSolid text) :
    fencedContent? (block (fence ++ '\n' :: text ++ '\n' :: fence)) = some text ↔
      ∀ line ∈ wholeLines text, closesFence line = false := by
  obtain ⟨hwhole, hcut⟩ := fencedContent?_eq h
  refine ⟨fun hread => ?_, hwhole⟩
  by_contra hcloses
  obtain ⟨before, line, after, hlines, hbefore, hline⟩ :
      ∃ before line after, wholeLines text = before ++ line :: after ∧
        (∀ l ∈ before, closesFence l = false) ∧ closesFence line = true := by
    cases hfound : (wholeLines text).find? closesFence with
    | none =>
      have hopen := List.find?_eq_none.mp hfound
      exact absurd (fun line hline => by simpa using hopen line hline) hcloses
    | some line =>
      obtain ⟨hline, before, after, hlines, hbefore⟩ := List.find?_eq_some_iff_append.mp hfound
      exact ⟨before, line, after, hlines, fun l hl => by simpa using hbefore l hl, hline⟩
  rw [hcut before line after hlines hbefore hline] at hread
  -- The part in front of the closing line is shorter than the text.
  have htext : text = before.flatten ++ (line ++ after.flatten) := by
    rw [← flatten_wholeLines text, hlines, List.flatten_append, List.flatten_cons]
  have hlength : text.length = before.flatten.length + (line.length + after.flatten.length) := by
    rw [htext]
    simp only [List.length_append]
  have hshort := length_contentOf_le before
  rw [Option.some.inj hread] at hshort
  have hpos := length_pos_of_closesFence hline
  omega

/-! ## Preformatted elements -/

/-- An element of preformatted text that is not blank is converted to a block between fences, from
which its text, without blanks at its end, is read back exactly when no line of it closes a fence.
Where one does, what stands in front of the first such line is read. -/
theorem Converter.nodeText_fenced (c : Converter) (hlimit : 0 < c.limit) (depth : Nat) {name : Text}
    (hrole : Role.ofName name = .preformatted) (attributes : Attributes) (kids : List Node)
    (hfilled : isAllBlank (Node.innerText kids) = false) :
    let text := trimRight (Node.innerText kids)
    ∃ t, c.nodeText depth (.element name attributes kids) = .ok t ∧
      (fencedContent? t = some text ↔ ∀ line ∈ wholeLines text, closesFence line = false) ∧
      ∀ before line after, wholeLines text = before ++ line :: after →
        (∀ l ∈ before, closesFence l = false) → closesFence line = true →
          fencedContent? t = some (contentOf before) := by
  intro text
  have hends : EndsSolid text := endsSolid_trimRight hfilled
  have hroom : c.room = (c.room - 1) + 1 := by
    rw [room]
    omega
  have hwalk : walk c.room depth (.element name attributes kids) =
      .clear (block (fence ++ '\n' :: text ++ '\n' :: fence)) := by
    rw [hroom, walk, hrole]
    show Marked.clear (preformattedMarkdown (Node.innerText kids)) = _
    rw [preformattedMarkdown, if_neg (by simpa using hends.ne_nil)]
    rfl
  refine ⟨_, ?_, fencedContent?_eq_iff hends, (fencedContent?_eq hends).2⟩
  rw [nodeText, convert, outcome_finish, hwalk]
  rfl

/-- A fence that is indented too far and one in the middle of a line close nothing. -/
theorem Converter.nodeText_fenced_sample :
    let kids := [Node.text .plain "\na\r\n    \x60\x60\x60\n b \x60\x60\x60 \n".toList]
    let text := "\na\r\n    \x60\x60\x60\n b \x60\x60\x60".toList
    (0 : Int) < 9 ∧ Role.ofName "PRE".toList = .preformatted ∧
      isAllBlank (Node.innerText kids) = false ∧ trimRight (Node.innerText kids) = text ∧
      ∃ t, nodeText ⟨9, false⟩ 0 (.element "PRE".toList [] kids) = .ok t ∧
        fencedContent? t = some text := by
  have hrole : Role.ofName "PRE".toList = .preformatted := by decide
  have hfilled : isAllBlank (Node.innerText
      [Node.text .plain "\na\r\n    \x60\x60\x60\n b \x60\x60\x60 \n".toList]) = false := by decide
  obtain ⟨t, ht, hread, -⟩ := nodeText_fenced ⟨9, false⟩ (by decide) 0 hrole [] _ hfilled
  exact ⟨by decide, hrole, hfilled, by decide, t, ht, hread.mpr (by decide)⟩

/-- A code sample with a fence in it is cut there. -/
theorem Converter.nodeText_fenced_cut :
    let text := "a\n\x60\x60\x60\nb".toList
    ∃ t, nodeText ⟨9, false⟩ 0 (.element "pre".toList [] [.text .plain text]) = .ok t ∧
      trimRight (Node.innerText [.text .plain text]) = text ∧
      fencedContent? t = some ['a'] ∧ ['a'] ≠ text :=
  ⟨"\n\n\x60\x60\x60\na\n\x60\x60\x60\nb\n\x60\x60\x60\n\n".toList, by decide, by decide, by decide,
    by decide⟩

end PageMarkdown.Markdown
