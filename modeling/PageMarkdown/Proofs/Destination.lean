import PageMarkdown.Proofs.Element
import PageMarkdown.Proofs.Url.Safe

/-!
# Destinations of links and images

A reader of Markdown takes the destination of a link from behind its opening
parenthesis up to the first closing one that nothing in the destination opens. It
finds the URL that was written there exactly when the parentheses of the URL are
balanced. A URL that closes one more is cut there, and the rest of it is read as
text, which may hold another link.
-/

namespace PageMarkdown.Markdown

open Text Html

/-! ## Reading a destination -/

/-- The number of parentheses that are open behind a character, when `opened` are in front of it. -/
def openBehind (opened : Nat) (c : Char) : Nat :=
  if c = '(' then opened + 1 else if c = ')' then opened - 1 else opened

/-- Read a destination that begins inside `opened` parentheses of its own: the destination, and the
text behind the parenthesis that ends it. -/
def destinationFrom : Nat → Text → Option (Text × Text)
  | _, [] => none
  | opened, c :: t =>
    if c = ')' ∧ opened = 0 then some ([], t)
    else (destinationFrom (openBehind opened c) t).map fun found => (c :: found.1, found.2)

/-- The destination at the start of a text that follows an opening parenthesis, and the text behind
it. -/
def destination? (t : Text) : Option (Text × Text) := destinationFrom 0 t

/-- The parentheses of a text that begins inside `opened` of them match. -/
@[mk_iff]
structure IsBalanced (opened : Nat) (t : Text) : Prop where
  /-- None is closed that is not open. -/
  matched : ∀ front, front <+: t → front.count ')' ≤ opened + front.count '('
  /-- None stays open. -/
  closed : t.count ')' = opened + t.count '('

theorem isBalanced_nil (opened : Nat) : IsBalanced opened [] ↔ opened = 0 := by
  simp [isBalanced_iff, eq_comm]

/-- No balanced text begins with a parenthesis that closes nothing. -/
theorem IsBalanced.not_closing {opened : Nat} {c : Char} {t : Text}
    (h : IsBalanced opened (c :: t)) : ¬(c = ')' ∧ opened = 0) := by
  rintro ⟨rfl, rfl⟩
  simpa using h.matched [')'] (by simp)

/-- A first character that ends nothing may be left out, when the parenthesis that it is counts. -/
theorem isBalanced_cons {opened : Nat} {c : Char} (h : ¬(c = ')' ∧ opened = 0)) (t : Text) :
    IsBalanced opened (c :: t) ↔ IsBalanced (openBehind opened c) t := by
  have hcount : ∀ u : Text, opened + (c :: u).count '(' + u.count ')' =
      openBehind opened c + u.count '(' + (c :: u).count ')' := by
    intro u
    simp only [openBehind, List.count_cons, beq_iff_eq]
    split <;> split <;> grind
  constructor
  · rintro ⟨hmatched, hclosed⟩
    refine ⟨fun front hfront => ?_, ?_⟩
    · have hle := hmatched (c :: front) (List.cons_prefix_cons.mpr ⟨rfl, hfront⟩)
      have := hcount front
      omega
    · have := hcount t
      omega
  · rintro ⟨hmatched, hclosed⟩
    refine ⟨fun front hfront => ?_, ?_⟩
    · rcases List.prefix_cons_iff.mp hfront with rfl | ⟨rest, rfl, hrest⟩
      · simp
      · have hle := hmatched rest hrest
        have := hcount rest
        omega
    · have := hcount t
      omega

/-- A text with balanced parentheses is read up to the closing one behind it. -/
theorem IsBalanced.destinationFrom_eq {opened : Nat} {t : Text} (h : IsBalanced opened t)
    (behind : Text) : destinationFrom opened (t ++ ')' :: behind) = some (t, behind) := by
  induction t generalizing opened with
  | nil =>
    obtain rfl := (isBalanced_nil opened).mp h
    rfl
  | cons c t ih =>
    have hgoOn := h.not_closing
    rw [List.cons_append, destinationFrom, if_neg hgoOn, ih ((isBalanced_cons hgoOn t).mp h)]
    rfl

/-- What is read stands in front of a closing parenthesis and has balanced ones. -/
theorem of_destinationFrom {opened : Nat} {t destination behind : Text}
    (h : destinationFrom opened t = some (destination, behind)) :
    t = destination ++ ')' :: behind ∧ IsBalanced opened destination := by
  induction t generalizing opened destination with
  | nil => cases h
  | cons c t ih =>
    rw [destinationFrom] at h
    split at h
    · rename_i hend
      obtain ⟨rfl, rfl⟩ := hend
      obtain ⟨rfl, rfl⟩ := Prod.mk.inj (Option.some.inj h)
      exact ⟨rfl, (isBalanced_nil 0).mpr rfl⟩
    · rename_i hgoOn
      obtain ⟨⟨rest, after⟩, hfound, heq⟩ := Option.map_eq_some_iff.mp h
      obtain ⟨rfl, rfl⟩ := Prod.mk.inj heq
      obtain ⟨rfl, hrest⟩ := ih hfound
      exact ⟨rfl, (isBalanced_cons hgoOn rest).mpr hrest⟩

/-- A destination is a text with balanced parentheses in front of a closing one. -/
theorem destination?_eq_some_iff (t destination behind : Text) :
    destination? t = some (destination, behind) ↔
      t = destination ++ ')' :: behind ∧ IsBalanced 0 destination := by
  refine ⟨of_destinationFrom, ?_⟩
  rintro ⟨rfl, hbalanced⟩
  exact hbalanced.destinationFrom_eq behind

/-! ## Links and images -/

/-- The Markdown of a link or of an image without a title, with the safe URL it leads to. -/
inductive LeadsTo : Text → Text → Prop
  /-- An element that is shown as a link. -/
  | link (room depth : Nat) (name : Text) (attributes : Attributes) (kids : List Node)
      (hrole : Role.ofName name = .link)
      (hurl : Url.sanitize (trim (attributes.text "href")) ≠ []) :
      LeadsTo (walk (room + 1) depth (.element name attributes kids)).value
        (Url.sanitize (trim (attributes.text "href")))
  /-- An image. -/
  | image (url alt title : Text) (htitle : flatten title = []) :
      LeadsTo (imageMarkdown url alt title) (Url.sanitize url)

/-- What is shown stands between brackets, and the URL between parentheses behind it. -/
theorem LeadsTo.exists_shown {markdown url : Text} (h : LeadsTo markdown url) :
    ∃ shown, markdown = shown ++ ']' :: '(' :: url ++ [')'] ∧
      (['['] <+: shown ∨ ['!', '['] <+: shown) := by
  cases h with
  | link room depth name attributes kids hrole hurl =>
    refine ⟨'[' :: firstFilled (trim (walkAll room depth kids).value)
      (trim (attributes.text "href")), ?_, .inl ⟨_, rfl⟩⟩
    rw [walk, hrole]
    simp [Marked.map, linkMarkdown, hurl]
  | image raw alt title htitle =>
    refine ⟨'!' :: '[' :: firstFilled (flatten alt) (firstFilled [] "image".toList), ?_,
      .inr ⟨_, rfl⟩⟩
    simp [imageMarkdown, htitle]

/-- When a URL has no part in front of a closing parenthesis that is balanced, and is not balanced
itself, the parenthesis that ends the link belongs to what is read. -/
theorem prefix_of_destination? {url behind destination after : Text}
    (hopen : ¬ IsBalanced 0 url)
    (hclosed : ∀ front rest, url = front ++ ')' :: rest → ¬ IsBalanced 0 front)
    (h : destination? (url ++ ')' :: behind) = some (destination, after)) :
    url ++ [')'] <+: destination := by
  obtain ⟨heq, hbalanced⟩ := (destination?_eq_some_iff ..).mp h
  rcases List.append_eq_append_iff.mp heq with ⟨rest, rfl, hrest⟩ | ⟨rest, rfl, hrest⟩
  · cases rest with
    | nil => exact absurd (by simpa using hbalanced) hopen
    | cons c rest =>
      obtain ⟨rfl, -⟩ := List.cons.inj hrest
      exact ⟨rest, by simp⟩
  · cases rest with
    | nil => exact absurd (by simpa using hbalanced) hopen
    | cons c rest =>
      obtain ⟨rfl, -⟩ := List.cons.inj hrest
      exact absurd hbalanced (hclosed destination rest rfl)

/-- The URL of a link or an image reads back, with the text behind it untouched, exactly when its
parentheses are balanced. Where it closes one that it did not open, the part in front of that is
read, and the rest of it becomes text. Where one stays open, more than the URL is read. -/
theorem LeadsTo.destination_iff_balanced {markdown url : Text} (h : LeadsTo markdown url) :
    (∃ shown, markdown = shown ++ ']' :: '(' :: url ++ [')'] ∧
      (['['] <+: shown ∨ ['!', '['] <+: shown)) ∧
    (∀ behind, destination? (url ++ ')' :: behind) = some (url, behind) ↔ IsBalanced 0 url) ∧
    (∀ front rest, url = front ++ ')' :: rest → IsBalanced 0 front →
      ∀ behind, destination? (url ++ ')' :: behind) = some (front, rest ++ ')' :: behind)) ∧
    (¬ IsBalanced 0 url → (∀ front rest, url = front ++ ')' :: rest → ¬ IsBalanced 0 front) →
      ∀ behind destination after, destination? (url ++ ')' :: behind) = some (destination, after) →
        url ++ [')'] <+: destination) := by
  refine ⟨h.exists_shown, fun behind => ?_, ?_, ?_⟩
  · rw [destination?_eq_some_iff]
    exact and_iff_right rfl
  · rintro front rest rfl hfront behind
    rw [destination?_eq_some_iff]
    exact ⟨by simp, hfront⟩
  · exact fun hopen hclosed behind destination after => prefix_of_destination? hopen hclosed

/-- A link to a URL with nested parentheses reads back, also when more of them follow it. -/
theorem LeadsTo.destination_iff_balanced_nested :
    let url := "/wiki/A_(b_(c))".toList
    LeadsTo "[t](/wiki/A_(b_(c)))".toList url ∧ IsBalanced 0 url ∧
      destination? (url ++ ") (d)".toList) = some (url, " (d)".toList) := by
  have hlink : LeadsTo "[t](/wiki/A_(b_(c)))".toList "/wiki/A_(b_(c))".toList :=
    .link 0 0 "a".toList [("href".toList, .single "/wiki/A_(b_(c))".toList)]
      [.text .plain "t".toList] (by decide) (by decide)
  have hread : destination? ("/wiki/A_(b_(c))".toList ++ ") (d)".toList) =
      some ("/wiki/A_(b_(c))".toList, " (d)".toList) := by decide
  exact ⟨hlink, (hlink.destination_iff_balanced.2.1 _).mp hread, hread⟩

/-- A URL can close the parenthesis of its link and open a second link, whose scheme is not safe. -/
theorem LeadsTo.destination_spills_script :
    let url := "/x)[y](javascript:alert(1)".toList
    LeadsTo "[t](/x)[y](javascript:alert(1))".toList url ∧
      destination? (url ++ [')']) = some ("/x".toList, "[y](javascript:alert(1))".toList) ∧
      "/x".toList ≠ url ∧
      destination? "javascript:alert(1))".toList = some ("javascript:alert(1)".toList, []) ∧
      Url.HasScheme "javascript:alert(1)".toList "javascript".toList ∧
      "javascript".toList.map Char.toLower ∉ Url.safeSchemes := by
  refine ⟨?_, by decide, by decide, by decide, ?_, by decide⟩
  · exact .link 0 0 "a".toList [("href".toList, .single "/x)[y](javascript:alert(1)".toList)]
      [.text .plain "t".toList] (by decide) (by decide)
  · exact ⟨⟨_, rfl, rfl⟩, List.all_eq_true.mp (by decide), by decide⟩

end PageMarkdown.Markdown
