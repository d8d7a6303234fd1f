import PageMarkdown.Proofs.Html.Reference
import PageMarkdown.Proofs.Text.Letters
import PageMarkdown.Url.Safe

/-!
# Schemes of safe URLs

A URL begins with a scheme when the scheme characters in front of it end at a
colon. A sanitized URL is a cleaned one whose scheme, if it has one, is on the
list of safe schemes. A reader that resolves references in it sees the same
scheme, unless an ampersand follows the scheme characters in front.
-/

namespace PageMarkdown.Url

open Text Html

/-! ## Schemes -/

/-- The URL begins with a scheme of this name, as written: a letter, then letters, digits, plus and
minus signs and points, up to a colon. -/
structure HasScheme (url name : Text) : Prop where
  /-- The name begins with a letter. -/
  letter : ∃ c, name.head? = some c ∧ isLetter c = true
  /-- The name has only characters of schemes. -/
  chars : ∀ c ∈ name, isSchemeChar c = true
  /-- A colon follows the name at the start of the URL. -/
  colon : name ++ [':'] <+: url

/-- What is taken from a text that goes on with something else is its front. -/
theorem span_append {p : Char → Bool} {front : Text} (hfront : ∀ c ∈ front, p c = true)
    (behind : Text) (hbehind : ∀ c, behind.head? = some c → p c = false) :
    (front ++ behind).takeWhile p = front ∧ (front ++ behind).dropWhile p = behind := by
  rw [List.takeWhile_append_of_pos hfront, List.dropWhile_append_of_pos hfront]
  cases behind with
  | nil => simp
  | cons c behind => simp [hbehind c rfl]

/-- The scheme is what the scheme characters in front of the URL spell, up to a colon. -/
theorem hasScheme_iff (url name : Text) :
    HasScheme url name ↔
      url.takeWhile isSchemeChar = name ∧ (url.dropWhile isSchemeChar).head? = some ':' ∧
        ∃ c, name.head? = some c ∧ isLetter c = true := by
  constructor
  · rintro ⟨hletter, hchars, rest, rfl⟩
    rw [List.append_assoc]
    obtain ⟨htake, hdrop⟩ := span_append hchars ([':'] ++ rest) fun c hc => by
      obtain rfl := Option.some.inj hc
      decide
    exact ⟨htake, by rw [hdrop]; rfl, hletter⟩
  · rintro ⟨rfl, hcolon, hletter⟩
    refine ⟨hletter, fun c hc => List.mem_takeWhile_imp hc, ?_⟩
    obtain ⟨rest, hrest⟩ := List.head?_eq_some_iff.mp hcolon
    refine ⟨rest, ?_⟩
    rw [List.append_assoc, List.singleton_append, ← hrest, List.takeWhile_append_dropWhile]

theorem cut_append {separator : Char} {front : Text} (h : separator ∉ front) (rest : Text) :
    cut separator (front ++ separator :: rest) = (front, some rest) := by
  induction front with
  | nil => simp [cut]
  | cons c front ih =>
    obtain ⟨hc, hfront⟩ := not_or.mp (mt List.mem_cons.mpr h)
    simp [cut, Ne.symm hc, ih hfront]

/-- The scheme that a URL begins with is found. -/
theorem HasScheme.scheme? {url name : Text} (h : HasScheme url name) :
    ∃ rest, scheme? url = some (name, rest) := by
  obtain ⟨⟨c, hhead, hc⟩, hchars, rest, rfl⟩ := h
  have hcolon : ':' ∉ name := fun hmem => by
    have hchar := hchars ':' hmem
    revert hchar
    decide
  refine ⟨rest, ?_⟩
  rw [Url.scheme?, List.append_assoc, List.singleton_append, cut_append hcolon]
  obtain ⟨tail, rfl⟩ := List.head?_eq_some_iff.mp hhead
  have htail : tail.all isSchemeChar = true :=
    List.all_eq_true.mpr fun d hd => hchars d (List.mem_cons_of_mem _ hd)
  simp only [hc, htail, Bool.and_self, if_true]

/-- Taking a URL apart gives its scheme in lower case. -/
theorem HasScheme.split {url name : Text} (h : HasScheme (tidy url) name) {default : Text}
    {p : Parts} (hp : split default url = .ok p) : p.scheme = name.map Char.toLower := by
  obtain ⟨rest, hscheme⟩ := h.scheme?
  unfold Url.split at hp
  simp only [hscheme] at hp
  split at hp
  · cases hp
  · split at hp
    · cases hp
    · obtain rfl := Except.ok.inj hp
      rfl

/-! ## Sanitized URLs -/

/-- A permitted character is no control and no space, and it is none of the characters that a URL
would end at in Markdown or in markup. -/
theorem of_isAllowed {c : Char} (h : isAllowed c = true) :
    0x20 < c.toNat ∧ c.toNat ≠ 0x7F ∧ c ∉ ['"', '\\', '<', '>', '\x7b', '\x7d'] := by
  by_cases hascii : c.toNat < 0x80
  · have hall : ∀ n < 0x80, isAllowed (Char.ofNat n) = true →
        0x20 < n ∧ n ≠ 0x7F ∧ Char.ofNat n ∉ ['"', '\\', '<', '>', '\x7b', '\x7d'] := by
      decide +kernel
    simpa using hall c.toNat hascii (by simpa using h)
  · refine ⟨by omega, by omega, fun hmem => hascii ?_⟩
    have hall : ∀ d ∈ ['"', '\\', '<', '>', '\x7b', '\x7d'], d.toNat < 0x80 := by
      simp
    exact hall c hmem

theorem isAllowed_of_mem_clean {raw : Text} {c : Char} (h : c ∈ clean raw) : isAllowed c = true :=
  (List.mem_filter.mp h).2

/-- Whatever a URL begins with that has no controls and no spaces stays when it is tidied. -/
theorem tidy_append {front : Text} (hsolid : ∀ c ∈ front, 0x20 < c.toNat) (hne : front ≠ [])
    (rest : Text) : tidy (front ++ rest) =
      front ++ rest.filter fun c => c != '\t' && c != '\r' && c != '\n' := by
  have hkept : ∀ c ∈ front, (c != '\t' && c != '\r' && c != '\n') = true := by
    intro c hc
    have hc := hsolid c hc
    simp only [Bool.and_eq_true, bne_iff_ne, ne_eq]
    refine ⟨⟨?_, ?_⟩, ?_⟩ <;> (rintro rfl; exact absurd hc (by decide))
  obtain ⟨c, tail, rfl⟩ := List.exists_cons_of_ne_nil hne
  have hdrop : (c :: tail ++ rest).dropWhile (fun d => d.toNat ≤ 0x20) = c :: tail ++ rest :=
    List.dropWhile_cons_of_neg (by simpa using hsolid c List.mem_cons_self)
  rw [tidy, hdrop, List.filter_append, List.filter_eq_self.mpr hkept]

/-- Nothing is left to tidy in a cleaned URL. -/
theorem tidy_clean (raw : Text) : tidy (clean raw) = clean raw := by
  by_cases hne : clean raw = []
  · rw [hne]
    rfl
  · have htidy := tidy_append (fun c hc => (of_isAllowed (isAllowed_of_mem_clean hc)).1) hne []
    simpa using htidy

/-- A URL that is left is the cleaned one, and unless it is a local reference it can be taken apart
and has no scheme or a safe one. -/
theorem of_sanitize_eq_cons {raw rest : Text} {c : Char} (h : sanitize raw = c :: rest) :
    clean raw = c :: rest ∧ (isLocalMark c = true ∨ ∃ p, split [] (c :: rest) = .ok p ∧
      (p.scheme = [] ∨ p.scheme ∈ safeSchemes)) := by
  unfold sanitize at h
  split at h
  · cases h
  · rename_i d others hclean
    split at h
    · rename_i hlocal
      obtain ⟨rfl, rfl⟩ := List.cons.inj h
      exact ⟨hclean, .inl hlocal⟩
    · split at h
      · cases h
      · rename_i p hp
        split at h
        · rename_i hsafe
          obtain ⟨rfl, rfl⟩ := List.cons.inj h
          refine ⟨hclean, .inr ⟨p, hp, ?_⟩⟩
          simpa [List.isEmpty_iff] using hsafe
        · cases h

/-- A sanitized URL has permitted characters only. -/
theorem isAllowed_of_mem_sanitize {raw : Text} {c : Char} (h : c ∈ sanitize raw) :
    isAllowed c = true := by
  cases hurl : sanitize raw with
  | nil => simp [hurl] at h
  | cons d rest =>
    rw [hurl, ← (of_sanitize_eq_cons hurl).1] at h
    exact isAllowed_of_mem_clean h

theorem isLocalMark_of_isLetter {c : Char} (h : isLetter c = true) : isLocalMark c = false := by
  simp only [isLocalMark, Bool.or_eq_false_iff, decide_eq_false_iff_not]
  refine ⟨⟨?_, ?_⟩, ?_⟩ <;> (rintro rfl; revert h; decide)

/-- A scheme at the start of a sanitized URL is safe in lower case. -/
theorem HasScheme.mem_safeSchemes {raw name : Text} (h : HasScheme (sanitize raw) name) :
    name.map Char.toLower ∈ safeSchemes := by
  obtain ⟨c, hhead, hletter⟩ := h.letter
  obtain ⟨tail, rfl⟩ := List.head?_eq_some_iff.mp hhead
  obtain ⟨rest, hrest⟩ := h.colon
  obtain ⟨hclean, hlocal | ⟨p, hp, hsafe⟩⟩ := of_sanitize_eq_cons hrest.symm
  · rw [isLocalMark_of_isLetter hletter] at hlocal
    cases hlocal
  · rw [← hrest] at h
    -- Nothing was left to tidy, so the scheme that was checked is the one in front.
    have htidy := tidy_clean raw
    rw [hclean] at htidy
    have hscheme : p.scheme = (c :: tail).map Char.toLower :=
      HasScheme.split (htidy.symm ▸ h) hp
    rw [hscheme] at hsafe
    exact hsafe.resolve_left (by simp)

/-- Whatever the raw URL, what is left of it has permitted characters only, so no control, space,
quote, backslash, bracket of markup or brace, and a scheme in front of it is safe in lower case. If
an unsafe scheme is in front once the other characters are gone, nothing is left. -/
theorem sanitize_safe (raw : Text) :
    (∀ c ∈ sanitize raw, isAllowed c = true ∧ 0x20 < c.toNat ∧ c.toNat ≠ 0x7F ∧
      c ∉ ['"', '\\', '<', '>', '\x7b', '\x7d']) ∧
    (∀ name, HasScheme (sanitize raw) name → name.map Char.toLower ∈ safeSchemes) ∧
    ∀ name, HasScheme (clean raw) name → name.map Char.toLower ∉ safeSchemes →
      sanitize raw = [] := by
  refine ⟨fun c hc => ?_, fun name h => h.mem_safeSchemes, fun name h hunsafe => ?_⟩
  · have hallowed := isAllowed_of_mem_sanitize hc
    exact ⟨hallowed, of_isAllowed hallowed⟩
  · cases hurl : sanitize raw with
    | nil => rfl
    | cons c rest =>
      have hclean := (of_sanitize_eq_cons hurl).1
      rw [hclean, ← hurl] at h
      exact absurd h.mem_safeSchemes hunsafe

/-- Spellings of two URLs: capital letters and a tab in a safe scheme leave it, and deleted
characters that hide an unsafe scheme do not save it. -/
theorem sanitize_safe_spellings :
    let kept := "HtTp\t://a.test/<x y>".toList
    let dropped := "\x01Java\nScri\"pt:alert(1)".toList
    (sanitize kept = "HtTp://a.test/x%20y".toList ∧ HasScheme (sanitize kept) "HtTp".toList ∧
      "http".toList ∈ safeSchemes) ∧
    (clean dropped = "JavaScript:alert(1)".toList ∧ sanitize dropped = []) := by
  have hkept : HasScheme (sanitize "HtTp\t://a.test/<x y>".toList) "HtTp".toList :=
    ⟨⟨_, rfl, rfl⟩, List.all_eq_true.mp (by decide), by decide⟩
  have hdropped : HasScheme (clean "\x01Java\nScri\"pt:alert(1)".toList) "JavaScript".toList :=
    ⟨⟨_, rfl, rfl⟩, List.all_eq_true.mp (by decide), by decide⟩
  exact ⟨⟨by decide, hkept, (sanitize_safe _).2.1 _ hkept⟩, by decide,
    (sanitize_safe _).2.2 _ hdropped (by decide)⟩

/-! ## References in a sanitized URL -/

/-- A scheme character is no ampersand. -/
theorem not_mem_takeWhile_isSchemeChar (url : Text) : '&' ∉ url.takeWhile isSchemeChar := by
  intro hmem
  have hchar := List.mem_takeWhile_imp hmem
  revert hchar
  decide

/-- Unless an ampersand follows the scheme characters in front of a URL, resolving its references
leaves them and the character behind them. -/
theorem resolveAll_front {url resolved : Text} (h : Reference.resolveAll url = .ok resolved)
    (hopen : (url.dropWhile isSchemeChar).head? ≠ some '&') :
    resolved.takeWhile isSchemeChar = url.takeWhile isSchemeChar ∧
      (resolved.dropWhile isSchemeChar).head? = (url.dropWhile isSchemeChar).head? := by
  have hchars : ∀ c ∈ url.takeWhile isSchemeChar, isSchemeChar c = true :=
    fun c hc => List.mem_takeWhile_imp hc
  have hstop : ∀ c, (url.dropWhile isSchemeChar).head? = some c → isSchemeChar c = false := by
    intro c hc
    have hhead := List.head?_dropWhile_not isSchemeChar url
    rw [hc] at hhead
    exact hhead
  rw [Reference.resolveAll, ← List.takeWhile_append_dropWhile (p := isSchemeChar) (l := url),
    Reference.resolveFrom_append (not_mem_takeWhile_isSchemeChar url)] at h
  cases hbehind : url.dropWhile isSchemeChar with
  | nil =>
    rw [hbehind] at h
    obtain rfl := Except.ok.inj h
    obtain ⟨htake, hdrop⟩ := span_append hchars [] (by simp)
    exact ⟨htake, congrArg List.head? hdrop⟩
  | cons c rest =>
    have hc : c ≠ '&' := fun hc => hopen (by rw [hbehind, hc]; rfl)
    rw [hbehind, Reference.resolveFrom, if_neg hc] at h
    cases hrest : Reference.resolveFrom 0 rest with
    | error n => simp [hrest, Except.map] at h
    | ok behind =>
      rw [hrest] at h
      obtain rfl : resolved = url.takeWhile isSchemeChar ++ c :: behind :=
        (Except.ok.inj h).symm
      obtain ⟨htake, hdrop⟩ := span_append hchars (c :: behind) fun d hd =>
        hstop d (by rw [hbehind]; exact hd)
      exact ⟨htake, by rw [hdrop]; rfl⟩

/-- Resolving the references of a sanitized URL gives it no other scheme, and so only a safe one,
unless an ampersand follows the scheme characters in front of it. -/
theorem sanitize_resolved_safe {raw resolved : Text}
    (h : Reference.resolveAll (sanitize raw) = .ok resolved)
    (hopen : ((sanitize raw).dropWhile isSchemeChar).head? ≠ some '&') (name : Text) :
    (HasScheme resolved name ↔ HasScheme (sanitize raw) name) ∧
      (HasScheme resolved name → name.map Char.toLower ∈ safeSchemes) := by
  obtain ⟨htake, hdrop⟩ := resolveAll_front h hopen
  have hsame : HasScheme resolved name ↔ HasScheme (sanitize raw) name := by
    rw [hasScheme_iff, hasScheme_iff, htake, hdrop]
  exact ⟨hsame, fun hscheme => (hsame.mp hscheme).mem_safeSchemes⟩

/-- A query may hold references: the scheme in front stays, and it is safe. -/
theorem sanitize_resolved_safe_query :
    let raw := " HTTPS://a.test/?a&colon;=1&amp;b".toList
    let resolved := "HTTPS://a.test/?a:=1&b".toList
    Reference.resolveAll (sanitize raw) = .ok resolved ∧ HasScheme resolved "HTTPS".toList ∧
      "https".toList ∈ safeSchemes := by
  have hresolved : Reference.resolveAll (sanitize " HTTPS://a.test/?a&colon;=1&amp;b".toList) =
      .ok "HTTPS://a.test/?a:=1&b".toList := by rfl
  have hscheme : HasScheme "HTTPS://a.test/?a:=1&b".toList "HTTPS".toList :=
    ⟨⟨_, rfl, rfl⟩, List.all_eq_true.mp (by decide), by decide⟩
  exact ⟨hresolved, hscheme,
    (sanitize_resolved_safe hresolved (by decide) "HTTPS".toList).2 hscheme⟩

/-- A reference can spell the colon of a scheme: nothing is found to object to, and the resolved URL
has a scheme that is not safe. -/
theorem sanitize_hides_colon :
    let url := "javascript&colon;alert(1)".toList
    sanitize url = url ∧ Reference.resolveAll url = .ok "javascript:alert(1)".toList ∧
      HasScheme "javascript:alert(1)".toList "javascript".toList ∧
      "javascript".toList.map Char.toLower ∉ safeSchemes := by
  have hscheme : HasScheme "javascript:alert(1)".toList "javascript".toList :=
    ⟨⟨_, rfl, rfl⟩, List.all_eq_true.mp (by decide), by decide⟩
  exact ⟨by rfl, by rfl, hscheme, by decide⟩

end PageMarkdown.Url
