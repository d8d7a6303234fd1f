import Mathlib.Data.List.TakeDrop
import PageMarkdown.Html.Token
import PageMarkdown.Proofs.Html.Reference

/-!
# What tokens are made of

Reading never invents text. What a move leaves is the end of what it was given,
and the character data that it reads is no longer than what it took. It ends with
a fault only at a marked section that is rejected or at a numeral that the text
holds. So the character data of a whole markup text is no longer than the markup.
-/

namespace PageMarkdown.Html.Token

open Text Numeral Reference

variable (stray : Nat → Char)

/-! ## Pieces of a text -/

/-- A text that is searched for a closing piece is cut in front of it. -/
theorem seek_eq_some {closer : Text → Option Text} {t inside rest : Text}
    (h : seek closer t = some (inside, rest)) : ∃ u, t = inside ++ u ∧ closer u = some rest := by
  induction t generalizing inside with
  | nil => cases h
  | cons c t ih =>
    rw [seek] at h
    split at h
    · rename_i found hfound
      obtain ⟨rfl, rfl⟩ := Prod.mk.inj (Option.some.inj h)
      exact ⟨c :: t, rfl, hfound⟩
    · obtain ⟨⟨front, behind⟩, hseek, hcut⟩ := Option.map_eq_some_iff.mp h
      obtain ⟨rfl, rfl⟩ := Prod.mk.inj hcut
      obtain ⟨u, rfl, hu⟩ := ih hseek
      exact ⟨u, rfl, hu⟩

/-- A text that is read through a character is cut at it. -/
theorem through_eq_some {c : Char} {t inside behind : Text}
    (h : through c t = some (inside, behind)) : t = inside ++ c :: behind := by
  obtain ⟨u, rfl, hu⟩ := seek_eq_some h
  cases u with
  | nil => cases hu
  | cons d rest =>
    dsimp only at hu
    split at hu
    · rename_i hd
      rw [hd, Option.some.inj hu]
    · cases hu

/-- What follows the first closing piece is the end of the text. -/
theorem seek_suffix {closer : Text → Option Text} {t inside rest : Text}
    (hcloser : ∀ {u v : Text}, closer u = some v → v <:+ u)
    (h : seek closer t = some (inside, rest)) : rest <:+ t := by
  obtain ⟨u, rfl, hu⟩ := seek_eq_some h
  exact (hcloser hu).trans (List.suffix_append ..)

theorem through_suffix {c : Char} {t inside behind : Text}
    (h : through c t = some (inside, behind)) : behind <:+ t := by
  rw [through_eq_some h]
  exact (List.suffix_cons ..).trans (List.suffix_append ..)

theorem spaced?_suffix {cs t rest : Text} (h : spaced? cs t = some rest) : rest <:+ t := by
  induction cs generalizing t with
  | nil => exact Option.some.inj h ▸ List.suffix_refl _
  | cons c cs ih =>
    cases t with
    | nil => cases h
    | cons d t =>
      unfold spaced? at h
      dsimp only at h
      split at h
      · refine List.IsSuffix.trans ?_ (List.suffix_cons d t)
        split at h
        · exact ih h
        · exact (ih h).trans (List.dropWhile_suffix _)
      · cases h

theorem commentEnd?_suffix {t rest : Text} (h : commentEnd? t = some rest) : rest <:+ t := by
  unfold commentEnd? at h
  split at h
  · exact (spaced?_suffix h).trans (List.suffix_cons ..)
  · cases h

theorem skipSeparators_suffix (t : Text) : skipSeparators t <:+ t := by
  induction t with
  | nil => exact List.suffix_refl _
  | cons c t ih =>
    rw [skipSeparators]
    split
    · exact ih.trans (List.suffix_cons c t)
    · exact List.suffix_refl _

theorem dropSemicolon_suffix (t : Text) : dropSemicolon t <:+ t := by
  unfold dropSemicolon
  split
  · exact List.suffix_cons ..
  · exact List.suffix_refl _

/-! ## Attributes -/

/-- A bare value and what is behind it are pieces of the text. -/
theorem bareValue_pieces (t : Text) :
    (bareValue t).text <:+: t ∧ (bareValue t).rest <:+ t := by
  rw [bareValue, List.span_eq_takeWhile_dropWhile]
  exact ⟨(List.takeWhile_prefix _).isInfix, List.dropWhile_suffix _⟩

/-- An equals sign stands in front of what follows some of them. -/
theorem cons_drop_signs_suffix {t : Text} (h : 0 < (t.takeWhile (· = '=')).length) :
    '=' :: t.drop (t.takeWhile (· = '=')).length <:+ t := by
  have hne : t.takeWhile (· = '=') ≠ [] := List.ne_nil_of_length_pos h
  have hlast : (t.takeWhile (· = '=')).getLast hne = '=' := by
    simpa using List.mem_takeWhile_imp (List.getLast_mem hne)
  have hcut : t.takeWhile (· = '=') ++ t.drop (t.takeWhile (· = '=')).length = t :=
    List.prefix_iff_eq_append.mp (List.takeWhile_prefix _)
  refine ⟨(t.takeWhile (· = '=')).dropLast, ?_⟩
  calc (t.takeWhile (· = '=')).dropLast ++ '=' :: t.drop (t.takeWhile (· = '=')).length
      = ((t.takeWhile (· = '=')).dropLast ++ [(t.takeWhile (· = '=')).getLast hne]) ++
          t.drop (t.takeWhile (· = '=')).length := by simp [hlast]
    _ = t := by rw [List.dropLast_concat_getLast, hcut]

/-- A value and what is behind it are pieces of the text. -/
theorem attributeValue?_pieces {t : Text} {w : WrittenValue} (h : attributeValue? t = some w) :
    w.text <:+: t ∧ w.rest <:+ t := by
  unfold attributeValue? at h
  dsimp only at h
  have hblanks : trimLeft t <:+ t := List.dropWhile_suffix _
  have hbare : ∀ {u : Text}, u <:+ t → (bareValue u).text <:+: t ∧ (bareValue u).rest <:+ t :=
    fun hu => ⟨(bareValue_pieces _).1.trans hu.isInfix, (bareValue_pieces _).2.trans hu⟩
  split at h
  · cases h
  · rename_i hsigns
    have hafter : (trimLeft t).drop ((trimLeft t).takeWhile (· = '=')).length <:+ t :=
      (List.drop_suffix ..).trans hblanks
    -- Without blanks in between, the last equals sign is right in front of the start.
    have hsecond : '=' :: (trimLeft t).drop ((trimLeft t).takeWhile (· = '=')).length <:+ t := by
      refine (cons_drop_signs_suffix ?_).trans hblanks
      simpa [List.length_pos_iff, List.isEmpty_iff] using hsigns
    generalize (trimLeft t).drop ((trimLeft t).takeWhile (· = '=')).length = afterSigns at *
    have hstart := (List.drop_suffix (afterSigns.takeWhile isBlank).length afterSigns).trans hafter
    have hnone : (afterSigns.takeWhile isBlank).isEmpty = true →
        afterSigns.drop (afterSigns.takeWhile isBlank).length = afterSigns := fun hempty => by
      rw [List.isEmpty_iff.mp hempty]
      rfl
    generalize afterSigns.drop (afterSigns.takeWhile isBlank).length = start at *
    split at h
    · rename_i c body
      have hbody : body <:+ t := (List.suffix_cons c body).trans hstart
      split at h
      · split at h
        · rename_i inside behind hquoted
          obtain rfl := Option.some.inj h
          obtain rfl := through_eq_some hquoted
          exact ⟨(List.prefix_append inside _).isInfix.trans hbody.isInfix,
            ((List.suffix_cons c behind).trans (List.suffix_append ..)).trans hbody⟩
        · split at h
          · obtain rfl := Option.some.inj h
            exact ⟨List.nil_infix, hstart⟩
          · rename_i hblank
            split at h
            · obtain rfl := Option.some.inj h
              rw [hnone (by simpa using hblank)]
              exact hbare hsecond
            · cases h
      · obtain rfl := Option.some.inj h
        exact hbare hstart
    · obtain rfl := Option.some.inj h
      exact ⟨List.nil_infix, List.nil_suffix⟩

/-- The values of attributes are pieces of the text, and what is behind them is its end. -/
theorem attributes_pieces (bound : Text) (before : Char) (t : Text) :
    (∀ entry ∈ (attributes bound before t).1, entry.2 <:+: t) ∧
      (attributes bound before t).2 <:+ t := by
  induction bound generalizing before t with
  | nil => exact ⟨by simp [attributes], List.suffix_refl t⟩
  | cons _ bound ih =>
    cases t with
    | nil => exact ⟨by simp [attributes], List.suffix_refl []⟩
    | cons c rest =>
      rw [attributes]
      split
      · dsimp only
        generalize rest.takeWhile (fun d => !(isBlank d || d = '/' || d = '=' || d = '>')) = run
        have hafter : (c :: rest).drop (c :: run).length <:+ c :: rest := List.drop_suffix ..
        generalize (c :: rest).drop (c :: run).length = afterName at hafter ⊢
        have hvalue : ((attributeValue? afterName).getD
              ⟨[], (c :: run).getLastD c, afterName⟩).text <:+: c :: rest ∧
            ((attributeValue? afterName).getD
              ⟨[], (c :: run).getLastD c, afterName⟩).rest <:+ c :: rest := by
          cases hfound : attributeValue? afterName with
          | none => exact ⟨List.nil_infix, hafter⟩
          | some w =>
            obtain ⟨htext, hrest⟩ := attributeValue?_pieces hfound
            exact ⟨htext.trans hafter.isInfix, hrest.trans hafter⟩
        generalize (attributeValue? afterName).getD ⟨[], (c :: run).getLastD c, afterName⟩ = value
          at hvalue ⊢
        have hothers := (skipSeparators_suffix value.rest).trans hvalue.2
        obtain ⟨hvalues, hfinal⟩ :=
          ih (beforeNext value.last value.rest) (skipSeparators value.rest)
        refine ⟨List.forall_mem_cons.mpr ⟨hvalue.1, fun entry hentry => ?_⟩, hfinal.trans hothers⟩
        exact (hvalues entry hentry).trans hothers.isInfix
      · exact ⟨by simp, List.suffix_refl _⟩

/-! ## Accounts -/

/-- The length of the character data among tokens. -/
def dataLength : List Token → Nat
  | [] => 0
  | .data t :: others => t.length + dataLength others
  | _ :: others => dataLength others

theorem dataLength_append (tokens others : List Token) :
    dataLength (tokens ++ others) = dataLength tokens + dataLength others := by
  induction tokens with
  | nil => simp [dataLength]
  | cons token tokens ih => cases token <;> simp [dataLength, ih, Nat.add_assoc]

/-- Tokens were read off a text: what is left is its end, and their data is no longer than the part
in front of it. -/
structure ReadOff (t : Text) (tokens : List Token) (rest : Text) : Prop where
  /-- What is left is the end of the text. -/
  ends : rest <:+ t
  /-- The data fits in front of it. -/
  fits : dataLength tokens + rest.length ≤ t.length

/-- A result accounts for the text that it was read off: it is of the expected sort, or the markup
is rejected, or a numeral is refused that the text holds. -/
def Accounts {α : Type} (t : Text) (p : α → Prop) : Except Malformed α → Prop
  | .ok a => p a
  | .error .rejected => True
  | .error (.longNumeral n) => HoldsLong t n

/-- A reading accounts for a text by its tokens. -/
def Reading.IsOff (t : Text) : Reading → Prop
  | .complete tokens rest _ => ReadOff t tokens rest
  | .incomplete => True

/-- A move accounts for a text by its tokens. -/
def Move.IsOff (t : Text) : Move → Prop
  | .advance tokens rest _ => ReadOff t tokens rest
  | .halt tokens rest => ReadOff t tokens rest

namespace ReadOff

variable {t u rest : Text} {tokens : List Token}

/-- Tokens without data are read off any text in front of its end. -/
theorem silent (hrest : rest <:+ t) (htokens : dataLength tokens = 0) : ReadOff t tokens rest :=
  ⟨hrest, by rw [htokens, Nat.zero_add]; exact hrest.length_le⟩

/-- Data that was cut off a text. -/
theorem cut (data rest : Text) : ReadOff (data ++ rest) [.data data] rest :=
  ⟨List.suffix_append .., by simp [dataLength]⟩

/-- One character that was read for at least one. -/
theorem character (hrest : rest <:+ t) (c d : Char) : ReadOff (c :: t) [.data [d]] rest := by
  refine ⟨hrest.trans (List.suffix_cons c t), ?_⟩
  have hlength := hrest.length_le
  simp only [dataLength, List.length_cons, List.length_nil]
  omega

/-- A text in front of which more was read. -/
theorem behind (h : ReadOff t tokens rest) (hut : t <:+ u) : ReadOff u tokens rest :=
  ⟨h.ends.trans hut, h.fits.trans hut.length_le⟩

/-- Tokens read one after another. -/
theorem append {others : List Token} {middle : Text} (h : ReadOff t tokens middle)
    (hothers : ReadOff middle others rest) : ReadOff t (tokens ++ others) rest := by
  refine ⟨hothers.ends.trans h.ends, ?_⟩
  have hfirst := h.fits
  have hsecond := hothers.fits
  rw [dataLength_append]
  omega

end ReadOff

/-- What accounts for a text accounts for any text that it is a piece of. -/
theorem Accounts.imp {α : Type} {t u : Text} {p q : α → Prop} {r : Except Malformed α}
    (h : Accounts t p r) (htu : t <:+: u) (hpq : ∀ a, p a → q a) : Accounts u q r := by
  cases r with
  | ok a => exact hpq a h
  | error e =>
    cases e with
    | rejected => trivial
    | longNumeral n => exact HoldsLong.of_piece h htu

/-- A result that is worked on accounts for its text. -/
theorem Accounts.map {α β : Type} {t : Text} {p : α → Prop} {q : β → Prop} {f : α → β}
    {r : Except Malformed α} (h : Accounts t p r) (hpq : ∀ a, p a → q (f a)) :
    Accounts t q (r.map f) := by
  cases r with
  | ok a => exact hpq a h
  | error e => cases e <;> exact h

/-! ## Tags -/

/-- References in values are refused only for a numeral in one of them. -/
theorem resolveValues_accounts {t : Text} {raw : List (Text × Text)}
    (h : ∀ entry ∈ raw, entry.2 <:+: t) : Accounts t (fun _ => True) (resolveValues raw) := by
  induction raw with
  | nil => trivial
  | cons entry others ih =>
    obtain ⟨hvalue, hothers⟩ := List.forall_mem_cons.mp h
    rw [resolveValues]
    split
    · rename_i e he
      exact (holdsLong_of_resolveFrom he).of_piece hvalue
    · exact (ih hothers).map fun _ _ => trivial

/-- A start tag accounts for its text. -/
theorem readOpening_accounts (t : Text) :
    Accounts ('<' :: t) (Reading.IsOff ('<' :: t)) (readOpening t) := by
  unfold readOpening
  dsimp only
  obtain ⟨hvalues, hrest⟩ := attributes_pieces t
    (beforeNext ((t.takeWhile isTagChar).getLastD '<') (t.drop (t.takeWhile isTagChar).length))
    (skipSeparators (t.drop (t.takeWhile isTagChar).length))
  generalize attributes t
    (beforeNext ((t.takeWhile isTagChar).getLastD '<') (t.drop (t.takeWhile isTagChar).length))
    (skipSeparators (t.drop (t.takeWhile isTagChar).length)) = found at hvalues hrest ⊢
  obtain ⟨raw, rest⟩ := found
  dsimp only at hvalues hrest ⊢
  have hname : skipSeparators (t.drop (t.takeWhile isTagChar).length) <:+ t :=
    (skipSeparators_suffix _).trans (List.drop_suffix ..)
  replace hrest : rest <:+ t := hrest.trans hname
  have hresolved : Accounts ('<' :: t) (fun _ => True) (resolveValues raw) := by
    refine resolveValues_accounts fun entry hentry => ?_
    exact ((hvalues entry hentry).trans hname.isInfix).trans (List.suffix_cons '<' t).isInfix
  have hbehind := hrest.trans (List.suffix_cons '<' t)
  split
  · trivial
  · exact hresolved.map fun _ _ => .silent ((List.suffix_cons ..).trans hbehind) rfl
  · exact hresolved.map fun _ _ =>
      .silent (((List.suffix_cons ..).trans (List.suffix_cons ..)).trans hbehind) rfl
  · split
    · trivial
    · refine hresolved.map fun _ _ => ⟨hbehind, ?_⟩
      have hlength := hrest.length_le
      simp only [dataLength, List.length_cons, List.length_take] at *
      omega

theorem strictEnd?_suffix {t name behind : Text} (h : strictEnd? t = some (name, behind)) :
    behind <:+ t := by
  unfold strictEnd? at h
  split at h
  · rename_i c rest heq
    split at h
    · dsimp only at h
      split at h
      · rename_i found hfound
        obtain ⟨-, rfl⟩ := Prod.mk.inj (Option.some.inj h)
        have hrest : c :: rest <:+ t := heq ▸ List.dropWhile_suffix _
        have hfound : '>' :: found <:+ rest :=
          hfound ▸ (List.dropWhile_suffix _).trans (List.dropWhile_suffix _)
        exact ((List.suffix_cons ..).trans hfound).trans ((List.suffix_cons ..).trans hrest)
      · cases h
    · cases h
  · cases h

/-- An end tag accounts for its text. -/
theorem readClosing_isOff (raw : Option Text) (t : Text) :
    Reading.IsOff ('<' :: '/' :: t) (readClosing raw t) := by
  unfold readClosing
  split
  · trivial
  · rename_i inside behind hthrough
    obtain rfl := through_eq_some hthrough
    have hdata : ReadOff ('<' :: '/' :: (inside ++ '>' :: behind))
        [.data ('<' :: '/' :: inside ++ ['>'])] behind := by
      simpa using ReadOff.cut ('<' :: '/' :: inside ++ ['>']) behind
    have hbehind : behind <:+ '<' :: '/' :: (inside ++ '>' :: behind) := hdata.ends
    have hstrict : ∀ {name found : Text},
        strictEnd? (inside ++ '>' :: behind) = some (name, found) →
          found <:+ '<' :: '/' :: (inside ++ '>' :: behind) := fun h =>
      (strictEnd?_suffix h).trans ((List.suffix_cons ..).trans (List.suffix_cons ..))
    dsimp only
    split
    · exact .silent (hstrict ‹_›) rfl
    · split
      · exact .silent (hstrict ‹_›) rfl
      · exact hdata
    · exact hdata
    · split
      · exact .silent hbehind rfl
      · split
        · exact .silent hbehind rfl
        · exact .silent hbehind rfl
      · trivial

/-! ## Markup -/

/-- A token without data that reaches up to a closing piece accounts for its text. -/
theorem upTo_isOff {found : Option (Text × Text)} {token : Text → Token} {t : Text}
    (hfound : ∀ {inside behind : Text}, found = some (inside, behind) → behind <:+ t)
    (htoken : ∀ inside, dataLength [token inside] = 0) : Reading.IsOff t (upTo found token) := by
  unfold upTo
  split
  · exact .silent (hfound rfl) (htoken _)
  · trivial

/-- A marked section accounts for its text. -/
theorem readMarked_accounts (t : Text) : Accounts t (Reading.IsOff t) (readMarked t) := by
  unfold readMarked
  split
  · trivial
  · dsimp only
    split
    · trivial
    · split
      · trivial
      · split
        · exact upTo_isOff (seek_suffix spaced?_suffix) fun _ => rfl
        · split
          · exact upTo_isOff (seek_suffix spaced?_suffix) fun _ => rfl
          · trivial

/-- A reading accounts for any text that ends with the one that it was read off. -/
theorem Reading.IsOff.behind {r : Reading} {t u : Text} (h : r.IsOff t) (htu : t <:+ u) :
    r.IsOff u := by
  cases r with
  | complete tokens rest raw => exact ReadOff.behind h htu
  | incomplete => trivial

/-- A declaration accounts for its text. -/
theorem readDeclaration_accounts (t : Text) :
    Accounts t (Reading.IsOff t) (readDeclaration t) := by
  unfold readDeclaration
  split
  · rename_i rest
    exact (upTo_isOff (seek_suffix commentEnd?_suffix) fun _ => rfl).behind
      ((List.suffix_cons ..).trans (List.suffix_cons ..))
  · rename_i rest
    exact (readMarked_accounts rest).imp (List.suffix_cons '[' rest).isInfix
      fun _ hr => hr.behind (List.suffix_cons '[' rest)
  · split
    · exact upTo_isOff through_suffix fun _ => rfl
    · exact upTo_isOff through_suffix fun _ => rfl

/-- What begins with a less-than sign accounts for its text. -/
theorem readMarkup_accounts (raw : Option Text) (t : Text) :
    Accounts ('<' :: t) (Reading.IsOff ('<' :: t)) (readMarkup raw t) := by
  unfold readMarkup
  split
  · trivial
  · exact readClosing_isOff raw _
  · rename_i rest
    have hrest := (List.suffix_cons '!' rest).trans (List.suffix_cons '<' _)
    exact (readDeclaration_accounts rest).imp hrest.isInfix fun _ hr => hr.behind hrest
  · rename_i rest
    have hrest := (List.suffix_cons '?' rest).trans (List.suffix_cons '<' _)
    exact (upTo_isOff through_suffix fun _ => rfl).behind hrest
  · split
    · exact readOpening_accounts _
    · exact ReadOff.cut ['<'] _

/-! ## References -/

/-- No name stands for more than two characters. -/
theorem length_named?_le {name text : Text} (h : named? name = some text) : text.length ≤ 2 := by
  have htable : ∀ group ∈ names, ∀ entry ∈ group.2, entry.2.toList.length ≤ 2 := by
    decide +kernel
  unfold named? at h
  split at h
  · cases h
  · obtain ⟨group, hgroup, hentry⟩ := Option.bind_eq_some_iff.mp h
    obtain ⟨entry, hfound, rfl⟩ := Option.map_eq_some_iff.mp hentry
    obtain ⟨before, after, hnames, -⟩ := List.lookup_eq_some_iff.mp hgroup
    exact htable _ (hnames ▸ List.mem_append_right before List.mem_cons_self) entry
      (List.mem_of_find?_eq_some hfound)

/-- The name of an entity is filled, and the text has room for it. -/
theorem entityName?_length {t name : Text} (h : entityName? t = some name) :
    0 < name.length ∧ name.length ≤ t.length := by
  unfold entityName? at h
  split at h
  · rename_i c rest
    dsimp only at h
    generalize (fun d : Char => isLetter d || d.isDigit || d = '-' || d = '.') = isPart at h
    have hrun : (rest.takeWhile isPart).length ≤ rest.length :=
      (List.takeWhile_sublist isPart).length_le
    split at h
    · split at h
      · obtain rfl := Option.some.inj h
        exact ⟨Nat.succ_pos _, Nat.succ_le_succ hrun⟩
      · rename_i mark front _ hfront
        obtain rfl := Option.some.inj h
        have hsuffix : mark :: front <:+ (rest.takeWhile isPart).reverse :=
          hfront ▸ List.dropWhile_suffix _
        have hlength := hsuffix.length_le
        simp only [List.length_cons, List.length_reverse] at hlength ⊢
        omega
      · cases h
    · cases h
  · cases h

/-- A numeric reference ends in the text; decimal digits are the ones in front of it. -/
theorem numericReference?_pieces {t digits behind : Text} {hex : Bool}
    (h : numericReference? t = some (hex, digits, behind)) :
    behind <:+ t ∧ (hex = false → digits = t.takeWhile Char.isDigit) := by
  unfold numericReference? at h
  split at h
  · rename_i c rest
    dsimp only at h
    split at h
    · split at h
      · split at h
        · cases h
        · obtain ⟨rfl, -, rfl⟩ : true = hex ∧ _ = digits ∧ _ = behind := by simpa using h
          have hdigits := List.dropWhile_suffix (l := rest) isHexDigit
          refine ⟨?_, fun hhex => absurd hhex (by decide)⟩
          exact (dropSemicolon_suffix _).trans (hdigits.trans (List.suffix_cons c rest))
      · cases h
    · split at h
      · split at h
        · cases h
        · obtain ⟨-, rfl, rfl⟩ : false = hex ∧ _ = digits ∧ _ = behind := by simpa using h
          exact ⟨(dropSemicolon_suffix _).trans (List.dropWhile_suffix _), fun _ => rfl⟩
      · cases h
  · cases h

/-- A reference accounts for its text. -/
theorem readReference_accounts (final : Bool) (t : Text) :
    Accounts ('&' :: t) (Move.IsOff ('&' :: t)) (readReference stray final t) := by
  have hself : ReadOff ('&' :: t) [] ('&' :: t) := .silent (List.suffix_refl _) rfl
  have hbehind : t <:+ '&' :: t := List.suffix_cons '&' t
  unfold readReference
  split
  · rename_i rest
    have hrest : rest <:+ '&' :: '#' :: rest := (List.suffix_cons ..).trans hbehind
    split
    · rename_i digits behind hnumeric
      have hend := (numericReference?_pieces hnumeric).1.trans (List.suffix_cons '#' rest)
      exact ReadOff.character hend '&' _
    · rename_i digits behind hnumeric
      obtain ⟨hend, hdigits⟩ := numericReference?_pieces hnumeric
      replace hend := hend.trans (List.suffix_cons '#' rest)
      split
      · rename_i e he
        rw [hdigits rfl] at he
        exact holdsLong_of_decimal he
      · exact ReadOff.character hend '&' _
    · split
      · exact ReadOff.cut ['&', '#'] rest
      · exact hself
  · split
    · rename_i name hname
      obtain ⟨hfilled, hroom⟩ := entityName?_length hname
      have hrest := dropSemicolon_suffix (t.drop name.length)
      refine ⟨(hrest.trans (List.drop_suffix ..)).trans hbehind, ?_⟩
      have hdata : ((named? name).getD ('&' :: name)).length ≤ name.length + 1 := by
        cases hnamed : named? name with
        | none => exact Nat.le_refl _
        | some text => exact (length_named?_le hnamed).trans (by omega)
      have hlength := hrest.length_le
      simp only [dataLength, List.length_cons, List.length_drop] at *
      omega
    · split
      · exact hself
      · rename_i c rest
        split
        · show ReadOff _ [] _
          split
          · exact .silent hbehind rfl
          · exact hself
        · exact ReadOff.cut ['&'] _

/-! ## Moves -/

/-- An incomplete construct that is taken as data accounts for its text. -/
theorem asData_isOff (raw : Option Text) (t : Text) : Move.IsOff ('<' :: t) (asData raw t) := by
  unfold asData
  split
  · rename_i inside behind hthrough
    rw [through_eq_some hthrough]
    show ReadOff _ _ _
    simpa using ReadOff.cut ('<' :: inside ++ ['>']) behind
  · split
    · have h := ReadOff.cut ('<' :: t.takeWhile (· != '<')) (t.dropWhile (· != '<'))
      rwa [List.cons_append, List.takeWhile_append_dropWhile] at h
    · exact ReadOff.cut ['<'] t

/-- A move at a less-than sign accounts for its text. -/
theorem moveAtMarkup_accounts (final : Bool) (raw : Option Text) (t : Text) :
    Accounts ('<' :: t) (Move.IsOff ('<' :: t)) (moveAtMarkup final raw t) := by
  have hself : ReadOff ('<' :: t) [] ('<' :: t) := .silent (List.suffix_refl _) rfl
  unfold moveAtMarkup
  split
  · exact hself
  · refine (readMarkup_accounts raw t).map fun reading hreading => ?_
    cases reading with
    | complete tokens rest behind => exact hreading
    | incomplete =>
      cases final with
      | true => exact asData_isOff raw t
      | false => exact hself

/-- The data in front of the next construct is the front of the text. -/
theorem dataBefore_append {raw : Option Text} {t chunk : Text}
    (h : dataBefore raw t = some chunk) : chunk ++ t.drop chunk.length = t := by
  refine List.prefix_iff_eq_append.mp ?_
  cases raw with
  | none => exact Option.some.inj h ▸ List.takeWhile_prefix _
  | some name =>
    obtain ⟨⟨inside, rest⟩, hseek, rfl⟩ := Option.map_eq_some_iff.mp h
    obtain ⟨u, rfl, -⟩ := seek_eq_some hseek
    exact List.prefix_append inside u

/-- Every move accounts for its text. -/
theorem move_accounts (final : Bool) (raw : Option Text) (t : Text) :
    Accounts t (Move.IsOff t) (move stray final raw t) := by
  have hself : ReadOff t [] t := .silent (List.suffix_refl t) rfl
  unfold move
  split
  · exact hself
  · split
    · exact moveAtMarkup_accounts final raw _
    · exact readReference_accounts stray final _
    · exact hself
  · rename_i chunk _ hchunk
    have h := ReadOff.cut chunk (t.drop chunk.length)
    rwa [dataBefore_append hchunk] at h

/-! ## Whole texts -/

/-- A pass accounts for its text, however many moves it makes. -/
theorem pass_accounts (final : Bool) (fuel : Nat) (raw : Option Text) (t : Text) :
    Accounts t (fun p => ReadOff t p.tokens p.rest) (pass stray final fuel raw t) := by
  induction fuel generalizing raw t with
  | zero => exact .silent (List.suffix_refl t) rfl
  | succ fuel ih =>
    have hmove := move_accounts stray final raw t
    rw [pass]
    split
    · rename_i e he
      rw [he] at hmove
      cases e <;> exact hmove
    · rename_i tokens rest he
      rw [he] at hmove
      exact hmove
    · rename_i tokens rest behind he
      rw [he] at hmove
      have hread : ReadOff t tokens rest := hmove
      exact ((ih behind rest).imp hread.ends.isInfix fun _ h => h).map fun _ h => hread.append h

/-- A markup text accounts for its tokens: their data is no longer than the text. -/
theorem scan_accounts (t : Text) :
    Accounts t (fun tokens => dataLength tokens ≤ t.length) (scan stray t) := by
  have hfirst := pass_accounts stray false (t.length + 1) none t
  rw [scan]
  split
  · rename_i e he
    rw [he] at hfirst
    cases e <;> exact hfirst
  · rename_i first he
    rw [he] at hfirst
    replace hfirst : ReadOff t first.tokens first.rest := hfirst
    have hsecond := (pass_accounts stray true (first.rest.length + 1) first.raw first.rest).imp
      hfirst.ends.isInfix fun _ h => h
    split
    · rename_i e he
      rw [he] at hsecond
      cases e <;> exact hsecond
    · rename_i second he
      rw [he] at hsecond
      have hboth := (hfirst.append hsecond).fits
      have hleft : dataLength (if second.rest.isEmpty || second.raw.isSome then []
          else [.data second.rest]) ≤ second.rest.length := by
        split
        · exact Nat.zero_le _
        · exact Nat.le_refl _
      show dataLength (_ ++ _ ++ _) ≤ _
      rw [dataLength_append]
      omega

end PageMarkdown.Html.Token
