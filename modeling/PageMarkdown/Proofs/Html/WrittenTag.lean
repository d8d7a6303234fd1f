import Mathlib.Data.List.Chain
import PageMarkdown.Proofs.Html.Rereading
import PageMarkdown.Proofs.Text.Replace

/-!
# Written tags are read

A start tag is written as its name and its attributes, each with a value between
quotes that do not occur in it. Reading it takes each name and each value to its
end, and no value holds a numeral that could be refused; so the tag is read as a
start tag of the same name. An end tag is read as one.
-/

namespace PageMarkdown.Html.Token

open Text

/-! ## Values -/

/-- An ampersand is not in front of a number sign. -/
def IsUnnumbered (t : Text) : Prop := t.IsChain fun a b => a = '&' → b ≠ '#'

/-- What has no numeral is never refused. -/
theorem IsUnnumbered.exists_resolved {t : Text} (h : IsUnnumbered t) :
    ∃ value, Reference.resolveAll t = .ok value := by
  have hnone : Reference.refusal? t = none := by
    refine (Reference.refusal?_eq_none_iff t).mpr fun n hn => ?_
    obtain ⟨before, digits, after, rfl, -⟩ := hn
    have hsigns := (List.isChain_append.mp h).2.1
    exact (List.isChain_cons_cons.mp hsigns).1 rfl rfl
  rw [Reference.refusal?] at hnone
  split at hnone
  · exact ⟨_, ‹_›⟩
  · cases hnone

/-- Pieces without numerals that do not end with an ampersand join to a text without numerals. -/
theorem isUnnumbered_flatMap {f : Char → Text}
    (h : ∀ c, IsUnnumbered (f c) ∧ (f c).getLast? ≠ some '&') (t : Text) :
    IsUnnumbered (t.flatMap f) := by
  induction t with
  | nil => exact List.isChain_nil
  | cons c t ih =>
    obtain ⟨hpiece, hlast⟩ := h c
    rw [List.flatMap_cons]
    refine List.isChain_append.mpr ⟨hpiece, ih, fun a ha b _ hamp => ?_⟩
    exact absurd (hamp ▸ ha) hlast

/-- A character that is escaped, with double quotes spelled or not, has no numeral. -/
theorem isUnnumbered_escape_singleton (c : Char) :
    (IsUnnumbered (escape [c]) ∧ (escape [c]).getLast? ≠ some '&') ∧
      IsUnnumbered (replace '"' "&quot;".toList (escape [c])) ∧
        (replace '"' "&quot;".toList (escape [c])).getLast? ≠ some '&' := by
  cases hc : isReserved c with
  | true =>
    simp only [isReserved, Bool.or_eq_true, decide_eq_true_eq] at hc
    rcases hc with (rfl | rfl) | rfl <;> unfold IsUnnumbered <;> decide
  | false =>
    have hamp : c ≠ '&' := by
      rintro rfl
      exact absurd hc (by decide)
    have hsame : escape [c] = [c] := escape_cons_plain hc []
    rw [hsame]
    refine ⟨⟨List.isChain_singleton c, by simpa using hamp⟩, ?_⟩
    by_cases hquote : c = '"'
    · rw [hquote]
      unfold IsUnnumbered
      decide
    · rw [replace_cons_of_ne hquote, replace_nil]
      exact ⟨List.isChain_singleton c, by simpa using hamp⟩

theorem escape_eq_flatMap (t : Text) : escape t = t.flatMap fun c => escape [c] := by
  induction t with
  | nil => rfl
  | cons c t ih => rw [escape_cons, ih, List.flatMap_cons]

/-- Escaped text has no numerals, with double quotes spelled or not. -/
theorem isUnnumbered_escape (t : Text) :
    IsUnnumbered (escape t) ∧ IsUnnumbered (replace '"' "&quot;".toList (escape t)) := by
  rw [escape_eq_flatMap]
  refine ⟨isUnnumbered_flatMap (fun c => (isUnnumbered_escape_singleton c).1) t, ?_⟩
  rw [replace, List.flatMap_assoc]
  exact isUnnumbered_flatMap (fun c => (isUnnumbered_escape_singleton c).2) t

/-- A value is written between quotes that do not occur in it, and is never refused. -/
theorem exists_quoted (t : Text) :
    ∃ q inside, quoteValue t = q :: inside ++ [q] ∧ (q = '"' ∨ q = '\'') ∧ q ∉ inside ∧
      ∃ value, Reference.resolveAll inside = .ok value := by
  obtain ⟨hescaped, hspelled⟩ := isUnnumbered_escape t
  have hnone : '"' ∉ replace '"' "&quot;".toList (escape t) := fun hmem =>
    ((mem_replace_of_not_mem (by decide)).mp hmem).1 rfl
  unfold quoteValue
  dsimp only
  split
  · split
    · exact ⟨'"', _, rfl, .inl rfl, hnone, hspelled.exists_resolved⟩
    · rename_i hsingle
      exact ⟨'\'', _, rfl, .inr rfl, by simpa using hsingle, hescaped.exists_resolved⟩
  · rename_i hdouble
    exact ⟨'"', _, rfl, .inl rfl, by simpa using hdouble, hescaped.exists_resolved⟩

/-- A value between quotes is read behind its equals sign. -/
theorem attributeValue?_quoted {q : Char} {inside : Text} (hq : q = '"' ∨ q = '\'')
    (h : q ∉ inside) (rest : Text) :
    attributeValue? ('=' :: q :: (inside ++ q :: rest)) = some ⟨inside, q, rest⟩ := by
  have hthrough := through_append h rest
  have hblank : isBlank '=' = false := by decide
  have hsolid : isBlank q = false := by rcases hq with rfl | rfl <;> decide
  have hother : q ≠ '=' := by rcases hq with rfl | rfl <;> decide
  simp [attributeValue?, trimLeft, hblank, hsolid, hother, hq, hthrough]

/-! ## Attributes -/

/-- Attributes as they are written, each behind a space and with its value between quotes. -/
def entriesMarkup (entries : List (Text × Text)) : Text :=
  entries.flatMap fun entry => ' ' :: entry.1 ++ '=' :: quoteValue entry.2

/-- The end of a tag, in front of what follows it. -/
def IsTagEnd (tail : Text) : Prop := ∃ rest, tail = '>' :: rest ∨ tail = '/' :: '>' :: rest

/-- Each attribute takes at least one character. -/
theorem length_le_length_entriesMarkup (entries : List (Text × Text)) :
    entries.length ≤ (entriesMarkup entries).length := by
  induction entries with
  | nil => exact Nat.le_refl 0
  | cons entry entries ih =>
    rw [entriesMarkup, List.flatMap_cons, List.length_append, List.length_cons]
    rw [entriesMarkup] at ih
    simp only [List.length_cons, List.length_append]
    omega

/-- At the end of a tag nothing is skipped and no attribute is read. -/
theorem attributes_tagEnd {tail : Text} (h : IsTagEnd tail) (bound : Text) (last : Char) :
    attributes bound (beforeNext last tail) (skipSeparators tail) = ([], tail) := by
  have hskip : skipSeparators tail = tail := by
    obtain ⟨rest, rfl | rfl⟩ := h <;> rfl
  rw [hskip]
  cases bound with
  | nil => rfl
  | cons b bound =>
    obtain ⟨rest, rfl | rfl⟩ := h <;> simp [attributes, opensAttribute]

/-- A written attribute is read, up to what is written behind it. -/
theorem attributes_entry {key : Text} (hkey : IsKey key) {q : Char} {inside : Text}
    (hq : q = '"' ∨ q = '\'') (hinside : q ∉ inside) (b last : Char) (bound rest : Text) :
    attributes (b :: bound) (beforeNext last (' ' :: key ++ '=' :: q :: (inside ++ q :: rest)))
        (skipSeparators (' ' :: key ++ '=' :: q :: (inside ++ q :: rest))) =
      ((lower key, inside) :: (attributes bound (beforeNext q rest) (skipSeparators rest)).1,
        (attributes bound (beforeNext q rest) (skipSeparators rest)).2) := by
  obtain ⟨hfilled, hunbroken, hassigned⟩ := hkey
  obtain ⟨c, name, rfl⟩ := List.exists_cons_of_ne_nil hfilled
  obtain ⟨hc, hname⟩ := List.forall_mem_cons.mp hunbroken
  have hblank : isBlank c = false ∧ c ≠ '/' := by
    simp only [Bool.or_eq_false_iff, decide_eq_false_iff_not] at hc
    exact hc.1
  have hskip : ∀ u, skipSeparators (' ' :: c :: u) = c :: u := by
    intro u
    have hspace : isBlank ' ' = true := by decide
    simp [skipSeparators, hspace, hblank]
  have hopens : opensAttribute ' ' c = true := by
    have hspace : isBlank ' ' = true := by decide
    simp [opensAttribute, hspace, hc]
  have hrun : ∀ u, (name ++ '=' :: u).takeWhile
      (fun d => !(isBlank d || d = '/' || d = '=' || d = '>')) = name := by
    intro u
    rw [List.takeWhile_append_of_pos, List.takeWhile_cons_of_neg (by simp), List.append_nil]
    intro d hd
    have hequals : d ≠ '=' := by
      rintro rfl
      exact hassigned hd
    have hbroken := hname d hd
    simp only [Bool.or_eq_false_iff] at hbroken
    simp [hbroken, hequals]
  rw [List.cons_append, List.cons_append, hskip]
  show attributes (b :: bound) ' ' _ = _
  rw [attributes, if_pos hopens, hrun]
  have hdrop : ∀ u : Text, (c :: (name ++ u)).drop (c :: name).length = u := by simp
  simp only [hdrop, attributeValue?_quoted hq hinside rest, Option.getD_some]

/-- Written attributes are read up to the end of the tag, and no value is refused. -/
theorem attributes_written {entries : List (Text × Text)} (hkeys : ∀ entry ∈ entries, IsKey entry.1)
    {tail : Text} (htail : IsTagEnd tail) {bound : Text} (hbound : entries.length ≤ bound.length)
    (last : Char) :
    ∃ raw values, attributes bound (beforeNext last (entriesMarkup entries ++ tail))
        (skipSeparators (entriesMarkup entries ++ tail)) = (raw, tail) ∧
      resolveValues raw = .ok values := by
  induction entries generalizing bound last with
  | nil => exact ⟨[], [], attributes_tagEnd htail bound last, rfl⟩
  | cons entry entries ih =>
    obtain ⟨hkey, hkeys⟩ := List.forall_mem_cons.mp hkeys
    obtain ⟨q, inside, hquoted, hq, hinside, value, hvalue⟩ := exists_quoted entry.2
    cases bound with
    | nil => exact absurd hbound (by simp)
    | cons b bound =>
      obtain ⟨raw, values, hothers, hresolved⟩ :=
        @ih hkeys bound (Nat.le_of_succ_le_succ hbound) q
      have hcut : entriesMarkup (entry :: entries) ++ tail =
          ' ' :: entry.1 ++ '=' :: q :: (inside ++ q :: (entriesMarkup entries ++ tail)) := by
        simp [entriesMarkup, hquoted]
      refine ⟨(lower entry.1, inside) :: raw, (lower entry.1, value) :: values, ?_, ?_⟩
      · rw [hcut, attributes_entry hkey hq hinside, hothers]
      · rw [resolveValues, hvalue, hresolved]
        rfl

/-! ## Tags -/

/-- How a start tag ends, when it closes its element and when it does not. -/
def tagEnd (closed : Bool) : Text := if closed then ['/', '>'] else ['>']

/-- A name is read up to the character that ends it. -/
theorem IsTagName.takeWhile_append {name : Text} (h : IsTagName name) {u : Text}
    (hu : ∀ c, u.head? = some c → isTagChar c = false) :
    (name ++ u).takeWhile isTagChar = name := by
  have hnone : u.takeWhile isTagChar = [] := by
    cases u with
    | nil => rfl
    | cons c u => exact List.takeWhile_cons_of_neg (by simp [hu c rfl])
  rw [List.takeWhile_append_of_pos h.unbroken, hnone, List.append_nil]

/-- A written start tag is read as one of its name. -/
theorem readOpening_written {name : Text} (hname : IsTagName name) (hplain : isRaw name = false)
    {entries : List (Text × Text)} (hkeys : ∀ entry ∈ entries, IsKey entry.1) (closed : Bool)
    (rest : Text) :
    ∃ values, readOpening (name ++ (entriesMarkup entries ++ (tagEnd closed ++ rest))) =
      .ok (.complete [.opening name values closed] rest none) := by
  have htail : IsTagEnd (tagEnd closed ++ rest) := by
    cases closed with
    | true => exact ⟨rest, .inr rfl⟩
    | false => exact ⟨rest, .inl rfl⟩
  have hend : ∀ c, (entriesMarkup entries ++ (tagEnd closed ++ rest)).head? = some c →
      isTagChar c = false := by
    cases entries with
    | nil => cases closed <;> simp [entriesMarkup, tagEnd] <;> decide
    | cons entry entries => simp [entriesMarkup]; decide
  have hlength : entries.length ≤
      (name ++ (entriesMarkup entries ++ (tagEnd closed ++ rest))).length := by
    have hshorter := length_le_length_entriesMarkup entries
    simp only [List.length_append]
    omega
  obtain ⟨raw, values, hattributes, hresolved⟩ :=
    attributes_written hkeys htail hlength (name.getLastD '<')
  refine ⟨values, ?_⟩
  unfold readOpening
  rw [hname.takeWhile_append hend]
  simp only [List.drop_left, hattributes, hresolved, hname.lowered]
  cases closed with
  | true => rfl
  | false => simp [tagEnd, hplain, Except.map]

/-- What is cut off in front of the end of a tag does not reach beyond it. -/
theorem dropWhile_append_tagEnd {f : Char → Bool} (hf : f '>' = false) (t rest : Text) :
    (t ++ '>' :: rest).dropWhile f = t.dropWhile f ++ '>' :: rest := by
  rw [List.dropWhile_append]
  split
  · rename_i h
    rw [List.isEmpty_iff.mp h, List.dropWhile_cons_of_neg (by simp [hf]), List.nil_append]
  · rfl

/-- Where a written end tag is well formed, it ends where it is written to end. -/
theorem strictEnd?_written {name rest closed behind : Text} (hopen : '>' ∉ name)
    (h : strictEnd? (name ++ '>' :: rest) = some (closed, behind)) : behind = rest := by
  unfold strictEnd? at h
  rw [trimLeft, dropWhile_append_tagEnd (by decide)] at h
  split at h
  · rename_i c t heq
    obtain ⟨hletter, h⟩ := Option.ite_none_right_eq_some.mp h
    have hsuffix : name.dropWhile isBlank <:+ name := List.dropWhile_suffix _
    cases hname : name.dropWhile isBlank with
    | nil =>
      rw [hname] at heq
      obtain rfl := (List.cons.inj heq).1
      exact absurd hletter (by decide)
    | cons d run =>
      rw [hname, List.cons_append] at heq
      rw [hname] at hsuffix
      obtain ⟨-, rfl⟩ := List.cons.inj heq
      dsimp only at h
      rw [trimLeft, dropWhile_append_tagEnd (by decide), dropWhile_append_tagEnd (by decide)] at h
      have hleft : (run.dropWhile isEndTagChar).dropWhile isBlank <:+ name :=
        ((List.dropWhile_suffix _).trans (List.dropWhile_suffix _)).trans
          ((List.suffix_cons d run).trans hsuffix)
      split at h
      · rename_i found hfound
        obtain ⟨-, rfl⟩ := Prod.mk.inj (Option.some.inj h)
        cases hrun : (run.dropWhile isEndTagChar).dropWhile isBlank with
        | nil =>
          rw [hrun] at hfound
          exact (List.cons.inj hfound).2.symm
        | cons e others =>
          rw [hrun] at hfound hleft
          obtain rfl := (List.cons.inj hfound).1
          exact absurd (hleft.subset List.mem_cons_self) hopen
      · cases h
  · cases h

/-- An end tag is read as one. -/
theorem readClosing_written {name : Text} (hname : IsTagName name) (rest : Text) :
    ∃ closed, readClosing none (name ++ '>' :: rest) = .complete [.closing closed] rest none := by
  have hopen : '>' ∉ name := fun hmem => absurd (hname.unbroken '>' hmem) (by decide)
  obtain ⟨⟨c, t, rfl, hletter⟩, -, -⟩ := hname
  have hc : c ≠ '>' := fun h => hopen (h ▸ List.mem_cons_self)
  unfold readClosing
  rw [through_append hopen]
  dsimp only
  cases hstrict : strictEnd? (c :: t ++ '>' :: rest) with
  | some found =>
    obtain ⟨closed, behind⟩ := found
    rw [strictEnd?_written hopen hstrict]
    exact ⟨closed, rfl⟩
  | none =>
    rw [List.cons_append]
    dsimp only
    split
    · rename_i heq
      exact absurd (List.cons.inj heq).1 hc
    · rename_i heq
      obtain ⟨rfl, -⟩ := List.cons.inj heq
      rw [if_pos hletter]
      exact ⟨_, rfl⟩
    · rename_i heq
      cases heq

end PageMarkdown.Html.Token
