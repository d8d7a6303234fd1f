import PageMarkdown.Proofs.Html.Closing
import PageMarkdown.Proofs.Html.Tree

/-!
# Text that opens nothing

A less-than sign need not open a construct. It is data where no construct begins
with the character behind it, and where no greater-than sign comes that could end
one; only the bracket of a marked section is read without its end. A text whose
less-than signs are all of these sorts, and that has no ampersand, is read as data
from its front to its end, and it is the one string of the document that it writes.
-/

namespace PageMarkdown.Html

open Text

variable {stray : Nat → Char}

namespace Token

/-- A character that a construct begins with, behind the less-than sign. -/
def opensConstruct (c : Char) : Bool := isLetter c || c = '/' || c = '!' || c = '?'

/-- A less-than sign in front of the text opens nothing: what it begins is no construct, or has no
end. A marked section is not looked at for its end. -/
def opensNothing : Text → Bool
  | [] => true
  | '!' :: '[' :: _ => false
  | c :: behind => !(opensConstruct c && behind.contains '>')

/-- No less-than sign of the text opens a construct, and no ampersand a reference. -/
def isLoose : Text → Bool
  | [] => true
  | c :: t => c != '&' && (c != '<' || opensNothing t) && isLoose t

/-- The end of a text that opens nothing opens nothing. -/
theorem isLoose_suffix {t u : Text} (h : isLoose t = true) (hut : u <:+ t) : isLoose u = true := by
  obtain ⟨before, rfl⟩ := hut
  induction before with
  | nil => exact h
  | cons c before ih => exact ih (Bool.and_eq_true_iff.mp h).2

/-- A text that opens nothing has no ampersand. -/
theorem ampersand_not_mem {t : Text} (h : isLoose t = true) : '&' ∉ t := by
  intro hmem
  obtain ⟨before, behind, rfl⟩ := List.append_of_mem hmem
  cases isLoose_suffix h (List.suffix_append ..)

/-- A construct that is begun where nothing is opened is not ended. -/
theorem not_mem_of_opensNothing {c : Char} {t : Text} (h : opensNothing (c :: t) = true)
    (hc : opensConstruct c = true) : '>' ∉ t := by
  unfold opensNothing at h
  split at h
  · contradiction
  · cases h
  · rename_i heq
    obtain ⟨rfl, rfl⟩ := List.cons.inj heq
    simpa [hc] using h

/-! ## Readings -/

/-- Tokens are data that was copied off the front of a text. -/
def Copies (t : Text) (tokens : List Token) (rest : Text) : Prop :=
  ∃ pieces : List Text, tokens = pieces.map .data ∧ t = pieces.flatten ++ rest

/-- A reading copies a text, or finds nothing whole. -/
def Reading.Copies (t : Text) : Reading → Prop
  | .complete tokens rest raw => Token.Copies t tokens rest ∧ raw = none
  | .incomplete => True

/-- A move copies a text. -/
def Move.Copies (t : Text) : Move → Prop
  | .advance tokens rest raw => Token.Copies t tokens rest ∧ raw = none
  | .halt tokens rest => Token.Copies t tokens rest

/-- A result is found, and it satisfies a property. -/
def Finds {α : Type} (p : α → Prop) (r : Except Malformed α) : Prop := ∃ a, r = .ok a ∧ p a

namespace Copies

variable {t rest : Text} {tokens : List Token}

/-- Nothing is copied. -/
theorem nil (t : Text) : Copies t [] t := ⟨[], rfl, rfl⟩

/-- Data that was cut off a text. -/
theorem cut (data rest : Text) : Copies (data ++ rest) [.data data] rest :=
  ⟨[data], rfl, by rw [List.flatten_singleton]⟩

/-- Data copied one after another. -/
theorem append {others : List Token} {middle : Text} (h : Copies t tokens middle)
    (hothers : Copies middle others rest) : Copies t (tokens ++ others) rest := by
  obtain ⟨pieces, rfl, rfl⟩ := h
  obtain ⟨more, rfl, rfl⟩ := hothers
  exact ⟨pieces ++ more, by rw [List.map_append], by rw [List.flatten_append, List.append_assoc]⟩

/-- What is left is the end of the text. -/
theorem suffix (h : Copies t tokens rest) : rest <:+ t := by
  obtain ⟨pieces, -, rfl⟩ := h
  exact List.suffix_append ..

end Copies

/-- Values without an ampersand are resolved. -/
theorem exists_resolveValues {raw : List (Text × Text)} (h : ∀ entry ∈ raw, '&' ∉ entry.2) :
    ∃ values, resolveValues raw = .ok values := by
  induction raw with
  | nil => exact ⟨[], rfl⟩
  | cons entry others ih =>
    obtain ⟨hvalue, hothers⟩ := List.forall_mem_cons.mp h
    obtain ⟨values, hvalues⟩ := ih hothers
    rw [resolveValues, hvalues]
    split
    · rename_i n hn
      obtain ⟨before, digits, after, he, -⟩ := Reference.holdsLong_of_resolveFrom hn
      exact absurd (by simp [he]) hvalue
    · exact ⟨_, rfl⟩

/-- A start tag that does not end is not whole, or what was read of it is data. -/
theorem readOpening_copies {t : Text} (hopen : '>' ∉ t) (hamp : '&' ∉ t) :
    Finds (Reading.Copies ('<' :: t)) (readOpening t) := by
  unfold readOpening
  dsimp only
  obtain ⟨hvalues, hrest⟩ := attributes_pieces t
    (beforeNext ((t.takeWhile isTagChar).getLastD '<') (t.drop (t.takeWhile isTagChar).length))
    (skipSeparators (t.drop (t.takeWhile isTagChar).length))
  generalize attributes t
    (beforeNext ((t.takeWhile isTagChar).getLastD '<') (t.drop (t.takeWhile isTagChar).length))
    (skipSeparators (t.drop (t.takeWhile isTagChar).length)) = found at hvalues hrest ⊢
  obtain ⟨raw, rest⟩ := found
  dsimp only at hvalues hrest ⊢
  have hname : skipSeparators (t.drop (t.takeWhile isTagChar).length) <:+ t :=
    (skipSeparators_suffix _).trans (List.drop_suffix ..)
  replace hrest : rest <:+ t := hrest.trans hname
  have htaken : t.take (t.length - rest.length) ++ rest = t := by
    nth_rewrite 2 [List.suffix_iff_eq_drop.mp hrest]
    exact List.take_append_drop ..
  have hcopied := Copies.cut ('<' :: t.take (t.length - rest.length)) rest
  rw [List.cons_append, htaken] at hcopied
  split
  · exact ⟨_, rfl, trivial⟩
  · exact absurd (hrest.subset List.mem_cons_self) hopen
  · exact absurd (hrest.subset (List.mem_cons_of_mem _ List.mem_cons_self)) hopen
  · split
    · exact ⟨_, rfl, trivial⟩
    · obtain ⟨values, hresolved⟩ := exists_resolveValues fun entry hentry hmem =>
        hamp (((hvalues entry hentry).trans hname.isInfix).subset hmem)
      rw [hresolved]
      exact ⟨_, rfl, hcopied, rfl⟩

/-- A text is not read through a character that it does not have. -/
theorem through_eq_none {c : Char} {t : Text} (h : c ∉ t) : through c t = none := by
  cases hfound : through c t with
  | none => rfl
  | some found =>
    rw [through_eq_some hfound] at h
    exact absurd (by simp) h

/-- A closing piece that is not found leaves a construct that is not whole. -/
theorem upTo_copies {found : Option (Text × Text)} (h : found = none) (token : Text → Token)
    (t : Text) : (upTo found token).Copies t := by
  rw [h]
  trivial

/-- At a less-than sign a construct is not whole, or what was read of it is data. -/
theorem readMarkup_copies {c : Char} {t : Text} (h : isLoose ('<' :: c :: t) = true) :
    Finds (Reading.Copies ('<' :: c :: t)) (readMarkup none (c :: t)) := by
  have hnothing : opensNothing (c :: t) = true :=
    (Bool.and_eq_true_iff.mp (Bool.and_eq_true_iff.mp h).1).2
  have hended := not_mem_of_opensNothing hnothing
  unfold readMarkup
  split
  · rename_i heq
    cases heq
  · rename_i rest heq
    obtain ⟨rfl, rfl⟩ := List.cons.inj heq
    refine ⟨_, rfl, ?_⟩
    rw [readClosing, through_eq_none (hended rfl)]
    trivial
  · rename_i rest heq
    obtain ⟨rfl, rfl⟩ := List.cons.inj heq
    have hopen := hended rfl
    unfold readDeclaration
    split
    · refine ⟨_, rfl, upTo_copies (seek_commentEnd?_eq_none fun hmem => hopen ?_) ..⟩
      exact List.mem_cons_of_mem _ (List.mem_cons_of_mem _ hmem)
    · cases hnothing
    · split
      · exact ⟨_, rfl, upTo_copies (through_eq_none hopen) ..⟩
      · exact ⟨_, rfl, upTo_copies (through_eq_none hopen) ..⟩
  · rename_i rest heq
    obtain ⟨rfl, rfl⟩ := List.cons.inj heq
    exact ⟨_, rfl, upTo_copies (through_eq_none (hended rfl)) ..⟩
  · rename_i d rest _ _ _ heq
    obtain ⟨rfl, rfl⟩ := List.cons.inj heq
    split
    · rename_i hletter
      have hopens : opensConstruct c = true := by
        rw [opensConstruct, hletter]
        rfl
      have hopen : '>' ∉ c :: t := by
        rintro (_ | ⟨_, hmem⟩)
        · cases hletter
        · exact hended hopens hmem
      exact readOpening_copies hopen (ampersand_not_mem (isLoose_suffix h (List.suffix_cons ..)))
    · exact ⟨_, rfl, Copies.cut ['<'] _, rfl⟩

/-! ## Moves -/

/-- An incomplete construct that is taken as data is copied. -/
theorem asData_copies (t : Text) : (asData none t).Copies ('<' :: t) := by
  unfold asData
  split
  · rename_i inside behind hthrough
    have h := Copies.cut ('<' :: inside ++ ['>']) behind
    rw [List.append_assoc, List.singleton_append] at h
    exact ⟨through_eq_some hthrough ▸ h, rfl⟩
  · split
    · have h := Copies.cut ('<' :: t.takeWhile (· != '<')) (t.dropWhile (· != '<'))
      rw [List.cons_append, List.takeWhile_append_dropWhile] at h
      exact ⟨h, rfl⟩
    · exact ⟨Copies.cut ['<'] t, rfl⟩

/-- A move at a less-than sign that opens nothing copies it. -/
theorem moveAtMarkup_copies {t : Text} (h : isLoose ('<' :: t) = true) (final : Bool) :
    Finds (Move.Copies ('<' :: t)) (moveAtMarkup final none t) := by
  cases t with
  | nil => exact ⟨_, rfl, Copies.nil _⟩
  | cons c t =>
    obtain ⟨reading, hreading, hcopies⟩ := readMarkup_copies h
    simp only [moveAtMarkup, hreading]
    refine ⟨_, rfl, ?_⟩
    cases reading with
    | complete tokens rest raw => exact hcopies
    | incomplete =>
      cases final with
      | true => exact asData_copies _
      | false => exact Copies.nil _

/-- A move over a text that opens nothing copies it. -/
theorem move_copies {t : Text} (h : isLoose t = true) (final : Bool) :
    Finds (Move.Copies t) (move stray final none t) := by
  unfold move
  split
  · exact ⟨_, rfl, Copies.nil t⟩
  · split
    · exact moveAtMarkup_copies h final
    · cases h
    · exact ⟨_, rfl, Copies.nil t⟩
  · rename_i chunk _ hchunk
    have hcopied := Copies.cut chunk (t.drop chunk.length)
    rw [dataBefore_append hchunk] at hcopied
    exact ⟨_, rfl, hcopied, rfl⟩

/-! ## Whole texts -/

/-- A pass over a text that opens nothing copies it up to where the pass ends. -/
theorem pass_copies {t : Text} (h : isLoose t = true) (final : Bool) (fuel : Nat) :
    Finds (fun p => Copies t p.tokens p.rest ∧ p.raw = none) (pass stray final fuel none t) := by
  induction fuel generalizing t with
  | zero => exact ⟨_, rfl, Copies.nil t, rfl⟩
  | succ fuel ih =>
    obtain ⟨move, hmove, hcopies⟩ := move_copies h final
    rw [pass, hmove]
    cases move with
    | halt tokens rest => exact ⟨_, rfl, hcopies, rfl⟩
    | advance tokens rest raw =>
      obtain ⟨hcopied, rfl⟩ := hcopies
      obtain ⟨p, hp, hothers, hraw⟩ := ih (isLoose_suffix h hcopied.suffix)
      dsimp only
      rw [hp]
      exact ⟨_, rfl, hcopied.append hothers, hraw⟩

/-- A text that opens nothing has no tokens but data, which joins to the text. -/
theorem scan_loose {t : Text} (h : isLoose t = true) :
    ∃ pieces : List Text, scan stray t = .ok (pieces.map .data) ∧ pieces.flatten = t := by
  obtain ⟨first, hfirst, hcopied, hraw⟩ := pass_copies h false (t.length + 1)
  obtain ⟨second, hsecond, hothers, hnone⟩ :=
    pass_copies (isLoose_suffix h hcopied.suffix) true (first.rest.length + 1)
  have hleft : Copies second.rest
      (if second.rest.isEmpty || second.raw.isSome then [] else [.data second.rest]) [] := by
    rw [hnone, Option.isSome_none, Bool.or_false]
    cases hrest : second.rest with
    | nil => exact .nil []
    | cons c rest =>
      have hcut := Copies.cut (c :: rest) []
      rwa [List.append_nil] at hcut
  obtain ⟨pieces, htokens, ht⟩ := (hcopied.append hothers).append hleft
  refine ⟨pieces, ?_, by rw [ht, List.append_nil]⟩
  rw [scan, hfirst]
  dsimp only
  rw [hraw, hsecond]
  dsimp only
  rw [htokens]

end Token

/-- The document that a text which opens nothing writes is the text as one string, unless it is all
blank. -/
theorem parse_loose {t : Text} (h : Token.isLoose t = true) (hfilled : isAllBlank t = false) :
    parse stray t = .ok [.text .plain t] := by
  obtain ⟨pieces, hscan, rfl⟩ := Token.scan_loose h
  rw [parse, hscan]
  exact congrArg Except.ok (Tree.ofTokens_data hfilled)

end PageMarkdown.Html
