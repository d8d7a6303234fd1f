import PageMarkdown.Html.Markup
import PageMarkdown.Proofs.Html.Tree

/-!
# Escaped text is read back

Escaping spells the reserved characters as references, one for each. A pass over
an escaped text reads each of them as the character it stands for, and the runs
between them as they are. So the document that an escaped text writes is one
string, the text itself, unless the text is all blank.
-/

namespace PageMarkdown.Html

open Text

variable {stray : Nat → Char}

/-! ## Escaping -/

/-- A character that is written as a reference. -/
def isReserved (c : Char) : Bool := c = '&' || c = '<' || c = '>'

/-- The name of the reference that a reserved character is written as. -/
inductive Spells : Char → Text → Prop
  /-- The ampersand. -/
  | ampersand : Spells '&' "amp".toList
  /-- The less-than sign. -/
  | less : Spells '<' "lt".toList
  /-- The greater-than sign. -/
  | greater : Spells '>' "gt".toList

theorem escape_cons (c : Char) (t : Text) : escape (c :: t) = escape [c] ++ escape t := by
  rw [escape, List.flatMap_cons, escape, escape, List.flatMap_singleton]

/-- A reserved character is written by the name of its reference. -/
theorem escape_reserved {c : Char} (h : isReserved c = true) :
    ∃ name, Spells c name ∧ ∀ t, escape (c :: t) = '&' :: name ++ ';' :: escape t := by
  simp only [isReserved, Bool.or_eq_true, decide_eq_true_eq] at h
  rcases h with (rfl | rfl) | rfl
  · exact ⟨_, .ampersand, fun t => escape_cons ..⟩
  · exact ⟨_, .less, fun t => escape_cons ..⟩
  · exact ⟨_, .greater, fun t => escape_cons ..⟩

/-- Any other character is written as it is. -/
theorem escape_cons_plain {c : Char} (h : isReserved c = false) (t : Text) :
    escape (c :: t) = c :: escape t := by
  simp only [isReserved, Bool.or_eq_false_iff, decide_eq_false_iff_not] at h
  obtain ⟨⟨hamp, hless⟩, hgreater⟩ := h
  simp [escape, hamp, hless, hgreater]

/-- Text without reserved characters is written as it is. -/
theorem escape_append_plain {run : Text} (h : ∀ c ∈ run, isReserved c = false) (t : Text) :
    escape (run ++ t) = run ++ escape t := by
  induction run with
  | nil => rfl
  | cons c run ih =>
    obtain ⟨hc, hrun⟩ := List.forall_mem_cons.mp h
    rw [List.cons_append, escape_cons_plain hc, ih hrun, List.cons_append]

/-- A text is a run without reserved characters, and goes on with one if it goes on. -/
theorem exists_append_run (t : Text) :
    ∃ run rest, run ++ rest = t ∧ (∀ c ∈ run, isReserved c = false) ∧
      ∀ c, rest.head? = some c → isReserved c = true := by
  refine ⟨t.takeWhile (!isReserved ·), t.dropWhile (!isReserved ·), ?_, fun c hc => ?_, ?_⟩
  · exact List.takeWhile_append_dropWhile
  · simpa using List.mem_takeWhile_imp hc
  · intro c hc
    simpa [hc] using List.head?_dropWhile_not (!isReserved ·) t

/-- What begins with a reserved character is written with an ampersand in front. -/
theorem head?_escape {t : Text} (h : ∀ c, t.head? = some c → isReserved c = true) :
    ∀ c, (escape t).head? = some c → c = '&' := by
  cases t with
  | nil => simp [escape]
  | cons c t =>
    obtain ⟨name, -, he⟩ := escape_reserved (h c rfl)
    simp [he]

/-- Escaping makes no text shorter. -/
theorem length_le_length_escape (t : Text) : t.length ≤ (escape t).length := by
  induction t with
  | nil => exact Nat.le_refl 0
  | cons c t ih =>
    cases hc : isReserved c with
    | true =>
      obtain ⟨name, -, he⟩ := escape_reserved hc
      rw [he, List.length_append, List.length_cons, List.length_cons, List.length_cons]
      omega
    | false =>
      rw [escape_cons_plain hc, List.length_cons, List.length_cons]
      omega

/-- A text is all blank when it is so escaped. -/
theorem isAllBlank_escape (t : Text) : isAllBlank (escape t) = isAllBlank t := by
  induction t with
  | nil => rfl
  | cons c t ih =>
    cases hc : isReserved c with
    | true =>
      obtain ⟨name, hspells, he⟩ := escape_reserved hc
      have hsolid : isBlank c = false := by cases hspells <;> decide
      rw [he]
      simp [isAllBlank, hsolid, show isBlank '&' = false by decide]
    | false =>
      rw [escape_cons_plain hc]
      exact congrArg (isBlank c && ·) ih

/-! ## Reading it back -/

namespace Token

/-- A known name that ends with a semicolon is read as the text it stands for. -/
theorem readReference_named {name value u : Text} (final : Bool)
    (hname : entityName? (name ++ ';' :: u) = some name)
    (hvalue : Reference.named? name = some value) :
    readReference stray final (name ++ ';' :: u) = .ok (.advance [.data value] u none) := by
  unfold readReference
  split
  · rename_i rest hhash
    rw [hhash] at hname
    cases hname
  · simp [hname, hvalue, dropSemicolon]

/-- A reference that spells a reserved character is read as the character. -/
theorem move_spelled {c : Char} {name : Text} (h : Spells c name) (final : Bool) (u : Text) :
    move stray final none ('&' :: name ++ ';' :: u) = .ok (.advance [.data [c]] u none) := by
  have hnamed : Reference.named? name = some [c] := by cases h <;> decide +kernel
  have hname : entityName? (name ++ ';' :: u) = some name := by cases h <;> rfl
  exact readReference_named final hname hnamed

variable (stray) in
/-- A run of data is read up to the next construct. -/
theorem move_run {run u : Text} (hne : run ≠ []) (hrun : ∀ c ∈ run, c ≠ '<' ∧ c ≠ '&')
    (hu : ∀ c, u.head? = some c → c = '<' ∨ c = '&') (final : Bool) :
    move stray final none (run ++ u) = .ok (.advance [.data run] u none) := by
  have hdata : dataBefore none (run ++ u) = some run := by
    have hnone : u.takeWhile (fun c => c != '<' && c != '&') = [] := by
      cases u with
      | nil => rfl
      | cons c u => rcases hu c rfl with rfl | rfl <;> rfl
    rw [dataBefore, List.takeWhile_append_of_pos, hnone, List.append_nil]
    intro c hc
    simpa using hrun c hc
  cases run with
  | nil => exact absurd rfl hne
  | cons c run =>
    unfold move
    rw [hdata]
    simp

/-- A pass over escaped text reads all of it as data, which joins to the text. -/
theorem pass_escape (final : Bool) {fuel : Nat} {t : Text} (h : t.length < fuel) :
    ∃ pieces : List Text, pieces.flatten = t ∧
      pass stray final fuel none (escape t) = .ok ⟨pieces.map .data, [], none⟩ := by
  induction fuel generalizing t with
  | zero => exact absurd h (Nat.not_lt_zero _)
  | succ fuel ih =>
    -- What one move takes off the front is a piece of the text; the pass goes on behind it.
    have hfront : ∀ {piece rest : Text}, piece ≠ [] → t = piece ++ rest →
        move stray final none (escape t) = .ok (.advance [.data piece] (escape rest) none) →
        ∃ pieces : List Text, pieces.flatten = t ∧
          pass stray final (fuel + 1) none (escape t) = .ok ⟨pieces.map .data, [], none⟩ := by
      rintro piece rest hpiece rfl hmove
      have hpos : 0 < piece.length := List.length_pos_iff.mpr hpiece
      rw [List.length_append] at h
      obtain ⟨pieces, rfl, hpass⟩ := ih (t := rest) (by omega)
      refine ⟨piece :: pieces, rfl, ?_⟩
      rw [pass, hmove]
      simp only [hpass, Except.map, List.map_cons, List.singleton_append]
    cases t with
    | nil => exact ⟨[], rfl, rfl⟩
    | cons c t =>
      cases hc : isReserved c with
      | true =>
        obtain ⟨name, hspells, he⟩ := escape_reserved hc
        refine @hfront [c] t (List.cons_ne_nil c []) rfl ?_
        rw [he]
        exact move_spelled hspells final _
      | false =>
        obtain ⟨run, rest, ht, hrun, hrest⟩ := exists_append_run (c :: t)
        have hfilled : run ≠ [] := by
          rintro rfl
          have hfirst : rest.head? = some c := congrArg List.head? ht
          rw [hrest c hfirst] at hc
          cases hc
        refine hfront hfilled ht.symm ?_
        rw [← ht, escape_append_plain hrun]
        refine move_run stray hfilled (fun d hd => ?_)
          (fun d hd => .inr (head?_escape hrest d hd)) final
        constructor <;> rintro rfl <;> exact absurd (hrun _ hd) (by decide)

/-- Escaped text has no tokens but data, which joins to the text. -/
theorem scan_escape (t : Text) :
    ∃ pieces : List Text, pieces.flatten = t ∧ scan stray (escape t) = .ok (pieces.map .data) := by
  have hfuel : t.length < (escape t).length + 1 := Nat.lt_succ_of_le (length_le_length_escape t)
  obtain ⟨pieces, hpieces, hpass⟩ := pass_escape false hfuel
  refine ⟨pieces, hpieces, ?_⟩
  rw [scan, hpass]
  simp [pass, move, dataBefore]

end Token

/-- The document that an escaped text writes is the text as one string, unless it is all blank. -/
theorem parse_escape {t : Text} (h : isAllBlank t = false) :
    parse stray (escape t) = .ok [.text .plain t] := by
  obtain ⟨pieces, rfl, hscan⟩ := Token.scan_escape t
  rw [parse, hscan]
  exact congrArg Except.ok (Tree.ofTokens_data h)

end PageMarkdown.Html
