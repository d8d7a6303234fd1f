import PageMarkdown.Proofs.Html.Closing
import PageMarkdown.Proofs.Html.TagName

/-!
# Raw text in tokens

Behind the start tag of a script or a style sheet come only data and, at last, its
end tag, whichever pass reads them. What leads from one token to the next is the
raw element that the reader is inside of, if it is inside of one. Tokens are
sound: their names are names, and a text up to a closing piece has none in it.
-/

namespace PageMarkdown.Html

open Text

variable (stray : Nat → Char)

namespace Token

/-! ## What tokens lead to -/

/-- The raw element that the reader is inside of behind a token; none, when the token cannot come
where it stands. -/
def rawBehind : Option Text → Token → Option (Option Text)
  | raw, .data _ => some raw
  | none, .opening name _ closed => some (if isRaw name && !closed then some name else none)
  | none, _ => some none
  | some element, .closing name => if name = element then some none else none
  | some _, _ => none

/-- What holds of a token because of how it is read: the names of a start tag are names, and what is
read up to a closing piece has none. -/
def IsSound : Token → Prop
  | .opening name attributes _ => IsTagName name ∧ ∀ entry ∈ attributes, IsKey entry.1
  | .comment t => seek commentEnd? t = none
  | .doctype t => '>' ∉ t
  | .instruction t => '>' ∉ t
  | .marked t => seek sectionEnd? t = none
  | .data _ => True
  | .closing _ => True

/-- Tokens lead from inside one raw element, or from outside of all, to inside another one. -/
structure Leads (raw : Option Text) (tokens : List Token) (behind : Option Text) : Prop where
  /-- Each token may come where it stands. -/
  follow : tokens.foldlM rawBehind raw = some behind
  /-- Each token is sound. -/
  sound : ∀ token ∈ tokens, token.IsSound

/-- What a reading leads to. -/
def Reading.Leads (raw : Option Text) : Reading → Prop
  | .complete tokens _ behind => Token.Leads raw tokens behind
  | .incomplete => True

/-- What a move leads to; one that ends the pass stays where it was. -/
def Move.Leads (raw : Option Text) : Move → Prop
  | .advance tokens _ behind => Token.Leads raw tokens behind
  | .halt tokens _ => Token.Leads raw tokens raw

/-- All that a result may be satisfies a property. -/
def Yields {α : Type} (p : α → Prop) (r : Except Malformed α) : Prop := ∀ a, r = .ok a → p a

theorem Yields.ok {α : Type} {p : α → Prop} {a : α} (h : p a) : Yields p (.ok a) :=
  fun _ heq => Except.ok.inj heq ▸ h

theorem Yields.error {α : Type} (p : α → Prop) (e : Malformed) : Yields p (.error e) :=
  fun _ heq => by cases heq

theorem Yields.map {α β : Type} {p : α → Prop} {q : β → Prop} {f : α → β}
    {r : Except Malformed α} (h : Yields p r) (hf : ∀ a, p a → q (f a)) : Yields q (r.map f) := by
  cases r with
  | ok a => exact .ok (hf a (h a rfl))
  | error e => exact .error q e

namespace Leads

variable {raw middle behind : Option Text} {tokens others : List Token}

theorem nil (raw : Option Text) : Leads raw [] raw := ⟨rfl, by simp⟩

/-- Data may come anywhere. -/
theorem data (raw : Option Text) (t : Text) : Leads raw [.data t] raw := ⟨rfl, by simp [IsSound]⟩

theorem append (h : Leads raw tokens middle) (hothers : Leads middle others behind) :
    Leads raw (tokens ++ others) behind := by
  refine ⟨?_, List.forall_mem_append.mpr ⟨h.sound, hothers.sound⟩⟩
  rw [List.foldlM_append, h.follow]
  exact hothers.follow

/-- One token outside of raw text. -/
theorem single {token : Token} (h : rawBehind none token = some behind)
    (hsound : token.IsSound) : Leads none [token] behind := by
  refine ⟨?_, by simpa using hsound⟩
  rw [List.foldlM_cons, h]
  rfl

/-- The end tag of a raw element. -/
theorem closing (element : Text) : Leads (some element) [.closing element] none := by
  refine ⟨?_, by simp [IsSound]⟩
  simp [rawBehind]

end Leads

/-! ## Readings -/

/-- The names of attributes are keys. -/
theorem isKey_of_mem_attributes (bound : Text) (before : Char) (t : Text) :
    ∀ entry ∈ (attributes bound before t).1, IsKey entry.1 := by
  induction bound generalizing before t with
  | nil => simp [attributes]
  | cons _ bound ih =>
    cases t with
    | nil => simp [attributes]
    | cons c rest =>
      rw [attributes]
      split
      · rename_i hopens
        have hc : (isBlank c || c = '/' || c = '>') = false := by
          simp only [opensAttribute, Bool.and_eq_true, Bool.not_eq_true'] at hopens
          exact hopens.2
        exact List.forall_mem_cons.mpr ⟨isKey_lower hc rest, ih _ _⟩
      · simp

/-- Attributes keep their names when their values are resolved. -/
theorem resolveValues_isKey {raw : List (Text × Text)} (h : ∀ entry ∈ raw, IsKey entry.1) :
    Yields (fun values => ∀ entry ∈ values, IsKey entry.1) (resolveValues raw) := by
  induction raw with
  | nil => exact .ok (by simp)
  | cons entry others ih =>
    obtain ⟨hkey, hothers⟩ := List.forall_mem_cons.mp h
    rw [resolveValues]
    split
    · exact Yields.error _ _
    · exact (ih hothers).map fun values hvalues => List.forall_mem_cons.mpr ⟨hkey, hvalues⟩

/-- A start tag leads into raw text when its element is raw and is not closed at once. -/
theorem readOpening_leads {c : Char} (hc : isLetter c = true) (t : Text) :
    Yields (Reading.Leads none) (readOpening (c :: t)) := by
  have hname := isTagName_lower hc t
  unfold readOpening
  dsimp only
  generalize (c :: t).takeWhile isTagChar = name at hname ⊢
  have hkeys := isKey_of_mem_attributes (c :: t)
    (beforeNext (name.getLastD '<') ((c :: t).drop name.length))
    (skipSeparators ((c :: t).drop name.length))
  generalize attributes (c :: t)
    (beforeNext (name.getLastD '<') ((c :: t).drop name.length))
    (skipSeparators ((c :: t).drop name.length)) = found at hkeys ⊢
  obtain ⟨raw, rest⟩ := found
  have hvalues := resolveValues_isKey hkeys
  dsimp only at hvalues ⊢
  split
  · exact .ok trivial
  · exact hvalues.map fun values hvalues => Leads.single (by simp [rawBehind]) ⟨hname, hvalues⟩
  · exact hvalues.map fun values hvalues => Leads.single (by simp [rawBehind]) ⟨hname, hvalues⟩
  · split
    · exact .ok trivial
    · exact hvalues.map fun _ _ => Leads.data none _

/-- An end tag leads out of raw text when it is the one that ends it, and is data otherwise. -/
theorem readClosing_leads (raw : Option Text) (t : Text) : (readClosing raw t).Leads raw := by
  unfold readClosing
  split
  · trivial
  · rename_i inside behind hthrough
    dsimp only
    split
    · exact Leads.single rfl trivial
    · split
      · rename_i heq
        subst heq
        exact Leads.closing _
      · exact Leads.data ..
    · exact Leads.data ..
    · split
      · exact Leads.nil none
      · split
        · exact Leads.single rfl trivial
        · exact Leads.single rfl (seek_commentEnd?_eq_none (not_mem_of_through hthrough))
      · trivial

/-- A token that is no tag stays outside of raw text. -/
theorem upTo_leads {found : Option (Text × Text)} {token : Text → Token}
    (h : ∀ inside, rawBehind none (token inside) = some none)
    (hsound : ∀ inside behind, found = some (inside, behind) → (token inside).IsSound) :
    (upTo found token).Leads none := by
  unfold upTo
  split
  · exact Leads.single (h _) (hsound _ _ rfl)
  · trivial

theorem readMarked_leads (t : Text) : Yields (Reading.Leads none) (readMarked t) := by
  unfold readMarked
  split
  · exact .ok trivial
  · dsimp only
    split
    · exact Yields.error _ _
    · split
      · exact .ok trivial
      · split
        · exact .ok (upTo_leads (fun _ => rfl) fun _ _ hfound => seek_inside spaced?_append hfound)
        · split
          · exact .ok (upTo_leads (fun _ => rfl) fun _ _ hfound =>
              seek_sectionEnd?_eq_none (seek_inside spaced?_append hfound))
          · exact Yields.error _ _

theorem readDeclaration_leads (t : Text) : Yields (Reading.Leads none) (readDeclaration t) := by
  unfold readDeclaration
  split
  · exact .ok (upTo_leads (fun _ => rfl) fun _ _ hfound => seek_inside commentEnd?_append hfound)
  · exact readMarked_leads _
  · split
    · exact .ok (upTo_leads (fun _ => rfl) fun _ _ hfound hmem =>
        not_mem_of_through hfound (List.mem_of_mem_drop hmem))
    · exact .ok (upTo_leads (fun _ => rfl) fun _ _ hfound =>
        seek_commentEnd?_eq_none (not_mem_of_through hfound))

/-- Inside raw text only an end tag is looked at. -/
theorem readMarkup_leads {raw : Option Text} {t : Text} (h : raw = none ∨ t.head? = some '/') :
    Yields (Reading.Leads raw) (readMarkup raw t) := by
  unfold readMarkup
  split
  · exact .ok trivial
  · exact .ok (readClosing_leads raw _)
  · obtain rfl := h.resolve_right (by simp)
    exact readDeclaration_leads _
  · obtain rfl := h.resolve_right (by simp)
    exact .ok (upTo_leads (fun _ => rfl) fun _ _ => not_mem_of_through)
  · rename_i hslash _ _
    split
    · rename_i hletter
      obtain rfl := h.resolve_right fun hhead => hslash (Option.some.inj hhead)
      exact readOpening_leads hletter _
    · exact .ok (Leads.data raw _)

/-! ## Moves -/

theorem asData_leads (raw : Option Text) (t : Text) : (asData raw t).Leads raw := by
  unfold asData
  split
  · exact Leads.data ..
  · split
    · exact Leads.data ..
    · exact Leads.data ..

theorem readReference_leads (final : Bool) (t : Text) :
    Yields (Move.Leads none) (readReference stray final t) := by
  unfold readReference
  split
  · split
    · exact .ok (Leads.data ..)
    · split
      · exact Yields.error _ _
      · exact .ok (Leads.data ..)
    · split
      · exact .ok (Leads.data ..)
      · exact .ok (Leads.nil none)
  · split
    · exact .ok (Leads.data ..)
    · split
      · exact .ok (Leads.nil none)
      · split
        · exact .ok (Leads.nil none)
        · exact .ok (Leads.data ..)

theorem moveAtMarkup_leads (final : Bool) {raw : Option Text} {t : Text}
    (h : raw = none ∨ t.head? = some '/') : Yields (Move.Leads raw) (moveAtMarkup final raw t) := by
  unfold moveAtMarkup
  split
  · exact .ok (Leads.nil raw)
  · refine (readMarkup_leads h).map fun reading hreading => ?_
    cases reading with
    | complete tokens rest behind => exact hreading
    | incomplete =>
      cases final with
      | true => exact asData_leads raw _
      | false => exact Leads.nil raw

/-- Where raw text ends at once, its end tag stands. -/
theorem of_dataBefore_nil {element t : Text} (h : dataBefore (some element) t = some []) :
    ∃ rest, t = '<' :: '/' :: rest := by
  obtain ⟨⟨inside, rest⟩, hseek, rfl⟩ := Option.map_eq_some_iff.mp h
  obtain ⟨u, rfl, hend⟩ := seek_eq_some hseek
  unfold rawEnd? at hend
  split at hend
  · exact ⟨_, rfl⟩
  · cases hend

theorem move_leads (final : Bool) (raw : Option Text) (t : Text) :
    Yields (Move.Leads raw) (move stray final raw t) := by
  unfold move
  split
  · exact .ok (Leads.nil raw)
  · rename_i hdata
    have hend : raw = none ∨ ∃ rest, t = '<' :: '/' :: rest := by
      cases raw with
      | none => exact .inl rfl
      | some element => exact .inr (of_dataBefore_nil hdata)
    split
    · exact moveAtMarkup_leads final (hend.imp_right fun ⟨rest, h⟩ => by
        rw [(List.cons.inj h).2]
        rfl)
    · obtain rfl := hend.resolve_right fun ⟨rest, h⟩ => by cases h
      exact readReference_leads stray final _
    · exact .ok (Leads.nil raw)
  · exact .ok (Leads.data raw _)

/-! ## Whole texts -/

theorem pass_leads (final : Bool) (fuel : Nat) (raw : Option Text) (t : Text) :
    Yields (fun p => Leads raw p.tokens p.raw) (pass stray final fuel raw t) := by
  induction fuel generalizing raw t with
  | zero => exact .ok (Leads.nil raw)
  | succ fuel ih =>
    have hmove := move_leads stray final raw t
    rw [pass]
    split
    · exact Yields.error _ _
    · rename_i tokens rest he
      exact .ok (hmove _ he)
    · rename_i tokens rest behind he
      have hfirst : Leads raw tokens behind := hmove _ he
      exact (ih behind rest).map fun p hp => hfirst.append hp

/-- The tokens of a markup text begin outside of raw text, and each may come where it stands. -/
theorem scan_leads (t : Text) :
    Yields (fun tokens => ∃ behind, Leads none tokens behind) (scan stray t) := by
  rw [scan]
  split
  · exact Yields.error _ _
  · rename_i first hfirst
    split
    · exact Yields.error _ _
    · rename_i second hsecond
      refine .ok ⟨second.raw, ?_⟩
      have hboth := (pass_leads _ _ _ _ _ _ hfirst).append (pass_leads _ _ _ _ _ _ hsecond)
      refine hboth.append ?_
      split
      · exact Leads.nil _
      · exact Leads.data ..

end Token

end PageMarkdown.Html
