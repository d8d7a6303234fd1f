import PageMarkdown.Proofs.Inert
import PageMarkdown.Proofs.SeenStrings

/-!
# Text that is gathered and text that is read

Code shows the text that it gathers from all that it holds, and every other element
shows what the walk reads in it. The two ways go by lists of their own of the kinds
of strings. They agree on plain text, which both take, and on remarks, scripts and
style sheets, which neither does. They differ on marked sections of character data,
which are gathered and not read, and on templates and ruby annotations, which are
read and not gathered.
-/

namespace PageMarkdown.Markdown

open Text Html

/-! ## Ways that pass code -/

/-- The walk gets through layers to running text, with some room left. -/
def Reaches (room : Nat) (layers : List Layer) (left : Nat) : Prop :=
  Leads (fun r ls => r = left ∧ ls = []) .content room layers

theorem Reaches.leads {ends : Nat → List Layer → Prop} {room left : Nat}
    {layers inner : List Layer} (h : Reaches room layers left)
    (hinner : Leads ends .content left inner) : Leads ends .content room (layers ++ inner) := by
  refine Leads.append h fun r ls hend => ?_
  obtain ⟨rfl, rfl⟩ := hend
  exact hinner

section Role

variable {name : Text}

theorem Role.showsContent_of_gathersText {role : Role} (h : role.gathersText = true) :
    role.showsContent = false := by
  cases role <;> first | rfl | cases h

/-- Code is no table, and neither a row nor an item nor a cell. -/
theorem Role.ne_of_gathersText (h : (Role.ofName name).gathersText = true) :
    name ≠ "table".toList ∧ name ≠ "tr".toList ∧ lower name ≠ "li".toList ∧
      lower name ≠ "th".toList ∧ lower name ≠ "td".toList := by
  rw [Role.ofName] at h
  refine ⟨?_, ?_, ?_, ?_, ?_⟩ <;> intro hname <;> simp only [hname] at h <;>
    exact absurd h (by decide)

/-- An element that is not shown is raw, if its name is in lower case. -/
theorem isRaw_of_hidden (h : Role.ofName name = .hidden) (hname : lower name = name) :
    Token.isRaw name = true := by
  have hraw : ∀ entry ∈ Role.known, entry.2 = .hidden → Token.isRaw entry.1.toList = true := by
    decide
  obtain ⟨entry, hentry, hlower, hrole⟩ := Role.exists_known h Role.noConfusion
  rw [← hname, ← hlower]
  exact hraw entry hentry hrole

end Role

namespace Leads

variable {ends : Nat → List Layer → Prop} {kind : StringKind} {v : View} {room : Nat}
  {outer inner layers : List Layer} {l : Layer}

/-- At code a way ends, unless it looks for rows, and then it goes on to look for them. -/
theorem past_code (h : Leads ends v room (l :: inner))
    (hl : (Role.ofName l.name).gathersText = true) :
    ends room (l :: inner) ∨ Leads ends .rows room inner := by
  obtain ⟨htable, hrow, hitem, hhead, hcell⟩ := Role.ne_of_gathersText hl
  cases h with
  | here hend => exact .inl hend
  | frame hrole _ =>
    rw [Role.showsContent_of_gathersText hl] at hrole
    cases hrole
  | list hrole _ =>
    rw [hrole] at hl
    cases hl
  | table hname _ => exact absurd hname htable
  | item hname _ => exact absurd hname hitem
  | deeper _ hrows => exact .inr hrows
  | row hname _ => exact absurd hname hrow
  | cell hname _ => exact (hname.elim hhead hcell).elim

/-- A way to a string that is not gathered goes through all the layers around it. -/
theorem inward (h : Leads (SeenAt kind) v room (outer ++ layers))
    (hkind : kind.isInnerText = false) : ∃ v room, Leads (SeenAt kind) v room layers := by
  induction outer generalizing v room with
  | nil => exact ⟨v, room, h⟩
  | cons l outer ih =>
    rw [List.cons_append] at h
    cases h with
    | here hseen => exact (not_seenAt_cons hkind hseen).elim
    | frame _ hleads | list _ hleads | table _ hleads | item _ hleads | deeper _ hleads
    | row _ hleads | cell _ hleads => exact ih hleads

/-- To a string that is not gathered a way goes past code only through a row inside it. -/
theorem exists_row_inside (h : Leads (SeenAt kind) v room (outer ++ l :: inner))
    (hl : (Role.ofName l.name).gathersText = true) (hkind : kind.isInnerText = false) :
    ∃ r ∈ inner, r.name = "tr".toList := by
  obtain ⟨v, room, h⟩ := h.inward hkind
  exact ((h.past_code hl).resolve_left (not_seenAt_cons hkind)).exists_row rfl

/-- No way leads to a remark. -/
theorem not_remark (hkind : kind.isRemark = true) : ¬ Leads (SeenAt kind) v room layers := by
  intro h
  rcases h.read_or_gathered with hread | ⟨hinner, -⟩
  · rw [StringKind.isRead_of_isRemark hkind] at hread
    cases hread
  · rw [StringKind.isInnerText_of_isRemark hkind] at hinner
    cases hinner

/-- No way leads to a string right inside a script or a style sheet, if it is not gathered. -/
theorem not_inside_raw (hl : Token.isRaw l.name = true) (hkind : kind.isInnerText = false) :
    ¬ Leads (SeenAt kind) v room (outer ++ [l]) := by
  intro h
  obtain ⟨v, room, h⟩ := h.inward hkind
  have hrole : Role.ofName l.name = .hidden ∧ lower l.name ≠ "li".toList ∧
      lower l.name ≠ "th".toList ∧ lower l.name ≠ "td".toList := by
    simp only [Token.isRaw, Bool.or_eq_true, decide_eq_true_eq] at hl
    rcases hl with hname | hname <;> rw [hname] <;> decide
  cases h with
  | here hseen => exact not_seenAt_cons hkind hseen
  | frame hshows _ =>
    rw [hrole.1] at hshows
    cases hshows
  | item hname _ => exact hrole.2.1 hname
  | cell hname _ => exact hname.elim hrole.2.2.1 hrole.2.2.2
  -- The other ways go on to items, rows or cells, and there is nothing to go into.
  | list _ hleads | table _ hleads | deeper _ hleads | row _ hleads => cases hleads

end Leads

/-! ## Code and paragraphs -/

/-- A paragraph in the place of a layer, around the same nodes. -/
def paragraphFor (l : Layer) : Layer := { l with name := "p".toList }

/-- Code with other elements in it that have no role or are not shown. -/
structure IsCodeAround (code : Layer) (inner : List Layer) : Prop where
  /-- The outer element is code. -/
  gathers : (Role.ofName code.name).gathersText = true
  /-- The elements in it. -/
  plain : ∀ l ∈ inner, Role.ofName l.name = .transparent ∨ Role.ofName l.name = .hidden

section Built

variable {outer inner : List Layer} {code : Layer} {nodes before after : List Node}
  {kind : StringKind} {content : Text}

/-- Around a string of a built tree that is not the text of a script, all elements inside code show
what they hold. -/
theorem IsCodeAround.showsContent (h : IsCodeAround code inner)
    (hplace : nodes = nest (outer ++ code :: inner) (before ++ .text kind content :: after))
    (hsorted : Node.AllSorted nodes) (hbuilt : Node.AllBuilt nodes)
    (hkind : kind.isScript = false) : ∀ l ∈ inner, (Role.ofName l.name).showsContent = true := by
  intro l hl
  subst hplace
  rcases h.plain l hl with hrole | hrole
  · rw [hrole]
    rfl
  · obtain ⟨front, back, rfl⟩ := List.append_of_mem hl
    rw [← List.cons_append, ← List.append_assoc] at hsorted hbuilt
    have hraw := isRaw_of_allSorted hsorted
    rw [isRaw_of_hidden hrole (lower_name_of_allBuilt hbuilt), hkind, Bool.and_false] at hraw
    cases hraw

/-- No way leads to a string that is not read, in a paragraph with no code around it. -/
theorem IsCodeAround.not_leads (h : IsCodeAround code inner)
    (houter : ∀ l ∈ outer, (Role.ofName l.name).gathersText = false) (hkind : kind.isRead = false)
    {v : View} {room : Nat} :
    ¬ Leads (SeenAt kind) v room (outer ++ paragraphFor code :: inner) := by
  intro hleads
  have hread : ¬ kind.isRead = true := Bool.eq_false_iff.mp hkind
  obtain ⟨-, l, hl, hgathers⟩ := hleads.read_or_gathered.resolve_left hread
  rcases List.mem_append.mp hl with hl | hl
  · rw [houter l hl] at hgathers
    cases hgathers
  · rcases List.mem_cons.mp hl with rfl | hl
    · cases hgathers
    · rcases h.plain l hl with hrole | hrole <;> rw [hrole] at hgathers <;> cases hgathers

/-- The text of a script inside code stands right inside a script. -/
theorem IsCodeAround.exists_raw (h : IsCodeAround code inner)
    (hplace : nodes = nest (outer ++ code :: inner) (before ++ .text kind content :: after))
    (hsorted : Node.AllSorted nodes) (hkind : kind.isScript = true) :
    ∃ front l, inner = front ++ [l] ∧ Token.isRaw l.name = true := by
  subst hplace
  rcases List.eq_nil_or_concat' inner with rfl | ⟨front, l, rfl⟩
  · have hraw := isRaw_of_allSorted hsorted
    have hcode := h.gathers
    simp only [hkind, List.isEmpty_nil, Bool.and_self, Token.isRaw, Bool.or_eq_true,
      decide_eq_true_eq] at hraw
    rcases hraw with hname | hname <;> rw [hname] at hcode <;> cases hcode
  · rw [← List.cons_append, ← List.append_assoc] at hsorted
    refine ⟨front, l, rfl, ?_⟩
    rw [isRaw_of_allSorted hsorted, hkind]
    rfl

end Built

/-- Code and a paragraph in its place show the same plain text, and neither shows anything of
remarks, scripts and style sheets. But a marked section is shown in code, and not in a paragraph
that has no code around it; and the strings of templates and ruby annotations are shown in a
paragraph, and not in code that has no row of a table in it. All this is so for every string of a
parsed document, however deep below elements without a role it stands in the code, as long as the
limit has room for those elements. -/
theorem textAround_code_and_paragraph {stray : Nat → Char} {markup : Text}
    {nodes root : List Node} {outer inner : List Layer} {code : Layer} {before after : List Node}
    {kind : StringKind} {content : Text} (hparse : parse stray markup = .ok nodes)
    (hroot : Node.IsRoot nodes root)
    (hplace : root = nest (outer ++ code :: inner) (before ++ .text kind content :: after))
    (hcode : IsCodeAround code inner) (c : Converter) {left : Nat}
    (hreach : Reaches c.room outer (left + 1)) :
    let inCode := c.textAround (outer ++ code :: inner) before after kind
    let inParagraph := c.textAround (outer ++ paragraphFor code :: inner) before after kind
    (kind = .plain → Displays inCode ∧ (inner.length ≤ left → Displays inParagraph)) ∧
    (kind.isRemark = true ∨ kind.isScript = true → Hides inCode ∧ Hides inParagraph) ∧
    (kind = .cdata → Displays inCode ∧
      ((∀ l ∈ outer, (Role.ofName l.name).gathersText = false) → Hides inParagraph)) ∧
    (kind ∈ [.template, .rubyText, .rubyParenthesis] →
      (inner.length ≤ left → Displays inParagraph) ∧
      ((∀ l ∈ inner, l.name ≠ "tr".toList) → Hides inCode)) := by
  intro inCode inParagraph
  have hsorted := hroot.allSorted (parse_allSorted hparse)
  have hbuilt := hroot.allBuilt (parse_allBuilt hparse)
  have hcodeDisplays : kind.isInnerText = true → Displays inCode := fun hinner =>
    Converter.displays_of_leads (hreach.leads (.here (.gathered hcode.gathers hinner))) before after
  have hparagraphDisplays : kind.isRead = true → kind.isScript = false → inner.length ≤ left →
      Displays inParagraph := by
    intro hread hscript hroom
    have hparagraph : (Role.ofName "p".toList).showsContent = true := by decide
    have hinside := hcode.showsContent hplace hsorted hbuilt hscript
    have hleads := Leads.of_showsContent hread hinside hroom
    exact Converter.displays_of_leads (hreach.leads (.frame hparagraph hleads)) before after
  refine ⟨?_, ?_, ?_, ?_⟩
  · rintro rfl
    exact ⟨hcodeDisplays rfl, hparagraphDisplays rfl rfl⟩
  · rintro (hremark | hscript)
    · exact ⟨Converter.hides_of_not_leads (Leads.not_remark hremark) before after,
        Converter.hides_of_not_leads (Leads.not_remark hremark) before after⟩
    · obtain ⟨front, l, rfl, hraw⟩ := hcode.exists_raw hplace hsorted hscript
      have hnone : ∀ o : Layer,
          ¬ Leads (SeenAt kind) .content c.room (outer ++ o :: (front ++ [l])) := by
        intro o
        rw [← List.cons_append, ← List.append_assoc]
        exact Leads.not_inside_raw hraw (StringKind.isInnerText_of_isScript hscript)
      exact ⟨Converter.hides_of_not_leads (hnone code) before after,
        Converter.hides_of_not_leads (hnone (paragraphFor code)) before after⟩
  · rintro rfl
    exact ⟨hcodeDisplays rfl, fun houter =>
      Converter.hides_of_not_leads (hcode.not_leads houter rfl) before after⟩
  · intro hkind
    have hsort : kind.isRead = true ∧ kind.isScript = false ∧ kind.isInnerText = false := by
      revert hkind
      cases kind <;> decide
    refine ⟨hparagraphDisplays hsort.1 hsort.2.1, fun hrows => ?_⟩
    refine Converter.hides_of_not_leads (fun hleads => ?_) before after
    obtain ⟨r, hr, hname⟩ := hleads.exists_row_inside hcode.gathers hsort.2.2
    exact hrows r hr hname

/-- A ruby annotation in a template, in preformatted text that is an item of a list. -/
def annotatedMarkup : Text :=
  "<ul><li><pre>a<template><ruby>b<rt>c</rt></ruby></template></pre></li></ul>".toList

/-- The elements around the preformatted text. -/
def listAround : List Layer := [{ name := "ul".toList }, { name := "li".toList }]

/-- The elements around the annotation in it. -/
def rubyAround : List Layer :=
  [{ name := "template".toList, before := [.text .plain ['a']] }, { name := "ruby".toList },
    { name := "rt".toList, before := [.text .template ['b']] }]

theorem textAround_code_and_paragraph_ruby :
    let code : Layer := { name := "pre".toList }
    let c : Converter := ⟨6, false⟩
    (∃ root, parse (Environment.stray {}) annotatedMarkup = .ok root ∧
      root = nest (listAround ++ code :: rubyAround) ([] ++ [.text .rubyText ['c']])) ∧
    IsCodeAround code rubyAround ∧ Reaches c.room listAround 5 ∧
    (∀ l ∈ rubyAround, l.name ≠ "tr".toList) ∧
    c.textAround (listAround ++ code :: rubyAround) [] [] .rubyText ['c'] =
      .ok "- ```
  a
  ```".toList ∧
    c.textAround (listAround ++ paragraphFor code :: rubyAround) [] [] .rubyText ['c'] =
      .ok "- abc".toList ∧
    Displays (c.textAround (listAround ++ paragraphFor code :: rubyAround) [] [] .rubyText) ∧
    Hides (c.textAround (listAround ++ code :: rubyAround) [] [] .rubyText) := by
  intro code c
  have hparse : parse (Environment.stray {}) annotatedMarkup =
      .ok (nest (listAround ++ code :: rubyAround) ([] ++ [.text .rubyText ['c']])) := rfl
  have hcode : IsCodeAround code rubyAround := ⟨by decide, by decide⟩
  have hlist : Role.ofName "ul".toList = .list false := by decide
  have hreach : Reaches c.room listAround 5 := .list hlist (.item (by decide) (.here ⟨rfl, rfl⟩))
  have hrows : ∀ l ∈ rubyAround, l.name ≠ "tr".toList := by decide
  obtain ⟨-, -, -, hruby⟩ := textAround_code_and_paragraph hparse .whole rfl hcode c hreach
  obtain ⟨hdisplays, hhides⟩ := hruby (by decide)
  exact ⟨⟨_, hparse, rfl⟩, hcode, hreach, hrows, by decide +kernel, by decide +kernel,
    hdisplays (by decide), hhides hrows⟩

/-- A marked section is shown in code and not in a paragraph in its place, and the text of a
template in a paragraph and not in code in its place. -/
theorem textAround_differs :
    let code : Layer := { name := "code".toList }
    let template : Layer := { name := "template".toList }
    let c : Converter := ⟨2, false⟩
    parse (Environment.stray {}) "<code><![CDATA[x]]></code>".toList =
      .ok (nest [code] [.text .cdata ['x']]) ∧
    (ofHtml {} none "<code><![CDATA[x]]></code>".toList).outcome = .ok "\x60x\x60".toList ∧
    (ofHtml {} none "<p><![CDATA[x]]></p>".toList).outcome = .ok [] ∧
    ¬ (Displays (c.textAround [code] [] [] .cdata) ↔
      Displays (c.textAround [paragraphFor code] [] [] .cdata)) ∧
    parse (Environment.stray {}) "<code><template>x</template></code>".toList =
      .ok (nest [code, template] [.text .template ['x']]) ∧
    (ofHtml {} none "<code><template>x</template></code>".toList).outcome = .ok [] ∧
    (ofHtml {} none "<p><template>x</template></p>".toList).outcome = .ok ['x'] ∧
    ¬ (Displays (c.textAround [code, template] [] [] .template) ↔
      Displays (c.textAround [paragraphFor code, template] [] [] .template)) := by
  intro code template c
  have hsection : ¬ Displays (c.textAround [paragraphFor code] [] [] .cdata) := by
    have hcode : IsCodeAround code [] := ⟨by decide, by simp⟩
    have hnone : ¬ Leads (SeenAt .cdata) .content c.room ([] ++ [paragraphFor code]) :=
      hcode.not_leads (by simp) rfl
    exact (Converter.hides_of_not_leads hnone [] []).not_displays (t := ['x']) (u := [])
      (by decide +kernel)
  have htemplate : ¬ Displays (c.textAround [code, template] [] [] .template) := by
    refine Hides.not_displays (t := ['x']) (u := []) ?_ (by decide +kernel)
    refine Converter.hides_of_not_leads (fun hleads => ?_) [] []
    have hpast : Leads (SeenAt .template) .content c.room ([] ++ code :: [template]) := hleads
    obtain ⟨r, hr, hname⟩ := hpast.exists_row_inside (by decide) rfl
    obtain rfl := List.mem_singleton.mp hr
    exact absurd hname (by decide)
  refine ⟨rfl, by decide +kernel, by decide +kernel, fun hsame => hsection (hsame.mp ?_), rfl,
    by decide +kernel, by decide +kernel, fun hsame => htemplate (hsame.mpr ?_)⟩
  · exact Converter.displays_of_leads (.here (.gathered (by decide) rfl)) [] []
  · have hread : Leads (SeenAt .template) .content 0 [] := .here (.read rfl)
    exact Converter.displays_of_leads (.frame (by decide) (.frame (by decide) hread)) [] []

end PageMarkdown.Markdown
