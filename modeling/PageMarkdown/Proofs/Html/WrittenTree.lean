import PageMarkdown.Proofs.Html.Built
import PageMarkdown.Proofs.Html.Rule
import PageMarkdown.Proofs.Html.WrittenTag

/-!
# Written trees are read

What a parsed tree consists of is written so that it is read back as it is: names
are names, and no string has the piece that closes it. A declaration is the
exception. It may hold the sign that ends the instruction it is written as. Without
such declarations, and without raw elements, the markup of a tree is read to its
end, and the tree that it writes has no element of a new name.
-/

namespace PageMarkdown.Html

open Text Token

variable {stray : Nat → Char}

/-! ## Parsed trees -/

/-- What a node is like because it was parsed. -/
def parsedRule : Rule where
  element name attributes := IsTagName name ∧ ∀ entry ∈ attributes, IsKey entry.1
  string kind t := match kind with
    | .comment => seek commentEnd? t = none
    | .cdata => seek sectionEnd? t = none
    | .doctype => '>' ∉ t
    | .instruction => '>' ∉ t
    | _ => True
  data kind content hread := by cases kind <;> trivial
  blank kind := by cases kind <;> decide

/-- An attribute that is set leaves the names as they are, but for its own. -/
theorem mem_set {attributes : Attributes} {name : Text} {value : AttributeValue}
    {entry : Text × AttributeValue} (h : entry ∈ Attributes.set name value attributes) :
    entry.1 = name ∨ entry ∈ attributes := by
  induction attributes with
  | nil =>
    obtain rfl := List.mem_singleton.mp h
    exact .inl rfl
  | cons other others ih =>
    obtain ⟨n, v⟩ := other
    rw [Attributes.set] at h
    split at h
    · rename_i hname
      rcases List.mem_cons.mp h with rfl | h
      · exact .inl hname
      · exact .inr (List.mem_cons_of_mem _ h)
    · rcases List.mem_cons.mp h with rfl | h
      · exact .inr List.mem_cons_self
      · exact (ih h).imp_right (List.mem_cons_of_mem _)

/-- The names of an element's attributes are those that are written. -/
theorem isKey_of_mem_attributesOf {element : Text} {written : List (Text × Text)}
    (h : ∀ entry ∈ written, IsKey entry.1) :
    ∀ entry ∈ Tree.attributesOf element written, IsKey entry.1 := by
  have hfold : ∀ (written : List (Text × Text)) (found : Attributes),
      (∀ entry ∈ found, IsKey entry.1) → (∀ entry ∈ written, IsKey entry.1) →
      ∀ entry ∈ written.foldl (fun found entry =>
        let value := if Tree.holdsWords element entry.1 then AttributeValue.words (words entry.2)
          else .single entry.2
        Attributes.set entry.1 value found) found, IsKey entry.1 := by
    intro written
    induction written with
    | nil => exact fun _ hfound _ => hfound
    | cons entry written ih =>
      intro found hfound hwritten
      obtain ⟨hentry, hothers⟩ := List.forall_mem_cons.mp hwritten
      refine ih _ (fun other hother => ?_) hothers
      rcases mem_set hother with hname | hmem
      · exact hname ▸ hentry
      · exact hfound other hmem
  exact hfold written [] (by simp) h

/-- A token that is sound brings only such nodes into a tree. -/
theorem allows_of_isSound {token : Token} (h : token.IsSound) : parsedRule.Allows token := by
  cases token with
  | opening name attributes closed => exact ⟨h.1, isKey_of_mem_attributesOf h.2⟩
  | marked t =>
    rw [Rule.Allows]
    split
    · refine seek_eq_none_iff.mpr fun u hu hne => ?_
      exact seek_eq_none_iff.mp h u (hu.trans (List.drop_suffix 6 t)) hne
    · trivial
  | _ => exact h

/-- A parsed tree keeps the rule. -/
theorem parse_keeps {markup : Text} {nodes : List Node} (h : parse stray markup = .ok nodes) :
    parsedRule.HoldsBelow nodes := by
  rw [parse] at h
  cases hscan : Token.scan stray markup with
  | error e =>
    rw [hscan] at h
    cases h
  | ok tokens =>
    rw [hscan] at h
    obtain rfl := Except.ok.inj h
    obtain ⟨behind, htokens⟩ := Token.scan_leads stray markup tokens hscan
    exact Tree.holdsBelow_ofTokens fun token htoken =>
      allows_of_isSound (htokens.sound token htoken)

/-! ## Writing -/

/-- What keeps a tree from being misread: its elements have names of some sort, none of which is
raw, and no declaration holds the sign that ends a tag. -/
def tameRule (q : Text → Prop) : Rule where
  element name _ := isRaw name = false ∧ q name
  string kind t := kind = .declaration → '>' ∉ t
  data kind content hread hkind := by
    rw [hkind] at hread
    cases hread
  blank kind := by simp

/-- The names of elements are of some sort. -/
def nameRule (q : Text → Prop) : Rule where
  element name _ := q name
  string _ _ := True
  data _ _ _ := trivial
  blank _ := ⟨trivial, trivial⟩

theorem mem_insertByName {entry other : Text × AttributeValue} {attributes : Attributes}
    (h : other ∈ insertByName entry attributes) : other = entry ∨ other ∈ attributes := by
  induction attributes with
  | nil => exact .inl (List.mem_singleton.mp h)
  | cons first others ih =>
    rw [insertByName] at h
    split at h
    · rcases List.mem_cons.mp h with rfl | h
      · exact .inr List.mem_cons_self
      · exact (ih h).imp_right (List.mem_cons_of_mem first)
    · exact List.mem_cons.mp h

/-- Sorting adds no attributes. -/
theorem mem_sortedByName {entry : Text × AttributeValue} {attributes : Attributes}
    (h : entry ∈ sortedByName attributes) : entry ∈ attributes := by
  induction attributes with
  | nil => exact h
  | cons first others ih =>
    rcases mem_insertByName h with rfl | h
    · exact List.mem_cons_self
    · exact List.mem_cons_of_mem first (ih h)

/-- The attributes of an element are written under keys. -/
theorem exists_entries {attributes : Attributes} (h : ∀ entry ∈ attributes, IsKey entry.1)
    (element : Text) :
    ∃ entries, attributesMarkup element attributes = entriesMarkup entries ∧
      ∀ entry ∈ entries, IsKey entry.1 := by
  refine ⟨(sortedByName attributes).map fun entry =>
    (entry.1, writtenValue element attributes entry.1 entry.2.toText), ?_, ?_⟩
  · rw [attributesMarkup, entriesMarkup, List.flatMap_map]
  · intro entry hentry
    obtain ⟨written, hwritten, rfl⟩ := List.mem_map.mp hentry
    exact h written (mem_sortedByName hwritten)

section

variable {q : Text → Prop}

theorem nameRule_allows_data (chunk : Text) : (nameRule q).Allows (.data chunk) := trivial

/-- A written string is read, and what is behind it. -/
theorem readsAs_stringMarkup {kind : StringKind} {t : Text} (hparsed : parsedRule.string kind t)
    (htame : (tameRule q).string kind t) {rest : Text}
    (hrest : ReadsAs (nameRule q).Allows rest) :
    ReadsAs (nameRule q).Allows (stringMarkup false kind t ++ rest) := by
  have hquiet : ∀ {token : Token}, (∀ name values closed, token ≠ .opening name values closed) →
      ∀ found ∈ [token], (nameRule q).Allows found := by
    intro token htoken found hfound
    obtain rfl := List.mem_singleton.mp hfound
    cases found with
    | opening name values closed => exact absurd rfl (htoken name values closed)
    | marked t => simp [Rule.Allows, nameRule]
    | _ => trivial
  cases kind with
  | comment =>
    exact hrest.markup (by simp) (readMarkup_comment hparsed rest) (hquiet (by simp))
  | cdata =>
    exact hrest.markup (by simp) (readMarkup_cdata hparsed rest) (hquiet (by simp))
  | instruction =>
    exact hrest.markup (by simp) (readMarkup_instruction hparsed rest) (hquiet (by simp))
  | declaration =>
    have hinside : '>' ∉ t ++ ['?'] := by simpa using htame rfl
    have hcut : stringMarkup false .declaration t ++ rest =
        '<' :: ('?' :: (t ++ ['?']) ++ ['>'] ++ rest) := by
      show ['<', '?'] ++ t ++ ['?', '>'] ++ rest = _
      simp
    rw [hcut]
    exact hrest.markup (by simp) (readMarkup_instruction hinside rest) (hquiet (by simp))
  | doctype =>
    have hfeed : ReadsAs (nameRule q).Allows ('\n' :: rest) := .plain (by decide) hrest
    have hcut : stringMarkup false .doctype t ++ rest =
        '<' :: ("!DOCTYPE ".toList ++ t ++ ['>'] ++ '\n' :: rest) := by
      show '<' :: "!DOCTYPE ".toList ++ t ++ ['>', '\n'] ++ rest = _
      simp
    rw [hcut]
    exact hfeed.markup (by simp) (readMarkup_doctype hparsed _) (hquiet (by simp))
  | _ => exact hrest.escape nameRule_allows_data t

/-- A tag is read by what begins with its name. -/
theorem readMarkup_name {name : Text} (hname : IsTagName name) (u : Text) :
    readMarkup none (name ++ u) = readOpening (name ++ u) := by
  obtain ⟨⟨c, t, rfl, hletter⟩, -, -⟩ := hname
  have hother : ∀ d, isLetter d = false → c ≠ d := by
    rintro d hd rfl
    rw [hletter] at hd
    cases hd
  unfold readMarkup
  split
  · rename_i heq
    cases heq
  · rename_i heq
    exact absurd (List.cons.inj heq).1 (hother '/' (by decide))
  · rename_i heq
    exact absurd (List.cons.inj heq).1 (hother '!' (by decide))
  · rename_i heq
    exact absurd (List.cons.inj heq).1 (hother '?' (by decide))
  · rename_i heq
    obtain ⟨rfl, -⟩ := List.cons.inj heq
    rw [if_pos hletter]

/-- A written start tag is read, and what is behind it. -/
theorem readsAs_startTag {name : Text} {attributes : Attributes}
    (hparsed : parsedRule.element name attributes) (htame : (tameRule q).element name attributes)
    (closed : Bool) {rest : Text} (hrest : ReadsAs (nameRule q).Allows rest) :
    ReadsAs (nameRule q).Allows
      ('<' :: name ++ attributesMarkup name attributes ++ tagEnd closed ++ rest) := by
  obtain ⟨hname, hkeys⟩ := hparsed
  obtain ⟨entries, hentries, hkeys⟩ := exists_entries hkeys name
  obtain ⟨values, hread⟩ := readOpening_written hname htame.1 hkeys closed rest
  rw [← readMarkup_name hname, ← hentries, ← List.append_assoc, ← List.append_assoc] at hread
  obtain ⟨c, t, rfl, -⟩ := hname.starts
  refine hrest.markup (by simp) hread fun token htoken => ?_
  obtain rfl := List.mem_singleton.mp htoken
  exact htame.2

/-- A written end tag is read, and what is behind it. -/
theorem readsAs_endTag {name : Text} (hname : IsTagName name) {rest : Text}
    (hrest : ReadsAs (nameRule q).Allows rest) :
    ReadsAs (nameRule q).Allows ('<' :: '/' :: name ++ ['>'] ++ rest) := by
  obtain ⟨closed, hread⟩ := readClosing_written hname rest
  have hmarkup : readMarkup none ('/' :: name ++ ['>'] ++ rest) =
      .ok (.complete [.closing closed] rest none) := by
    rw [List.append_assoc, List.singleton_append, ← hread]
    rfl
  refine hrest.markup (by simp) hmarkup fun token htoken => ?_
  obtain rfl := List.mem_singleton.mp htoken
  trivial

/-- Written nodes are read to their end, and their markup opens only elements of their names. -/
theorem readsAs_nodesMarkup {nodes : List Node} (hparsed : parsedRule.HoldsBelow nodes)
    (htame : (tameRule q).HoldsBelow nodes) {rest : Text}
    (hrest : ReadsAs (nameRule q).Allows rest) :
    ReadsAs (nameRule q).Allows (nodesMarkup false nodes ++ rest) := by
  induction nodes using Node.forest_induction generalizing rest with
  | nil => exact hrest
  | text kind content others ih =>
    obtain ⟨hstring, hothers⟩ := (Node.forall_preorderAll_text ..).mp hparsed
    obtain ⟨hcalm, hcalms⟩ := (Node.forall_preorderAll_text ..).mp htame
    rw [nodesMarkup, nodeMarkup, List.append_assoc]
    exact readsAs_stringMarkup hstring hcalm (ih hothers hcalms hrest)
  | element name attributes kids others ihKids ih =>
    obtain ⟨helement, hkids, hothers⟩ := (Node.forall_preorderAll_element ..).mp hparsed
    obtain ⟨hcalm, hcalmKids, hcalms⟩ := (Node.forall_preorderAll_element ..).mp htame
    have hbehind := ih hothers hcalms hrest
    rw [nodesMarkup, nodeMarkup]
    split
    · rw [List.append_assoc]
      exact readsAs_startTag helement hcalm true hbehind
    · have hinside := ihKids hkids hcalmKids (readsAs_endTag helement.1 hbehind)
      have hread := readsAs_startTag helement hcalm false hinside
      rw [hcalm.1]
      simpa [tagEnd] using hread

end

/-- The markup of a parsed tree without raw elements, and without declarations that hold the sign
that ends a tag, writes a tree that has no element of a new name. -/
theorem parse_markupOf {q : Text → Prop} {nodes : List Node} (hparsed : parsedRule.HoldsBelow nodes)
    (htame : (tameRule q).HoldsBelow nodes) :
    ∃ tree, parse stray (markupOf nodes) = .ok tree ∧ (nameRule q).HoldsBelow tree := by
  have hreads := readsAs_nodesMarkup hparsed htame .done
  rw [List.append_nil] at hreads
  obtain ⟨tokens, hscan, htokens⟩ := hreads.scan nameRule_allows_data
  refine ⟨_, ?_, Tree.holdsBelow_ofTokens htokens⟩
  rw [parse, markupOf, hscan]
  rfl

end PageMarkdown.Html
