import PageMarkdown.Proofs.BlankRuns
import PageMarkdown.Proofs.Html.Node
import PageMarkdown.Proofs.Marks
import PageMarkdown.Proofs.Settings

/-!
# How a conversion ends

A conversion of markup is settled by four questions: whether the markup is blank,
whether its parser exists, whether it has a tree, and whether there is room to
walk it. Only a tree builder that does more than refuse the markup, and a numeral
that the walk refuses, end it without a result.
-/

namespace PageMarkdown

/-- The settings that a conversion goes by. -/
def ConvertSettings.inUse (env : Environment) (settings : Option ConvertSettings) :
    ConvertSettings :=
  settings.getD ⟨defaultParser, min defaultDepth env.safeDepth⟩

/-- Settings are always found. -/
theorem ConvertSettings.orDefault_outcome (env : Environment)
    (settings : Option ConvertSettings) :
    (orDefault env settings).outcome = .ok (inUse env settings) := by
  cases settings with
  | some settings => rfl
  | none => exact standard_outcome env

open Html in
/-- What a parser makes of markup: a tree, no tree when there is no such parser or it refuses the
markup, or a fault. -/
def Environment.treeOf (env : Environment) (parser markup : Text) :
    Except Fault (Option (List Node)) :=
  match env.builder? parser with
  | none => .ok none
  | some build =>
    match build markup with
    | .ok nodes => .ok (some nodes)
    | .error .rejectedMarkup => .ok none
    | .error e => .error e

namespace Environment

open Html

variable {env : Environment} {parser markup : Text} {nodes : List Node}

theorem builder?_default (env : Environment) : env.builder? defaultParser = some env.build := rfl

/-- A tree of markup is one that the tree builder of the parser has built. -/
theorem treeOf_eq_tree_iff : env.treeOf parser markup = .ok (some nodes) ↔
    ∃ build, env.builder? parser = some build ∧ build markup = .ok nodes := by
  rw [treeOf]
  cases env.builder? parser with
  | none => simp
  | some build =>
    simp only [Option.some.injEq, exists_eq_left']
    split <;> simp_all

/-- Markup has no tree when there is no parser or its tree builder refuses the markup. -/
theorem treeOf_eq_none_iff : env.treeOf parser markup = .ok none ↔
    env.builder? parser = none ∨
      ∃ build, env.builder? parser = some build ∧ build markup = .error .rejectedMarkup := by
  rw [treeOf]
  cases env.builder? parser with
  | none => simp
  | some build =>
    simp only [Option.some.injEq, exists_eq_left', reduceCtorEq, false_or]
    split <;> simp_all

/-- Any other failure of a tree builder is a fault. -/
theorem treeOf_eq_error_iff {fault : Fault} : env.treeOf parser markup = .error fault ↔
    fault ≠ .rejectedMarkup ∧
      ∃ build, env.builder? parser = some build ∧ build markup = .error fault := by
  rw [treeOf]
  cases env.builder? parser with
  | none => simp
  | some build =>
    simp only [Option.some.injEq, exists_eq_left']
    split
    · simp_all
    · rename_i hrefused
      simp only [hrefused, reduceCtorEq, Except.error.injEq, false_iff, not_and]
      exact fun hne hsame => hne hsame.symm
    · rename_i hne herror
      rw [herror]
      simp only [Except.error.injEq, ne_eq]
      exact ⟨fun h => ⟨fun hrefused => hne (by rw [h, hrefused]), h⟩, And.right⟩

/-- What the default parser builds of markup that writes a document. -/
theorem build_eq_ok_iff : env.build markup = .ok nodes ↔ parse env.stray markup = .ok nodes := by
  rw [build]
  cases parse env.stray markup <;> simp [Except.mapError]

/-- What the default parser ends in on markup that writes none. -/
theorem build_eq_error_iff {fault : Fault} : env.build markup = .error fault ↔
    ∃ e, parse env.stray markup = .error e ∧ fault = e.toFault := by
  rw [build]
  cases parse env.stray markup <;> simp [Except.mapError, eq_comm]

/-- Markup that writes a document has it as its tree by the default parser. -/
theorem treeOf_of_parse (h : parse env.stray markup = .ok nodes) :
    env.treeOf defaultParser markup = .ok (some nodes) :=
  treeOf_eq_tree_iff.mpr ⟨_, rfl, build_eq_ok_iff.mpr h⟩

/-- The default parser has built every tree that it makes of markup. -/
theorem parse_of_treeOf (h : env.treeOf defaultParser markup = .ok (some nodes)) :
    parse env.stray markup = .ok nodes := by
  obtain ⟨build, hbuilder, hbuild⟩ := treeOf_eq_tree_iff.mp h
  obtain rfl := Option.some.inj ((builder?_default env).symm.trans hbuilder)
  exact build_eq_ok_iff.mp hbuild

end Environment

end PageMarkdown

namespace PageMarkdown.Markdown

open Text Html

/-- The body of a document is the whole tree or what one node of it holds. -/
theorem isRoot_bodyOf (nodes : List Node) : Node.IsRoot nodes (bodyOf nodes) := by
  unfold bodyOf
  split
  · rename_i body hbody
    exact .below (List.mem_of_find?_eq_some hbody)
  · exact .whole

variable (env : Environment) (settings : Option ConvertSettings) (markup : Text)

/-- The Markdown of markup that is not blank, or the fault that its conversion ends in. -/
def convertedOrFault : Except Fault Text :=
  let used := ConvertSettings.inUse env settings
  match env.treeOf used.parser markup with
  | .error e => .error e
  | .ok none => .ok (plainText markup)
  | .ok (some nodes) =>
    if env.stackFull then .ok (plainText markup)
    else (Converter.make env used).documentText (bodyOf nodes)

/-- The tree that settings find in markup is what their parser makes of it. -/
theorem parseWith_outcome (used : ConvertSettings) :
    (parseWith env used markup).outcome = env.treeOf used.parser markup := by
  rw [parseWith, Environment.treeOf]
  cases env.builder? used.parser with
  | none => rfl
  | some build =>
    dsimp only
    cases build markup with
    | ok nodes => rfl
    | error e => cases e <;> rfl

/-- A tree is walked when there is room for it. -/
theorem convertTree_outcome (used : ConvertSettings) (nodes : List Node) :
    (convertTree env used markup nodes).outcome =
      if env.stackFull then .ok (plainText markup)
      else (Converter.make env used).documentText (bodyOf nodes) := by
  rw [convertTree]
  split
  · rfl
  · rw [Report.outcome_bind, Converter.documentText]
    cases (Converter.convertDocument _ _).outcome <;> rfl

/-- The conversion of markup walks a tree: the one that the parser makes of it, with room for it. -/
structure Walks (nodes : List Node) : Prop where
  /-- Blank markup has no tree. -/
  filled : isAllBlank markup = false
  /-- The tree is the one of the markup. -/
  tree : env.treeOf (ConvertSettings.inUse env settings).parser markup = .ok (some nodes)
  /-- There is room on the stack. -/
  room : env.stackFull = false

/-- Blank markup is nothing; any other markup is converted as the questions are answered. -/
theorem ofHtml_outcome :
    (ofHtml env settings markup).outcome =
      if isAllBlank markup then .ok [] else convertedOrFault env settings markup := by
  rw [ofHtml]
  split
  · rfl
  · rw [Report.outcome_bind, ConvertSettings.orDefault_outcome, Except.bind,
      Report.outcome_bind, parseWith_outcome, convertedOrFault]
    cases env.treeOf (ConvertSettings.inUse env settings).parser markup with
    | error e => rfl
    | ok found =>
      cases found with
      | none => rfl
      | some nodes => exact convertTree_outcome env markup _ nodes

variable {env settings markup} in
/-- Markup whose tree is walked becomes the document of its body. -/
theorem Walks.ofHtml_outcome {nodes : List Node} (h : Walks env settings markup nodes) :
    (ofHtml env settings markup).outcome =
      (Converter.make env (ConvertSettings.inUse env settings)).documentText (bodyOf nodes) := by
  rw [Markdown.ofHtml_outcome, h.filled, if_neg Bool.false_ne_true, convertedOrFault, h.tree]
  exact if_neg (by simp [h.room])

/-- No markup converts to nothing. -/
theorem ofHtml_nil : (ofHtml env settings []).outcome = .ok [] := by
  rw [ofHtml_outcome, isAllBlank, List.all_nil, if_pos rfl]

end PageMarkdown.Markdown
