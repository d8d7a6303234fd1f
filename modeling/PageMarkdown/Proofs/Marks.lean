import PageMarkdown.Markdown.Conversion
import PageMarkdown.Proofs.Report

/-!
# What the marks of a walk come to

Telling the marks of a walk ends with a value exactly when no string had a
numeral that is too long, and then it says whether some element was cut. The
events tell the first cut and no other one.
-/

namespace PageMarkdown.Markdown

open Text Html

namespace Mark

/-- The mark of an element that was cut. -/
def isCut : Mark → Bool
  | cut _ => true
  | _ => false

/-- The mark of a string that cannot be shown. -/
def isFault : Mark → Bool
  | longNumeral _ => true
  | _ => false

/-- The numeral that the mark refuses, if it does. -/
def refused? : Mark → Option Numeral.TooLong
  | longNumeral n => some n
  | _ => none

end Mark

end PageMarkdown.Markdown

namespace PageMarkdown

/-- The event that tells a cut. -/
def Event.isTruncation : Event → Bool
  | truncated _ _ => true
  | _ => false

end PageMarkdown

namespace PageMarkdown.Markdown

open Text Html

namespace Marked

variable {α : Type}

@[simp] theorem value_append (m n : Marked (List α)) : (m ++ n).value = m.value ++ n.value := rfl

@[simp] theorem marks_append (m n : Marked (List α)) : (m ++ n).marks = m.marks ++ n.marks := rfl

@[simp] theorem append_clear (m : Marked (List α)) : m ++ clear [] = m := by
  show (⟨m.value ++ [], m.marks ++ []⟩ : Marked (List α)) = m
  rw [List.append_nil, List.append_nil]

end Marked

/-- The result of a run, unless it ends at a numeral that is refused. -/
def unlessRefused {α : Type} (refused : Option Numeral.TooLong) (a : α) : Except Fault α :=
  match refused with
  | some n => .error (.longNumeral n)
  | none => .ok a

theorem unlessRefused_eq_ok_iff {α : Type} {refused : Option Numeral.TooLong} {a b : α} :
    unlessRefused refused a = .ok b ↔ refused = none ∧ b = a := by
  cases refused with
  | none => simp [unlessRefused, eq_comm]
  | some n => simp [unlessRefused]

/-- Telling marks ends with the first refused numeral, if there is one. -/
theorem tellMarks_outcome (limit : Int) (truncated : Bool) (marks : List Mark) :
    (tellMarks limit truncated marks).outcome =
      unlessRefused (marks.findSome? Mark.refused?) (truncated || marks.any Mark.isCut) := by
  induction marks generalizing truncated with
  | nil => simp [tellMarks, unlessRefused]
  | cons mark marks ih =>
    cases mark with
    | cut element =>
      cases truncated with
      | true => simp [tellMarks, ih, List.findSome?_cons, Mark.refused?]
      | false => simp [tellMarks, ih, List.findSome?_cons, Mark.refused?, Mark.isCut]
    | hollowTable rows =>
      simp [tellMarks, ih, List.findSome?_cons, Mark.refused?, Mark.isCut]
    | longNumeral n => rfl

/-- What goes on behind marks ends as it does, unless a numeral is refused before. -/
theorem outcome_tellMarks_andThen {α : Type} (limit : Int) (truncated : Bool) (marks : List Mark)
    (f : Bool → Report α) :
    ((tellMarks limit truncated marks).andThen f).outcome =
      (unlessRefused (marks.findSome? Mark.refused?) (truncated || marks.any Mark.isCut)).bind
        fun cut => (f cut).outcome := by
  rw [← tellMarks_outcome limit]
  exact Report.outcome_bind _ f

/-- A mark is a fault when it refuses a numeral. -/
theorem any_isFault (marks : List Mark) :
    marks.any Mark.isFault = (marks.findSome? Mark.refused?).isSome := by
  induction marks with
  | nil => rfl
  | cons mark marks ih => cases mark <;> simp [List.findSome?_cons, Mark.isFault, Mark.refused?, ih]

/-- Telling marks ends with a value when none of them is a fault; the value says whether something
has been cut by then. -/
theorem tellMarks_outcome_iff (limit : Int) (truncated : Bool) (marks : List Mark) (cut : Bool) :
    (tellMarks limit truncated marks).outcome = .ok cut ↔
      marks.any Mark.isFault = false ∧ cut = (truncated || marks.any Mark.isCut) := by
  rw [tellMarks_outcome, any_isFault, unlessRefused_eq_ok_iff, Option.isSome_eq_false_iff,
    Option.isNone_iff_eq_none]

/-- Runs that may each be refused are refused as a whole by the first one that is. -/
theorem mapM_unlessRefused {α β : Type} (refused? : α → Option Numeral.TooLong) (result : α → β)
    (as : List α) :
    (as.mapM fun a => unlessRefused (refused? a) (result a)) =
      unlessRefused (as.findSome? refused?) (as.map result) := by
  induction as with
  | nil => rfl
  | cons a as ih =>
    rw [List.mapM_cons, ih, List.findSome?_cons]
    cases refused? a with
    | some n => rfl
    | none => cases as.findSome? refused? <;> rfl

/-- Telling marks ends with a fault when one of them is a fault. -/
theorem exists_fault_tellMarks (limit : Int) (truncated : Bool) {marks : List Mark}
    (h : marks.any Mark.isFault = true) :
    ∃ e, (tellMarks limit truncated marks).outcome = .error e := by
  rw [any_isFault, Option.isSome_iff_exists] at h
  obtain ⟨n, hn⟩ := h
  exact ⟨.longNumeral n, by rw [tellMarks_outcome, hn]; rfl⟩

/-- The marks before the first fault. -/
def told : List Mark → List Mark
  | [] => []
  | .longNumeral _ :: _ => []
  | mark :: others => mark :: told others

/-- Behind a fault no mark is told. -/
theorem told_append (marks others : List Mark) :
    told (marks ++ others) =
      if marks.any Mark.isFault then told marks else marks ++ told others := by
  induction marks with
  | nil => rfl
  | cons mark marks ih =>
    cases mark with
    | longNumeral n => rfl
    | cut element =>
      simp only [List.cons_append, told, ih, List.any_cons, Mark.isFault, Bool.false_or]
      split <;> rfl
    | hollowTable rows =>
      simp only [List.cons_append, told, ih, List.any_cons, Mark.isFault, Bool.false_or]
      split <;> rfl

/-- Without a fault all marks are told. -/
theorem told_of_sound {marks : List Mark} (h : marks.any Mark.isFault = false) :
    told marks = marks := by
  have happend := told_append marks []
  rwa [h, List.append_nil, told, List.append_nil] at happend

/-- Marks are told one list after the other. -/
theorem tellMarks_append (limit : Int) (truncated : Bool) (marks others : List Mark) :
    tellMarks limit truncated (marks ++ others) =
      (tellMarks limit truncated marks).andThen fun cut => tellMarks limit cut others := by
  induction marks generalizing truncated with
  | nil => rfl
  | cons mark marks ih =>
    cases mark with
    | cut element =>
      cases truncated with
      | true => exact ih true
      | false => simp [tellMarks, ih, Report.andThen_assoc]
    | hollowTable rows => simp [tellMarks, ih, Report.andThen_assoc]
    | longNumeral n => rfl

/-- The first cut is told and no other one; none is when one has been told before. -/
theorem count_truncations (limit : Int) (truncated : Bool) (marks : List Mark) :
    (tellMarks limit truncated marks).events.countP Event.isTruncation =
      (!truncated && (told marks).any Mark.isCut).toNat := by
  induction marks generalizing truncated with
  | nil => cases truncated <;> rfl
  | cons mark marks ih =>
    cases mark with
    | cut element =>
      cases truncated with
      | true => exact ih true
      | false => simp [tellMarks, told, List.countP_cons, Event.isTruncation, Mark.isCut, ih]
    | hollowTable rows => simp [tellMarks, told, Event.isTruncation, Mark.isCut, ih]
    | longNumeral n => simp [tellMarks, told, Report.fault]

/-- The first cut is told once. -/
theorem count_truncations_le_one (limit : Int) (truncated : Bool) (marks : List Mark) :
    (tellMarks limit truncated marks).events.countP Event.isTruncation ≤ 1 := by
  rw [count_truncations]
  exact Bool.toNat_le _

/-- When marks have been told to their end, one cut has been told if there was one, and none
otherwise. -/
theorem count_truncations_of_ok {limit : Int} {marks : List Mark} {cut : Bool}
    (h : (tellMarks limit false marks).outcome = .ok cut) :
    (tellMarks limit false marks).events.countP Event.isTruncation = if cut then 1 else 0 := by
  obtain ⟨hsound, rfl⟩ := (tellMarks_outcome_iff ..).mp h
  rw [count_truncations, told_of_sound hsound]
  cases marks.any Mark.isCut <;> rfl

namespace Converter

/-- A walk is finished with a value when none of its marks is a fault; the converter remembers
whether something has been cut. -/
theorem finish_outcome_iff {α : Type} (c c' : Converter) (m : Marked α) (a : α) :
    (c.finish m).outcome = .ok (a, c') ↔
      m.marks.any Mark.isFault = false ∧ a = m.value ∧
        c' = { c with truncated := c.truncated || m.marks.any Mark.isCut } := by
  rw [finish, Report.outcome_andThen_eq_ok_iff]
  constructor
  · rintro ⟨cut, hcut, he⟩
    obtain ⟨hfault, rfl⟩ := (tellMarks_outcome_iff ..).mp hcut
    simp only [Report.outcome_ok, Except.ok.injEq, Prod.mk.injEq] at he
    exact ⟨hfault, he.1.symm, he.2.symm⟩
  · rintro ⟨hfault, rfl, rfl⟩
    exact ⟨_, (tellMarks_outcome_iff ..).mpr ⟨hfault, rfl⟩, rfl⟩

/-- Finishing a walk tells its marks and nothing else. -/
theorem finish_events {α : Type} (c : Converter) (m : Marked α) :
    (c.finish m).events = (tellMarks c.limit c.truncated m.marks).events :=
  Report.events_andThen_silent _ _ fun _ => rfl

/-- A document is converted when no string in reach is a fault: to the settled Markdown of its
nodes. -/
theorem convertDocument_outcome_iff (c c' : Converter) (nodes : List Node) (t : Text) :
    (c.convertDocument nodes).outcome = .ok (t, c') ↔
      (walkAll c.room 0 nodes).marks.any Mark.isFault = false ∧
        t = settle (walkAll c.room 0 nodes).value ∧
        c' = { c with
          truncated := c.truncated || (walkAll c.room 0 nodes).marks.any Mark.isCut } :=
  finish_outcome_iff c c' ((walkAll c.room 0 nodes).map settle) t

/-- The Markdown of a document, or the fault that its conversion ends in. -/
def documentText (c : Converter) (nodes : List Node) : Except Fault Text :=
  (c.convertDocument nodes).outcome.map Prod.fst

/-- The Markdown of a node inside lists of a depth, or the fault that its conversion ends in. -/
def nodeText (c : Converter) (depth : Nat) (node : Node) : Except Fault Text :=
  (c.convert depth node).outcome.map Prod.fst

/-- The Markdown of nodes inside lists of a depth, or the fault that their conversion ends in. -/
def contentText (c : Converter) (depth : Nat) (nodes : List Node) : Except Fault Text :=
  (c.convertAll depth nodes).outcome.map Prod.fst

/-- A walk is finished with its value, unless one of its marks refuses a numeral. -/
theorem outcome_finish {α : Type} (c : Converter) (m : Marked α) :
    (c.finish m).outcome.map Prod.fst =
      unlessRefused (m.marks.findSome? Mark.refused?) m.value := by
  rw [finish, outcome_tellMarks_andThen]
  cases m.marks.findSome? Mark.refused? <;> rfl

/-- A document has the settled Markdown of its nodes, unless a numeral in it is refused. -/
theorem documentText_eq (c : Converter) (nodes : List Node) :
    c.documentText nodes =
      unlessRefused ((walkAll c.room 0 nodes).marks.findSome? Mark.refused?)
        (settle (walkAll c.room 0 nodes).value) :=
  c.outcome_finish ((walkAll c.room 0 nodes).map settle)

end Converter

end PageMarkdown.Markdown
