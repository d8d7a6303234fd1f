import PageMarkdown.Report

/-!
# How runs end

A run of several parts ends with a value when each part does, and with the first
fault otherwise. A run on a state also leaves a state, whichever way it ends.
-/

namespace PageMarkdown.Report

/-! ## Runs without a state -/

section

variable {α β : Type}

@[simp] theorem outcome_ok (a : α) : (ok a).outcome = .ok a := rfl
@[simp] theorem events_ok (a : α) : (ok a).events = [] := rfl

/-- After an event has been told, a run ends as what follows it. -/
@[simp] theorem outcome_tell_andThen (e : Event) (f : Unit → Report β) :
    ((tell e).andThen f).outcome = (f ()).outcome := rfl

/-- The events of a run that tells an event first. -/
@[simp] theorem events_tell_andThen (e : Event) (f : Unit → Report β) :
    ((tell e).andThen f).events = e :: (f ()).events := rfl

/-- A run of two parts ends with a value when both do. -/
theorem outcome_andThen_eq_ok_iff (r : Report α) (f : α → Report β) (b : β) :
    (r.andThen f).outcome = .ok b ↔ ∃ a, r.outcome = .ok a ∧ (f a).outcome = .ok b := by
  unfold andThen
  cases h : r.outcome with
  | error e => simp
  | ok a => simp

/-- A run that goes on without events tells what its first part told. -/
theorem events_andThen_silent (r : Report α) (f : α → Report β)
    (h : ∀ a, (f a).events = []) : (r.andThen f).events = r.events := by
  unfold andThen
  cases r.outcome with
  | error e => rfl
  | ok a => simp [h]

/-- A run of three parts may be cut at either place. -/
theorem andThen_assoc {γ : Type} (r : Report α) (f : α → Report β) (g : β → Report γ) :
    (r.andThen f).andThen g = r.andThen fun a => (f a).andThen g := by
  unfold andThen
  cases r.outcome with
  | error e => rfl
  | ok a =>
    cases h : (f a).outcome with
    | error e => simp [h]
    | ok b => simp [h]

/-- A run that ends as given ends with a value when that is one. -/
theorem outcome_ofExcept_eq_ok_iff {ε : Type} {toFault : ε → Fault} {r : Except ε α} {a : α} :
    (ofExcept toFault r).outcome = .ok a ↔ r = .ok a := by
  cases r <;> simp [ofExcept, ok, fault]

/-- A run of two parts ends as the second one does, unless the first one fails. -/
theorem outcome_bind (r : Report α) (f : α → Report β) :
    (r >>= f).outcome = r.outcome.bind fun a => (f a).outcome := by
  show (r.andThen f).outcome = _
  rw [andThen]
  cases r.outcome <;> rfl

/-- A run ends in a fault. -/
def Fails (r : Report α) : Prop := ∃ fault, r.outcome = .error fault

end

/-! ## Runs on a state -/

section

variable {σ α β : Type}

/-- How a run on a state ends: with a state, and with a value or a fault. -/
def ended (run : σ × Report α) : σ × Except Fault α := (run.1, run.2.outcome)

/-- After a value the run goes on from the state that was left. -/
theorem ended_thenOn_ok {first : σ × Report α} {s : σ} {a : α} (h : ended first = (s, .ok a))
    (next : α → σ → σ × Report β) : ended (thenOn first next) = ended (next a s) := by
  obtain ⟨rfl, ha⟩ := Prod.mk.inj h
  rw [thenOn, ha]
  rfl

/-- A fault ends the run where it is. -/
theorem ended_thenOn_error {first : σ × Report α} {s : σ} {e : Fault}
    (h : ended first = (s, .error e)) (next : α → σ → σ × Report β) :
    ended (thenOn first next) = (s, .error e) := by
  obtain ⟨rfl, he⟩ := Prod.mk.inj h
  rw [thenOn, he]
  rfl

/-- A run of two parts returns when the first part does and the second one does from there. -/
theorem ended_thenOn_eq_ok_iff {first : σ × Report α} {next : α → σ → σ × Report β} {s : σ}
    {b : β} : ended (thenOn first next) = (s, .ok b) ↔
      ∃ made a, ended first = (made, .ok a) ∧ ended (next a made) = (s, .ok b) := by
  cases h : first.2.outcome with
  | error e =>
    have hfirst : ended first = (first.1, .error e) := by rw [ended, h]
    rw [ended_thenOn_error hfirst, hfirst]
    simp
  | ok a =>
    have hfirst : ended first = (first.1, .ok a) := by rw [ended, h]
    rw [ended_thenOn_ok hfirst, hfirst]
    constructor
    · exact fun hnext => ⟨first.1, a, rfl, hnext⟩
    · rintro ⟨made, a', hsame, hnext⟩
      obtain ⟨rfl, ha⟩ := Prod.mk.inj hsame
      rwa [Except.ok.inj ha]

/-- What follows a run matters only from the state that the run left. -/
theorem thenOn_congr {first : σ × Report α} {next next' : α → σ → σ × Report β}
    (h : ∀ a, next a first.1 = next' a first.1) : thenOn first next = thenOn first next' := by
  unfold thenOn
  cases first.2.outcome with
  | error e => rfl
  | ok a => simp only [h a]

/-- After a value for the first item, the others are done from the state that was left. -/
theorem ended_each_cons_ok {step : α → σ → σ × Report Unit} {a : α} {s made : σ}
    (h : ended (step a s) = (made, .ok ())) (others : List α) :
    ended (each step (a :: others) s) = ended (each step others made) := by
  obtain ⟨rfl, hok⟩ := Prod.mk.inj h
  simp only [each, hok]
  rfl

/-- After a fault for the first item, no other one is done. -/
theorem ended_each_cons_error {step : α → σ → σ × Report Unit} {a : α} {s made : σ} {e : Fault}
    (h : ended (step a s) = (made, .error e)) (others : List α) :
    ended (each step (a :: others) s) = (made, .error e) := by
  obtain ⟨rfl, herror⟩ := Prod.mk.inj h
  simp only [each, herror]
  rfl

/-- What every step keeps, a run over items keeps, whichever way it ends. -/
theorem each_keeps {step : α → σ → σ × Report Unit} {P : σ → Prop}
    (h : ∀ a s, P s → P (step a s).1) {s : σ} (hs : P s) (items : List α) :
    P (each step items s).1 := by
  induction items generalizing s with
  | nil => exact hs
  | cons a others ih =>
    rw [each]
    dsimp only
    split
    · exact h a s hs
    · exact ih (h a s hs)

/-- Doing something for each item returns when it does for the first item, and then for the others
from there. -/
theorem ended_each_cons_eq_ok_iff {step : α → σ → σ × Report Unit} {a : α} {others : List α}
    {s s' : σ} : ended (each step (a :: others) s) = (s', .ok ()) ↔
      ∃ made, ended (step a s) = (made, .ok ()) ∧ ended (each step others made) = (s', .ok ()) := by
  simp only [each]
  cases h : (step a s).2.outcome with
  | error e => simp [ended, h]
  | ok u => simp [ended, h]

end

end PageMarkdown.Report
