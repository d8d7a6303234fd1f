import Mathlib.Data.Int.Order.Basic
import PageMarkdown.Proofs.Report
import PageMarkdown.Settings

/-!
# Settings in range

However deep a nesting is asked for, the settings of a conversion are found, with
a depth between 1 and what the stack has room for. A depth set from outside counts
when it can be read as a positive integer; otherwise the default depth does.
-/

namespace PageMarkdown

variable (env : Environment)

theorem Environment.one_le_safeDepth : 1 ≤ env.safeDepth := le_max_left ..

/-- A depth is brought into the range up to the safe depth. -/
theorem Environment.clampDepth_outcome (depth : Int) :
    (env.clampDepth depth).outcome = .ok (max 1 (min depth env.safeDepth)) := by
  have hsafe := env.one_le_safeDepth
  rw [clampDepth]
  split
  · rename_i hdeep
    rw [min_eq_right (le_of_lt hdeep), max_eq_right hsafe]
    rfl
  · rename_i hdeep
    rw [min_eq_left (not_lt.mp hdeep)]
    rfl

namespace ConvertSettings

theorem make_outcome (parser : Text) (depth : Int) :
    (make env parser depth).outcome = .ok ⟨parser, max 1 (min depth env.safeDepth)⟩ := by
  rw [make, Report.outcome_bind, env.clampDepth_outcome]
  rfl

/-- A positive depth is only lowered. -/
theorem make_outcome_of_pos (parser : Text) {depth : Int} (h : 1 ≤ depth) :
    (make env parser depth).outcome = .ok ⟨parser, min depth env.safeDepth⟩ := by
  rw [make_outcome, max_eq_right (le_min h env.one_le_safeDepth)]

theorem standard_outcome :
    (standard env).outcome = .ok ⟨defaultParser, min defaultDepth env.safeDepth⟩ :=
  make_outcome_of_pos env defaultParser (by decide)

/-- A depth set from outside counts when it is read as a positive integer. -/
theorem fromEnvironment_outcome {setting : Text} (h : env.depthSetting = some setting) :
    (fromEnvironment env).outcome =
      let depth := (Numeral.integer? setting).getD 0
      .ok ⟨defaultParser, min (if 1 ≤ depth then depth else defaultDepth) env.safeDepth⟩ := by
  rw [fromEnvironment, h]
  cases setting with
  | nil => exact standard_outcome env
  | cons c setting =>
    dsimp only
    generalize (Numeral.integer? (c :: setting)).getD 0 = depth
    by_cases hdepth : 1 ≤ depth
    · rw [if_neg (not_lt.mpr hdepth), if_pos hdepth]
      exact make_outcome_of_pos env defaultParser hdepth
    · rw [if_pos (not_le.mp hdepth), if_neg hdepth]
      exact standard_outcome env

/-- Settings are read from outside whatever is set there, and name the default parser. -/
theorem exists_fromEnvironment :
    ∃ depth, (fromEnvironment env).outcome = .ok ⟨defaultParser, depth⟩ := by
  cases h : env.depthSetting with
  | none =>
    rw [fromEnvironment, h]
    exact ⟨_, standard_outcome env⟩
  | some setting => exact ⟨_, fromEnvironment_outcome env h⟩

end ConvertSettings

end PageMarkdown
