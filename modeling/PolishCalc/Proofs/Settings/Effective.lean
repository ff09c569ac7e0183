import PolishCalc.Execution
import PolishCalc.Proofs.Script

/-!
# Effective settings

Commands that need settings get those that were loaded, made strict by the option, and do nothing
before that (`Invocation.execute_action`, `Invocation.run_settings`). If none can be loaded they do
nothing at all (`Invocation.run_action_refused`).
-/

namespace PolishCalc.Invocation

/-- What a command does with the settings, if it needs any. -/
def action? : Option Command → Option (Settings → Script CommandError Unit)
  | some (.eval expression) => some fun settings => Execution.eval settings expression
  | some (.render expression order) => some fun settings =>
      Execution.render settings expression order
  | some (.tree expression) => some fun settings => Execution.tree settings expression
  | some .configShow => some Execution.configShow
  | some .interactive => some Execution.interactive
  | none => some Execution.interactive
  | some .configPath => none
  | some (.configInit _) => none
  | some (.completion _) => none

/-- The loaded settings with the strict option of the command line. -/
def effective (invocation : Invocation) (loaded : Settings) : Settings :=
  { loaded with strict := loaded.strict || invocation.strict }

/-- A command that needs settings begins with resolving them. -/
theorem execute_action {invocation : Invocation} {action : Settings → Script CommandError Unit}
    (needs : action? invocation.command = some action) (surroundings : Surroundings) :
    invocation.execute surroundings = (invocation.settings surroundings).bind action := by
  obtain ⟨debug, config, strict, command⟩ := invocation
  cases command with
  | none =>
      obtain rfl := Option.some.inj needs
      rfl
  | some command =>
      cases command with
      | configPath => exact nomatch needs
      | configInit force => exact nomatch needs
      | completion shell => exact nomatch needs
      | _ =>
          obtain rfl := Option.some.inj needs
          rfl

theorem run_settings {invocation : Invocation} {surroundings : Surroundings}
    {machine machine' : Machine} {loaded : Settings}
    (success : (Settings.load surroundings invocation.config).run machine =
      (.done loaded, machine')) :
    (invocation.settings surroundings).run machine =
      (.done (invocation.effective loaded), machine') := by
  rw [settings]
  show (Script.bind _ _).run machine = _
  rw [Script.run_bind, Script.run_mapError, success]
  rfl

/-- A command that needs settings goes on with the effective ones. -/
theorem run_action {invocation : Invocation} {surroundings : Surroundings}
    {action : Settings → Script CommandError Unit} {machine machine' : Machine} {loaded : Settings}
    (needs : action? invocation.command = some action)
    (success : (Settings.load surroundings invocation.config).run machine =
      (.done loaded, machine')) :
    (invocation.execute surroundings).run machine =
      (action (invocation.effective loaded)).run machine' := by
  rw [execute_action needs, Script.run_bind, run_settings success]
  rfl

/-- A command that needs settings fails as loading them does. -/
theorem run_action_refused {invocation : Invocation} {surroundings : Surroundings}
    {action : Settings → Script CommandError Unit} {machine machine' : Machine} {error : RunError}
    (needs : action? invocation.command = some action)
    (refused : (Settings.load surroundings invocation.config).run machine =
      (.failed error, machine')) :
    (invocation.execute surroundings).run machine = (.failed (.application error), machine') := by
  rw [execute_action needs, Script.run_bind, settings, Script.bind_eq, Script.run_bind,
    Script.run_mapError, refused]
  rfl

end PolishCalc.Invocation
