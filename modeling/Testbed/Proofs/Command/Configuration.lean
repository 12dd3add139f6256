import Testbed.Command.Configuration
import Testbed.Proofs.Pool.Deed
import Testbed.Proofs.RunConfig

/-!
# Checks of a run configuration and its validity

This file supplies how the checks that the command line lists agree with the validity of a run
configuration.  The listing goes over the sections that are there and collects what becomes of
each; validity goes over them in the same order and stops at the first fault.  So the fault is
that of the first check that fails, and all checks succeed exactly if there is none.
-/

namespace Testbed.Command

/-! ## Verdicts -/

namespace Check

/-- What a check comes to, without its details. -/
def verdict (check : Check) : Result Unit :=
  check.result.map fun _ => ()

theorem verdict_eq_ok_iff {check : Check} : check.verdict = .ok () ↔ check.isOk = true := by
  rw [verdict, isOk]
  cases check.result <;> simp [Except.map, Except.toOption]

end Check

/-- The fault of the first check that fails, if one does. -/
def firstFault (checks : List Check) : Result Unit :=
  firstFailure (checks.map Check.verdict)

theorem firstFault_cons (check : Check) (checks : List Check) :
    firstFault (check :: checks) = check.verdict.bind fun _ => firstFault checks :=
  firstFailure_cons ..

theorem firstFault_append (first second : List Check) :
    firstFault (first ++ second) = (firstFault first).bind fun _ => firstFault second := by
  rw [firstFault, List.map_append, firstFailure_append]
  rfl

theorem firstFault_eq_ok_iff {checks : List Check} :
    firstFault checks = .ok () ↔ checks.all Check.isOk = true := by
  rw [firstFault, firstFailure_eq_ok_iff, List.forall_mem_map, List.all_eq_true]
  simp only [Check.verdict_eq_ok_iff]

/-- The check of a part that may be left out faults what the check of the part does. -/
theorem firstFault_toList {α : Type} (check : α → Check) (part : Option α) :
    firstFault (part.map check).toList =
      RunConfig.checkPart (fun value => (check value).verdict) part := by
  cases part with
  | none => rfl
  | some value =>
      rw [Option.map_some, Option.toList_some, firstFault_cons]
      change _ = (check value).verdict
      cases (check value).verdict <;> rfl

/-! ## The sections -/

variable {files : FileTree}

theorem verdict_checkContainer (config : Docker.Config) :
    (checkContainer config).verdict = config.validate := by
  rw [Check.verdict, checkContainer]
  cases config.validate <;> rfl

theorem verdict_checkMachine (item path : String) :
    (checkMachine files item path).verdict = discard (Qemu.Config.load files path) := by
  rw [Check.verdict, checkMachine]
  cases Qemu.Config.load files path <;> rfl

theorem verdict_checkTrace (config : Trace.TraceConfig) :
    (checkTrace config).verdict = config.capture.validate := by
  rw [Check.verdict, checkTrace]
  cases config.capture.validate <;> rfl

theorem verdict_checkBackend (config : RunConfig) :
    (checkBackend config).verdict = discard config.selectedBackend := by
  rw [Check.verdict, checkBackend]
  cases config.selectedBackend <;> rfl

/-- Validity stops at the fault of the first section whose check fails. -/
theorem firstFault_checkSections (config : RunConfig) :
    firstFault (checkSections files config) = config.validate files := by
  have backend_part :
      firstFault (if config.namesBackend then [checkBackend config] else []) =
        RunConfig.checkPart (fun _ => discard config.selectedBackend)
          (if config.namesBackend then some () else none) := by
    cases config.namesBackend with
    | false => rfl
    | true =>
        rw [← verdict_checkBackend]
        exact firstFault_toList (fun _ => checkBackend config) (some ())
  simp only [checkSections, List.append_assoc, firstFault_append, firstFault_toList, backend_part,
    verdict_checkContainer, verdict_checkMachine, verdict_checkTrace, RunConfig.validate_eq]
  rfl

/-! ## The listing -/

/-- What the checks of a run configuration and of a further machine file have to meet: the
configuration can be loaded and is valid, and so is the further file, if there is one. -/
def loadAndValidate (files : FileTree) (path : String) (scope machine : Option String) :
    Result Unit := do
  let config ← RunConfig.load files path scope
  config.validate files
  RunConfig.checkPart (fun other => discard (Qemu.Config.load files other)) machine

theorem firstFault_checkAll (path : String) (scope machine : Option String) :
    firstFault (checkAll files path scope machine) = loadAndValidate files path scope machine := by
  rw [checkAll, loadAndValidate]
  cases RunConfig.load files path scope with
  | error error => rfl
  | ok config =>
      change firstFault (_ :: (checkSections files config ++ _)) = _
      rw [firstFault_cons, firstFault_append, firstFault_checkSections, firstFault_toList]
      simp only [verdict_checkMachine]
      rfl

theorem loadAndValidate_eq_ok_iff {path : String} {scope machine : Option String} :
    loadAndValidate files path scope machine = .ok () ↔
      (∃ config, RunConfig.load files path scope = .ok config ∧
        config.validate files = .ok ()) ∧
      ∀ other, machine = some other → ∃ settings, Qemu.Config.load files other = .ok settings := by
  rw [loadAndValidate]
  cases RunConfig.load files path scope with
  | error error => simp [bind, Except.bind]
  | ok config =>
      change (do config.validate files; RunConfig.checkPart _ machine) = .ok () ↔ _
      rw [RunConfig.andThen_eq_ok_iff, RunConfig.checkPart_eq_ok_iff]
      simp only [RunConfig.discard_eq_ok_iff, Except.ok.injEq, exists_eq_left']

/-- All checks of a run configuration succeed exactly if it can be loaded and is valid, and with
a further machine file exactly if that can be loaded, too.  The first check that fails reports
what loading and validating stops at. -/
theorem checks_agree_with_validity (files : FileTree) (path : String) (scope : Option String) :
    ((checkAll files path scope none).all Check.isOk = true ↔
      ∃ config, RunConfig.load files path scope = .ok config ∧
        config.validate files = .ok ()) ∧
    (∀ other, (checkAll files path scope (some other)).all Check.isOk = true ↔
      (∃ config, RunConfig.load files path scope = .ok config ∧
        config.validate files = .ok ()) ∧
      ∃ settings, Qemu.Config.load files other = .ok settings) ∧
    ∀ machine, firstFault (checkAll files path scope machine) =
      loadAndValidate files path scope machine := by
  refine ⟨?_, ?_, ?_⟩
  · rw [← firstFault_eq_ok_iff, firstFault_checkAll, loadAndValidate_eq_ok_iff]
    simp
  · intro other
    rw [← firstFault_eq_ok_iff, firstFault_checkAll, loadAndValidate_eq_ok_iff]
    simp
  · intro machine
    exact firstFault_checkAll path scope machine

end Testbed.Command
