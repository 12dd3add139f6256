import Testbed.RunConfig

/-!
# Valid run configurations

This file supplies what the check of a run configuration makes sure of, and what of that
a factory needs.  The check goes over the sections that are there, and asks for a backend
as soon as one is configured in any way.  A factory needs one section in any case, that of
its backend.  A backend that follows from the sections has its section; one that is named
may lack it, and then the check passes although there is no factory.
-/

namespace Testbed.RunConfig

variable {config : RunConfig} {files : FileTree} {backend : Backend} {made : RunFactory}

/-- Whether a configuration has the section of a backend. -/
def hasSection (config : RunConfig) : Backend → Bool
  | .docker => config.docker.isSome
  | .qemu => config.qemu.isSome

/-- The section of a backend passes its check, if it is there. -/
def SectionPasses (config : RunConfig) (files : FileTree) : Backend → Prop
  | .docker => ∀ docker, config.docker = some docker → docker.validate = .ok ()
  | .qemu => ∀ settings, config.qemu = some settings →
      ∃ machine, Qemu.Config.load files settings.config = .ok machine

/-! ## The check -/

/-- The check of a part that may be left out. -/
def checkPart {α : Type} (check : α → Result Unit) : Option α → Result Unit
  | some part => check part
  | none => pure ()

theorem checkPart_eq_ok_iff {α : Type} {check : α → Result Unit} {part : Option α} :
    checkPart check part = .ok () ↔ ∀ value, part = some value → check value = .ok () := by
  cases part <;> simp [checkPart, pure, Except.pure]

theorem andThen_eq_ok_iff {first next : Result Unit} :
    (do first; next) = .ok () ↔ first = .ok () ∧ next = .ok () := by
  cases first <;> simp [bind, Except.bind]

theorem discard_eq_ok_iff {α : Type} {result : Result α} :
    discard result = .ok () ↔ ∃ value, result = .ok value := by
  cases result <;> simp [discard, Functor.mapConst, Except.map]

/-- The check goes over the parts in their order and ends with the backend. -/
theorem validate_eq :
    config.validate files = (do
      checkPart Docker.Config.validate config.docker
      checkPart (fun settings => discard (Qemu.Config.load files settings.config)) config.qemu
      checkPart (fun trace => trace.capture.validate) config.trace
      checkPart (fun _ => discard config.selectedBackend)
        (if config.namesBackend then some () else none)) := by
  unfold validate checkPart
  cases config.docker <;> cases config.qemu <;> cases config.trace <;>
    cases config.namesBackend <;> rfl

/-- A configuration is valid exactly if every section that is there passes its check and,
once anything of a backend is configured, the backend is clear. -/
theorem validate_eq_ok_iff :
    config.validate files = .ok () ↔
      (∀ backend, config.SectionPasses files backend) ∧
        (∀ trace, config.trace = some trace → trace.capture.validate = .ok ()) ∧
        (config.namesBackend = true → ∃ backend, config.selectedBackend = .ok backend) := by
  have sections_pass :
      (∀ backend, config.SectionPasses files backend) ↔
        config.SectionPasses files .docker ∧ config.SectionPasses files .qemu := by
    constructor
    · intro passes
      exact ⟨passes .docker, passes .qemu⟩
    · rintro ⟨docker_passes, qemu_passes⟩ (_ | _)
      · exact docker_passes
      · exact qemu_passes
  rw [validate_eq, sections_pass]
  simp only [andThen_eq_ok_iff, checkPart_eq_ok_iff, discard_eq_ok_iff, SectionPasses,
    and_assoc, Option.ite_none_right_eq_some, and_imp, forall_const]

/-! ## The factory -/

/-- A backend that is not named follows from its section. -/
theorem hasSection_of_unnamed (selected : config.selectedBackend = .ok backend)
    (unnamed : config.backend = none) : config.hasSection backend = true := by
  rw [selectedBackend, unnamed] at selected
  cases docker_part : config.docker with
  | none =>
      cases qemu_part : config.qemu with
      | none => simp [docker_part, qemu_part] at selected
      | some settings =>
          simp only [docker_part, qemu_part, Except.ok.injEq] at selected
          rw [← selected, hasSection, qemu_part, Option.isSome_some]
  | some docker =>
      cases qemu_part : config.qemu with
      | none =>
          simp only [docker_part, qemu_part, Except.ok.injEq] at selected
          rw [← selected, hasSection, docker_part, Option.isSome_some]
      | some settings => simp [docker_part, qemu_part] at selected

/-- What a factory that lacks its section fails with. -/
def missingSection (backend : Backend) : Error :=
  .invalidConfig ("missing [" ++ backend.name ++ "] section")

theorem factory_of_missing (selected : config.selectedBackend = .ok backend)
    (missing : config.hasSection backend = false) :
    config.factory files = .error (missingSection backend) := by
  cases backend with
  | docker =>
      have no_docker : config.docker = none := by simpa [hasSection] using missing
      simp [factory, selected, bind, Except.bind, containerFactory, no_docker, missingSection,
        Backend.name]
  | qemu =>
      have no_qemu : config.qemu = none := by simpa [hasSection] using missing
      simp [factory, selected, bind, Except.bind, machineFactory, no_qemu, missingSection,
        Backend.name]

theorem factory_of_hasSection (selected : config.selectedBackend = .ok backend)
    (present : config.hasSection backend = true)
    (passes : config.SectionPasses files backend) :
    ∃ made, config.factory files = .ok made ∧ made.backend = backend := by
  cases backend with
  | docker =>
      obtain ⟨docker, docker_part⟩ := Option.isSome_iff_exists.mp present
      have docker_valid := passes docker docker_part
      exists .containers docker
      simp [factory, selected, bind, Except.bind, containerFactory, docker_part, docker_valid,
        pure, Except.pure, RunFactory.backend]
  | qemu =>
      obtain ⟨settings, qemu_part⟩ := Option.isSome_iff_exists.mp present
      obtain ⟨machine, loaded⟩ := passes settings qemu_part
      exists .machines
        { config := machine, launch := settings.launch, client := settings.client }
      simp [factory, selected, bind, Except.bind, machineFactory, qemu_part, loaded, pure,
        Except.pure, RunFactory.backend]

/-- A valid configuration in which anything of a backend is configured has a clear backend,
and it gives a factory, of that backend, exactly if it has the section of that backend.
Otherwise the backend is one that is named, and the factory fails for want of the section. -/
theorem factory_of_valid (valid : config.validate files = .ok ())
    (configured : config.namesBackend = true) :
    ∃ backend, config.selectedBackend = .ok backend ∧
      ((∃ made, config.factory files = .ok made) ↔ config.hasSection backend = true) ∧
      (∀ made, config.factory files = .ok made → made.backend = backend) ∧
      (config.hasSection backend = false →
        config.backend = some backend ∧
          config.factory files = .error (missingSection backend)) := by
  obtain ⟨passes, -, clear⟩ := validate_eq_ok_iff.mp valid
  obtain ⟨backend, selected⟩ := clear configured
  exists backend
  cases present : config.hasSection backend with
  | true =>
      obtain ⟨factory, made, same⟩ := factory_of_hasSection selected present (passes backend)
      simp [selected, made, same]
  | false =>
      have failed : config.factory files = .error (missingSection backend) :=
        factory_of_missing selected present
      -- Had the backend followed from the sections, its own would be there.
      have named : config.backend = some backend := by
        cases word : config.backend with
        | none => simp [hasSection_of_unnamed selected word] at present
        | some other => simpa [selectedBackend, word] using selected
      simp [selected, failed, named]

/-- A run of containers does not have to name its backend. -/
theorem factory_of_valid_containers :
    let config : RunConfig := { docker := some { image := "board" } }
    config.validate {} = .ok () ∧ config.namesBackend = true ∧
      ∃ made, config.factory {} = .ok made ∧ made.backend = .docker := by
  intro config
  have valid : config.validate {} = .ok () := rfl
  have configured : config.namesBackend = true := rfl
  obtain ⟨backend, selected, gives, same, -⟩ := factory_of_valid valid configured
  have docker_used : Backend.docker = backend := Except.ok.inj selected
  obtain ⟨factory, made⟩ := gives.mpr (docker_used ▸ rfl)
  exact ⟨valid, configured, factory, made, docker_used ▸ same factory made⟩

/-- A backend that is named without its section passes the check, and there is no
factory. -/
theorem no_factory_of_valid_named :
    let config : RunConfig := { backend := some .docker }
    config.validate {} = .ok () ∧ config.namesBackend = true ∧
      config.factory {} = .error (.invalidConfig "missing [docker] section") := by
  intro config
  exact ⟨rfl, rfl, rfl⟩

end Testbed.RunConfig
