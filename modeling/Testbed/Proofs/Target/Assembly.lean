import Testbed.Proofs.Target.Gate
import Testbed.Target

/-!
# Rigs put together from parts

This file supplies the rigs that come of adding parts in any order and with repetitions,
and what holds of the targets made of them.  Every part that brings an operation declares
a capability for it, so what is brought is also declared; that what is declared is also
brought is what the check of a rig is for.  The one capability without an operation of its
own is `sftp`, which shares that of `file_transfer`, and whoever brings this operation
declares `file_transfer`.

So on a checked rig a capability and its operation come together, and a gate, which looks
only at the capabilities, lets a test through to operations that can be had.
-/

namespace Testbed

/-! ## Known capabilities -/

namespace Operations

variable {σ : Type} {operations : Operations σ} {capability : Capability}

/-- Only a known capability can want for its operation. -/
theorem known_of_not_implements (hollow : operations.implements capability = false) :
    capability ∈ Capability.known := by
  refine Decidable.byContradiction fun unknown => ?_
  simp only [Capability.known, List.mem_cons, List.not_mem_nil, or_false, not_or] at unknown
  simp [implements, unknown] at hollow

/-- Before anything is added no known capability has its operation. -/
theorem implements_empty (known : capability ∈ Capability.known) :
    ({} : Operations σ).implements capability = false := by
  simp only [Capability.known, List.mem_cons, List.not_mem_nil, or_false] at known
  rcases known with rfl | rfl | rfl | rfl | rfl | rfl <;> rfl

/-- One operation stands behind both ways of copying files. -/
theorem implements_sftp :
    operations.implements Capability.sftp = operations.implements Capability.fileTransfer := by
  simp [implements, Capability.sftp, Capability.fileTransfer, Capability.exec]

end Operations

namespace Rig

variable {σ : Type}

/-! ## Parts -/

/-- Something that is added to a rig. -/
inductive Part (σ : Type) where
  | exec (run : String → Action σ ExecOutput)
  | fileTransfer (copy : Transfer σ)
  | sftp (copy : Transfer σ)
  | restart (act : Action σ Unit)
  | sessions (begin : SessionOptions → Action σ (Session σ))
  | ping (pinger : Pinger σ)
  /-- A capability of any name, without an operation. -/
  | capability (name : Capability)
  | teardown (hook : Action σ Unit)

namespace Part

/-- Add a part to a rig. -/
def addTo (rig : Rig σ) : Part σ → Rig σ
  | exec run => rig.withExec run
  | fileTransfer copy => rig.withFileTransfer copy
  | sftp copy => rig.withSftp copy
  | restart act => rig.withRestart act
  | sessions begin => rig.withSessions begin
  | ping pinger => rig.withPing pinger
  | capability name => rig.declare name
  | teardown hook => rig.onTeardown hook

/-- The capabilities that a part declares. -/
def declares : Part σ → List Capability
  | exec _ => [Capability.exec]
  | fileTransfer _ => [Capability.fileTransfer]
  | sftp _ => [Capability.sftp, Capability.fileTransfer]
  | restart _ => [Capability.restart]
  | sessions _ => [Capability.ssh]
  | ping _ => [Capability.ping]
  | capability name => [name]
  | teardown _ => []

/-- The capabilities that stand for the operation that a part brings. -/
def brings : Part σ → List Capability
  | exec _ => [Capability.exec]
  | fileTransfer _ | sftp _ => [Capability.fileTransfer, Capability.sftp]
  | restart _ => [Capability.restart]
  | sessions _ => [Capability.ssh]
  | ping _ => [Capability.ping]
  | capability _ | teardown _ => []

theorem mem_addTo {part : Part σ} {rig : Rig σ} {name : Capability} :
    name ∈ (part.addTo rig).capabilities.names ↔
      name ∈ part.declares ∨ name ∈ rig.capabilities.names := by
  cases part <;>
    simp [addTo, declares, withExec, withFileTransfer, withSftp, withRestart, withSessions,
      withPing, declare, onTeardown, CapabilitySet.mem_insert, or_assoc]

theorem implements_addTo {part : Part σ} {rig : Rig σ} {name : Capability}
    (known : name ∈ Capability.known) :
    (part.addTo rig).operations.implements name = true ↔
      name ∈ part.brings ∨ rig.operations.implements name = true := by
  simp only [Capability.known, List.mem_cons, List.not_mem_nil, or_false] at known
  rcases known with rfl | rfl | rfl | rfl | rfl | rfl <;> cases part <;>
    simp [addTo, brings, withExec, withFileTransfer, withSftp, withRestart, withSessions,
      withPing, declare, onTeardown, Operations.implements, Capability.exec, Capability.ssh,
      Capability.sftp, Capability.fileTransfer, Capability.restart, Capability.ping]

/-- Whoever brings an operation declares it; `sftp` has none of its own. -/
theorem declares_of_brings {part : Part σ} {name : Capability} (brought : name ∈ part.brings)
    (own : name ≠ Capability.sftp) : name ∈ part.declares := by
  cases part <;> simp_all [brings, declares]

end Part

/-! ## Assembly -/

/-- The rig of some parts, added one after the other. -/
def assemble (name : String) (parts : List (Part σ)) : Rig σ :=
  parts.foldl (fun rig part => part.addTo rig) { name }

/-- Some part declares a capability. -/
def Declared (parts : List (Part σ)) (capability : Capability) : Prop :=
  ∃ part ∈ parts, capability ∈ part.declares

/-- Some part brings the operation that a capability stands for. -/
def Brought (parts : List (Part σ)) (capability : Capability) : Prop :=
  ∃ part ∈ parts, capability ∈ part.brings

instance (parts : List (Part σ)) (capability : Capability) :
    Decidable (Declared parts capability) :=
  inferInstanceAs (Decidable (∃ part ∈ parts, capability ∈ part.declares))

theorem Brought.declared {parts : List (Part σ)} {capability : Capability}
    (brought : Brought parts capability) (own : capability ≠ Capability.sftp) :
    Declared parts capability := by
  obtain ⟨part, member, brings⟩ := brought
  exact ⟨part, member, part.declares_of_brings brings own⟩

/-- What each part can establish, and no part undoes, holds of a rig at the end if some part
establishes it or it held before. -/
private theorem foldl_addTo_iff (holds : Rig σ → Prop) (establishes : Part σ → Prop)
    (step : ∀ part rig, holds (Part.addTo rig part) ↔ establishes part ∨ holds rig)
    (parts : List (Part σ)) (rig : Rig σ) :
    holds (parts.foldl (fun rig part => part.addTo rig) rig) ↔
      (∃ part ∈ parts, establishes part) ∨ holds rig := by
  induction parts generalizing rig with
  | nil => simp
  | cons part parts inductionHypothesis =>
      rw [List.foldl_cons, inductionHypothesis, step]
      simp only [List.mem_cons, exists_eq_or_imp, or_left_comm, or_assoc]

theorem mem_assemble (name : String) (parts : List (Part σ)) (capability : Capability) :
    capability ∈ (assemble name parts).capabilities.names ↔ Declared parts capability := by
  rw [assemble, foldl_addTo_iff (fun rig => capability ∈ rig.capabilities.names)
    (fun part => capability ∈ part.declares) fun _ _ => Part.mem_addTo]
  exact or_iff_left List.not_mem_nil

theorem implements_assemble (name : String) (parts : List (Part σ)) {capability : Capability}
    (known : capability ∈ Capability.known) :
    (assemble name parts).operations.implements capability = true ↔
      Brought parts capability := by
  rw [assemble, foldl_addTo_iff (fun rig => rig.operations.implements capability = true)
    (fun part => capability ∈ part.brings) fun _ _ => Part.implements_addTo known]
  refine or_iff_left ?_
  rw [Operations.implements_empty known]
  exact Bool.false_ne_true

/-! ## Checks -/

theorem check_eq_ok_iff {rig built : Rig σ} :
    rig.check = .ok built ↔
      built = rig ∧
        ∀ capability ∈ rig.capabilities.names, rig.operations.implements capability = true := by
  have sound_iff : rig.hollow? = none ↔
      ∀ capability ∈ rig.capabilities.names, rig.operations.implements capability = true := by
    simp [hollow?]
  rw [check, ← sound_iff]
  cases rig.hollow? with
  | none => simp [eq_comm]
  | some capability => simp

/-- The check of an assembled rig passes exactly if for every known capability that some
part declares, some part brings its operation. -/
theorem check_assemble_eq_ok_iff {name : String} {parts : List (Part σ)} {built : Rig σ} :
    (assemble name parts).check = .ok built ↔
      built = assemble name parts ∧
        ∀ capability ∈ Capability.known, Declared parts capability → Brought parts capability := by
  rw [check_eq_ok_iff]
  refine and_congr_right fun _ => ?_
  constructor
  · intro implemented capability known declared
    have member := (mem_assemble name parts capability).mpr declared
    exact (implements_assemble name parts known).mp (implemented capability member)
  · intro brought capability declared
    cases implemented : (assemble name parts).operations.implements capability with
    | true => rfl
    | false =>
        have known := Operations.known_of_not_implements implemented
        have present := brought capability known ((mem_assemble name parts capability).mp declared)
        exact implemented.symm.trans ((implements_assemble name parts known).mpr present)

end Rig

/-! ## Targets -/

namespace Target

variable {σ : Type} {target : Target σ} {capability : Capability}

theorem has_iff : target.has capability = true ↔ capability ∈ target.capabilities.names :=
  CapabilitySet.contains_eq_true_iff

theorem isOk_available {α : Type} (target : Target σ) (operation : Option α)
    (capability : Capability) :
    (target.available operation capability).isOk =
      (operation.isSome && target.has capability) := by
  cases operation with
  | none => rfl
  | some operation =>
      cases declared : target.has capability <;> simp only [available, declared] <;> rfl

/-- Whether the operation that a capability stands for can be had; extensions stand for
none. -/
def answers (target : Target σ) (capability : Capability) : Bool :=
  if capability = Capability.exec then target.exec?.isOk
  else if capability = Capability.fileTransfer ∨ capability = Capability.sftp then
    target.transfer?.isOk
  else if capability = Capability.restart then target.restart?.isOk
  else if capability = Capability.ssh then target.sessions?.isOk
  else if capability = Capability.ping then target.pinger?.isOk
  else true

theorem answers_eq (known : capability ∈ Capability.known) (own : capability ≠ Capability.sftp) :
    target.answers capability =
      (target.operations.implements capability && target.has capability) := by
  simp only [Capability.known, List.mem_cons, List.not_mem_nil, or_false] at known
  rcases known with rfl | rfl | rfl | rfl | rfl | rfl
  case inr.inr.inl => contradiction
  all_goals
    simp [answers, exec?, transfer?, restart?, sessions?, pinger?, isOk_available,
      Operations.implements, Capability.exec, Capability.ssh, Capability.sftp,
      Capability.fileTransfer, Capability.restart, Capability.ping]

theorem answers_sftp : target.answers Capability.sftp = target.transfer?.isOk := by
  simp [answers, Capability.exec, Capability.sftp, Capability.fileTransfer]

theorem answers_fileTransfer :
    target.answers Capability.fileTransfer = target.transfer?.isOk := by
  simp [answers, Capability.exec, Capability.fileTransfer]

/-- Extensions stand for no operation that could be missing. -/
theorem answers_of_not_known (unknown : capability ∉ Capability.known) :
    target.answers capability = true := by
  simp only [Capability.known, List.mem_cons, List.not_mem_nil, or_false, not_or] at unknown
  simp [answers, unknown]

end Target

namespace Rig

variable {σ : Type} {name : String} {parts : List (Part σ)} {rig : Rig σ}

/-! ## Targets of assembled rigs -/

private theorem answers_iff_declared (checked : (assemble name parts).check = .ok rig) (id : Nat)
    {capability : Capability} (known : capability ∈ Capability.known)
    (own : capability ≠ Capability.sftp) :
    ({ toRig := rig, id } : Target σ).answers capability = true ↔ Declared parts capability := by
  obtain ⟨rfl, brought⟩ := check_assemble_eq_ok_iff.mp checked
  rw [Target.answers_eq known own, Bool.and_eq_true, implements_assemble name parts known,
    Target.has_iff, mem_assemble]
  exact and_iff_right_of_imp (brought capability known)

private theorem transfer_of_declared_sftp (checked : (assemble name parts).check = .ok rig)
    (id : Nat) (declared : Declared parts Capability.sftp) :
    ({ toRig := rig, id } : Target σ).transfer?.isOk = true := by
  have brought := (check_assemble_eq_ok_iff.mp checked).2 Capability.sftp (by decide) declared
  -- The operation is that of `file_transfer`, which is declared by the part that brings it.
  have shared : Brought parts Capability.fileTransfer := by
    rw [← implements_assemble name parts (by decide), Operations.implements_sftp] at brought
    exact (implements_assemble name parts (by decide)).mp brought
  rw [← Target.answers_fileTransfer, answers_iff_declared checked id (by decide) (by decide)]
  exact shared.declared (by decide)

private theorem answers_of_declared (checked : (assemble name parts).check = .ok rig) (id : Nat)
    {capability : Capability} (declared : Declared parts capability) :
    ({ toRig := rig, id } : Target σ).answers capability = true := by
  by_cases known : capability ∈ Capability.known
  · by_cases shared : capability = Capability.sftp
    · rw [shared, Target.answers_sftp]
      exact transfer_of_declared_sftp checked id (shared ▸ declared)
    · exact (answers_iff_declared checked id known shared).mpr declared
  · exact Target.answers_of_not_known known

/-- A rig of any parts passes its check exactly if each known capability that is declared
has its operation brought by some part.  On a target made of it, declaring a capability and
having its operation are the same, and copying files over sessions is copying files.  A
gate lets a test run on it exactly if everything required is declared, and then every
operation that was required can be had; otherwise it names in order what is missing, which
is something. -/
theorem admitted_tests_are_supported (name : String) (parts : List (Part σ)) (id : Nat) :
    ((assemble name parts).check.isOk = true ↔
      ∀ capability ∈ Capability.known, Declared parts capability → Brought parts capability) ∧
    ∀ rig, (assemble name parts).check = .ok rig →
      let target : Target σ := { toRig := rig, id }
      (∀ capability, target.has capability = true ↔ Declared parts capability) ∧
      (∀ capability ∈ Capability.known, capability ≠ Capability.sftp →
        (target.answers capability = true ↔ Declared parts capability)) ∧
      (Declared parts Capability.sftp → target.transfer?.isOk = true) ∧
      ∀ required : List Capability,
        let decision := (Gate.ofList required).evaluate target.capabilities
        (decision = .run ↔ ∀ capability ∈ required, Declared parts capability) ∧
        (decision = .run → ∀ capability ∈ required, target.answers capability = true) ∧
        (decision ≠ .run → ∃ missing, decision = .skip missing ∧ missing ≠ [] ∧
          missing.Pairwise (· < ·) ∧
          ∀ capability, capability ∈ missing ↔
            capability ∈ required ∧ ¬ Declared parts capability) := by
  constructor
  · constructor
    · intro passes
      cases checked : (assemble name parts).check with
      | ok rig => exact (check_assemble_eq_ok_iff.mp checked).2
      | error refusal =>
          rw [checked] at passes
          contradiction
    · intro brought
      rw [check_assemble_eq_ok_iff.mpr ⟨rfl, brought⟩]
      rfl
  · intro rig checked target
    have member_iff : ∀ capability,
        capability ∈ target.capabilities.names ↔ Declared parts capability := by
      intro capability
      rw [← mem_assemble name, ← (check_assemble_eq_ok_iff.mp checked).1]
    refine ⟨fun capability => Target.has_iff.trans (member_iff capability),
      fun capability => answers_iff_declared checked id,
      transfer_of_declared_sftp checked id, ?_⟩
    intro required decision
    have runs_iff : decision = .run ↔ ∀ capability ∈ required, Declared parts capability := by
      simp only [decision, Gate.evaluate_eq_run_iff, Gate.ofList, List.subset_def,
        CapabilitySet.mem_ofList, member_iff]
    refine ⟨runs_iff, ?_, ?_⟩
    · intro runs capability member
      exact answers_of_declared checked id (runs_iff.mp runs capability member)
    · intro held
      obtain ⟨missing, skips, some, ascending, listed⟩ :=
        Gate.evaluate_of_not_subset (mt Gate.evaluate_eq_run_iff.mpr held)
      refine ⟨missing, skips, some, ascending, fun capability => ?_⟩
      rw [listed, Gate.ofList, CapabilitySet.mem_ofList, member_iff]

/-- A target that copies files, on which `sftp` and an extension are declared by name. -/
theorem admitted_tests_are_supported_sftp :
    let copy : Transfer Unit := ⟨fun _ _ => pure (), fun _ _ => pure ()⟩
    let parts := [.capability "sftp", .capability "can_bus", .fileTransfer copy]
    let rig := assemble "rig" parts
    let target : Target Unit := { toRig := rig, id := 3 }
    rig.check = .ok rig ∧ target.transfer?.isOk = true ∧
      (Gate.ofList ["sftp", "can_bus", "sftp"]).evaluate target.capabilities = .run ∧
      ∃ missing, (Gate.ofList ["ssh", "sftp", "ping"]).evaluate target.capabilities =
          .skip missing ∧
        "ping" ∈ missing ∧ "ssh" ∈ missing ∧ "sftp" ∉ missing := by
  intro copy parts rig target
  have checked : rig.check = .ok rig := rfl
  obtain ⟨-, built⟩ := admitted_tests_are_supported "rig" parts 3
  obtain ⟨-, -, transfers, decides⟩ := built rig checked
  refine ⟨checked, transfers (by decide), (decides _).1.mpr (by decide), ?_⟩
  obtain ⟨runs_iff, -, skips⟩ := decides ["ssh", "sftp", "ping"]
  obtain ⟨missing, held, -, -, listed⟩ := skips (mt runs_iff.mp (by decide))
  exact ⟨missing, held, (listed _).mpr (by decide), (listed _).mpr (by decide),
    mt (listed _).mp (by decide)⟩

end Rig

end Testbed
