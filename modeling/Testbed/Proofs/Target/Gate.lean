import Testbed.Target.Gate

/-!
# Decisions of gates

This file supplies what a gate decides, in terms of the names that are required and those
that are available.  A set keeps its names in ascending order and each of them once, so
required names may come in any order and with repetitions, and what is missing is listed
in order all the same.
-/

namespace Testbed

namespace CapabilitySet

@[simp]
theorem contains_eq_true_iff {set : CapabilitySet} {capability : Capability} :
    set.contains capability = true ↔ capability ∈ set.names :=
  List.contains_iff_mem

theorem mem_insert {set : CapabilitySet} {capability other : Capability} :
    other ∈ (set.insert capability).names ↔ other = capability ∨ other ∈ set.names :=
  mem_placeName

private theorem mem_foldl_insert {names : List Capability} {set : CapabilitySet}
    {capability : Capability} :
    capability ∈ (names.foldl insert set).names ↔ capability ∈ names ∨ capability ∈ set.names := by
  induction names generalizing set with
  | nil => simp
  | cons name names inductionHypothesis =>
      rw [List.foldl_cons, inductionHypothesis, mem_insert, List.mem_cons]
      constructor
      · rintro (later | first | before)
        · exact .inl (.inr later)
        · exact .inl (.inl first)
        · exact .inr before
      · rintro ((first | later) | before)
        · exact .inr (.inl first)
        · exact .inl later
        · exact .inr (.inr before)

/-- A set has the names that it was made of. -/
@[simp]
theorem mem_ofList {names : List Capability} {capability : Capability} :
    capability ∈ (ofList names).names ↔ capability ∈ names := by
  rw [ofList, mem_foldl_insert]
  simp [empty]

theorem isSubset_iff {set other : CapabilitySet} :
    set.isSubset other = true ↔ set.names ⊆ other.names := by
  simp [isSubset, List.subset_def]

@[simp]
theorem mem_missingFrom {set other : CapabilitySet} {capability : Capability} :
    capability ∈ set.missingFrom other ↔ capability ∈ set.names ∧ capability ∉ other.names := by
  simp [missingFrom, contains]

theorem pairwise_missingFrom (set other : CapabilitySet) :
    (set.missingFrom other).Pairwise (· < ·) :=
  set.ascending.filter _

end CapabilitySet

namespace Gate

theorem evaluate_eq_run_iff {gate : Gate} {available : CapabilitySet} :
    gate.evaluate available = .run ↔ gate.required.names ⊆ available.names := by
  rw [evaluate, ← CapabilitySet.isSubset_iff]
  split
  next held => exact iff_of_true rfl held
  next lacking =>
    constructor
    · rintro ⟨⟩
    · exact fun held => absurd held lacking

/-- A gate that does not let a test run names in order what is missing, and there is
something that is. -/
theorem evaluate_of_not_subset {gate : Gate} {available : CapabilitySet}
    (lacking : ¬ gate.required.names ⊆ available.names) :
    ∃ missing, gate.evaluate available = .skip missing ∧ missing ≠ [] ∧
      missing.Pairwise (· < ·) ∧
      ∀ capability, capability ∈ missing ↔
        capability ∈ gate.required.names ∧ capability ∉ available.names := by
  refine ⟨gate.required.missingFrom available, ?_, ?_,
    CapabilitySet.pairwise_missingFrom .., fun _ => CapabilitySet.mem_missingFrom⟩
  · rw [evaluate, if_neg (mt CapabilitySet.isSubset_iff.mp lacking)]
  · intro nothing
    apply lacking
    intro capability required
    refine Decidable.byContradiction fun absent => ?_
    have listed := CapabilitySet.mem_missingFrom.mpr ⟨required, absent⟩
    rw [nothing] at listed
    contradiction

end Gate

end Testbed
