import Testbed.Proofs.Trace.Composition

/-!
# Truncated payloads

This file supplies what becomes of the arguments of a payload that is cut short, or of
which fewer arguments are asked for.  Either way the arguments that are left are the first
ones.  A payload that loses arguments by being cut short reports that octets are missing,
and one of which fewer arguments are asked for reports nothing, as long as it has them.
-/

namespace Testbed.Trace.Argument

variable (order : ByteOrder)

/-- More octets behind a payload add arguments at the end, if there were octets missing, and
change nothing otherwise. -/
theorem decodeMany_append (count : Nat) (octets more : Octets) :
    let cut := decodeMany order count octets
    let whole := decodeMany order count (octets ++ more)
    cut.1 <+: whole.1 ∧
      (cut.1 ≠ whole.1 → ∃ fault, cut.2 = some fault ∧ fault.IsTruncation) := by
  induction count generalizing octets with
  | zero => exact ⟨List.prefix_rfl, absurd rfl⟩
  | succ count ih =>
      have composed := composed_decode order
      simp only [decodeMany]
      cases decoded : decode order octets with
      | error fault =>
          constructor
          · exact List.nil_prefix
          · intro fewer
            refine ⟨fault, rfl, ?_⟩
            rcases composed.error_append decoded more with short | again
            · exact short
            · -- The same fault ends both runs before the first argument.
              rw [again] at fewer
              exact absurd rfl fewer
      | ok taken =>
          rcases taken with ⟨argument, rest⟩
          rcases ih rest with ⟨first, fewer⟩
          rw [composed.ok_append decoded more]
          constructor
          · exact (List.prefix_cons_inj argument).mpr first
          · intro differ
            apply fewer
            intro same
            exact differ (congrArg (argument :: ·) same)

/-- Fewer arguments are the first of more, and a fault is reported only if it comes before
the last of them. -/
theorem decodeMany_of_le {few count : Nat} (fewer : few ≤ count) (octets : Octets) :
    let whole := decodeMany order count octets
    decodeMany order few octets =
      (whole.1.take few, if few ≤ whole.1.length then none else whole.2) := by
  induction few generalizing count octets with
  | zero => simp [decodeMany]
  | succ few ih =>
      obtain ⟨count, rfl⟩ := Nat.exists_eq_add_one_of_ne_zero (Nat.ne_zero_of_lt fewer)
      cases decoded : decode order octets with
      | error fault => simp [decodeMany, decoded]
      | ok taken =>
          rcases taken with ⟨argument, rest⟩
          simp [decodeMany, decoded, ih (Nat.le_of_succ_le_succ fewer) rest]

/-- Cutting a payload short keeps its first arguments.  If any are lost, the fault is that
fewer octets are left than are needed.  Asking for fewer arguments gives the first of those
there are, and no fault if there are that many. -/
theorem truncation_keeps_first_arguments (count : Nat) (octets : Octets) :
    let whole := decodeMany order count octets
    (∀ length,
      let cut := decodeMany order count (octets.take length)
      cut.1 <+: whole.1 ∧
        (cut.1 ≠ whole.1 → ∃ needed remaining,
          cut.2 = some (.truncated needed remaining) ∧ remaining < needed)) ∧
      ∀ few ≤ count,
        let first := decodeMany order few octets
        first.1 = whole.1.take few ∧ (few ≤ whole.1.length → first.2 = none) := by
  intro whole
  constructor
  · intro length cut
    have further := decodeMany_append order count (octets.take length) (octets.drop length)
    rw [List.take_append_drop] at further
    rcases further with ⟨kept, fewer⟩
    refine ⟨kept, ?_⟩
    intro lost
    rcases fewer lost with ⟨fault, reported, needed, remaining, rfl, short⟩
    exact ⟨needed, remaining, reported, short⟩
  · intro few fewer first
    have counted : first = _ := decodeMany_of_le order fewer octets
    rw [counted]
    constructor
    · rfl
    · intro there
      exact if_pos there

/-- A truth value and a number, of which the last octet is cut off. -/
theorem truncation_keeps_first_arguments_lastOctet :
    let octets : Octets := [0x11, 0, 0, 0, 1, 0x41, 0, 0, 0, 7]
    let whole := decodeMany .little 2 octets
    let cut := decodeMany .little 2 (octets.take 9)
    whole = ([{ value := .bool true }, { value := .unsigned 7 }], none) ∧
      cut.1 = [{ value := .bool true }] ∧ cut.1 <+: whole.1 ∧ cut.1 ≠ whole.1 ∧
      (∃ needed remaining, cut.2 = some (.truncated needed remaining) ∧ remaining < needed) ∧
      (decodeMany .little 1 octets).1 = whole.1.take 1 ∧
      (decodeMany .little 1 octets).2 = none := by
  intro octets whole cut
  rcases truncation_keeps_first_arguments .little 2 octets with ⟨truncated, counted⟩
  rcases truncated 9 with ⟨kept, fewer⟩
  rcases counted 1 (by decide) with ⟨first, complete⟩
  have lost : cut.1 ≠ whole.1 := by decide
  exact ⟨by decide, by decide, kept, lost, fewer lost, first, complete (by decide)⟩

end Testbed.Trace.Argument
