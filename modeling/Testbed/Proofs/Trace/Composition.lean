import Testbed.Trace.Argument

/-!
# What decoding is composed of

This file supplies that every step of decoding an argument is composed of taking octets
and refusing types: a step takes octets, goes by what it has taken, and takes more.  So a
law that holds of taking and of refusing, and is handed on along a sequence, holds of every
step.

Two such laws are given.  A step fails for want of octets or because of a type, and for no
other reason.  More octets behind the input do not change what a step comes to, unless it
failed for want of them.
-/

namespace Testbed.Trace

/-- Fewer octets are left than are needed. -/
def ArgumentFault.IsTruncation (fault : ArgumentFault) : Prop :=
  ∃ needed remaining, fault = .truncated needed remaining ∧ remaining < needed

namespace Argument

/-! ## Steps in sequence -/

theorem bind_apply {α β : Type} (step : Read α) (next : α → Read β) (octets : Octets) :
    (step >>= next) octets =
      match step octets with
      | .ok (value, rest) => next value rest
      | .error fault => .error fault := by
  change (step octets >>= fun read => next read.1 read.2) = _
  cases step octets <;> rfl

/-- A step is composed of taking octets and refusing types. -/
inductive Composed : {α : Type} → Read α → Prop where
  | give {α : Type} (value : α) : Composed (pure value)
  | take (count : Nat) : Composed (take count)
  | refuse {α : Type} (word : UInt32) : Composed (throw (.unsupported word) : Read α)
  | bind {α β : Type} {step : Read α} {next : α → Read β} (first : Composed step)
      (second : ∀ value, Composed (next value)) : Composed (step >>= next)

namespace Composed

variable {α β : Type} {step other : Read α}

theorem map (transform : α → β) (composed : Composed step) : Composed (transform <$> step) := by
  rw [map_eq_pure_bind]
  exact composed.bind fun value => .give (transform value)

/-- A last step that only puts values together. -/
theorem andThen (next : α → β) (composed : Composed step) :
    Composed (step >>= fun value => pure (next value)) :=
  composed.bind fun value => .give (next value)

theorem ite {condition : Prop} [Decidable condition] (yes : condition → Composed step)
    (no : ¬condition → Composed other) : Composed (if condition then step else other) := by
  split
  next holds => exact yes holds
  next fails => exact no fails

/-! ## Laws of composed steps -/

/-- A step that fails lacks octets or refuses a type. -/
theorem fault (composed : Composed step) {octets : Octets} {fault : ArgumentFault}
    (failed : step octets = .error fault) :
    fault.IsTruncation ∨ ∃ word, fault = .unsupported word := by
  induction composed generalizing octets with
  | give value => cases failed
  | take count =>
      rw [Argument.take] at failed
      split at failed
      next => cases failed
      next short =>
          cases failed
          exact .inl ⟨count, octets.length, rfl, splitExactly?_eq_none_iff.mp short⟩
  | refuse word =>
      cases failed
      exact .inr ⟨word, rfl⟩
  | bind first second ih ihNext =>
      rw [bind_apply] at failed
      split at failed
      next value rest taken => exact ihNext value failed
      next early =>
          cases failed
          exact ih early

/-- What a step gives it also gives when more octets follow, which it leaves where they
are. -/
theorem ok_append (composed : Composed step) {octets rest : Octets} {value : α}
    (given : step octets = .ok (value, rest)) (more : Octets) :
    step (octets ++ more) = .ok (value, rest ++ more) := by
  induction composed generalizing octets rest with
  | give _ =>
      cases given
      rfl
  | take count =>
      rw [Argument.take] at given ⊢
      split at given
      next split =>
          cases given
          rcases splitExactly?_eq_some_iff.mp split with ⟨rfl, counted⟩
          rw [splitExactly?_eq_some_iff.mpr ⟨List.append_assoc .., counted⟩]
      next => cases given
  | refuse _ => cases given
  | bind first second ih ihNext =>
      rw [bind_apply] at given
      split at given
      next early between taken =>
          rw [bind_apply, ih taken]
          exact ihNext early given
      next => cases given

/-- A step that fails also fails when more octets follow, and in the same way, unless it
lacked octets. -/
theorem error_append (composed : Composed step) {octets : Octets} {fault : ArgumentFault}
    (failed : step octets = .error fault) (more : Octets) :
    fault.IsTruncation ∨ step (octets ++ more) = .error fault := by
  induction composed generalizing octets with
  | give _ => cases failed
  | take count =>
      rcases (take count).fault failed with short | ⟨word, rfl⟩
      · exact .inl short
      · rw [Argument.take] at failed
        split at failed <;> cases failed
  | refuse _ =>
      cases failed
      exact .inr rfl
  | bind first second ih ihNext =>
      rw [bind_apply] at failed ⊢
      split at failed
      next value rest taken =>
          rw [first.ok_append taken]
          exact ihNext value failed
      next early =>
          cases failed
          rcases ih early with short | again
          · exact .inl short
          · rw [again]
            exact .inr rfl

end Composed

/-! ## The steps of decoding -/

theorem composed_word (order : ByteOrder) (width : Nat) : Composed (word order width) :=
  (Composed.take width).map _

theorem composed_unsignedWord (order : ByteOrder) {width : Nat}
    (admitted : width = 1 ∨ width = 2 ∨ width = 4 ∨ width = 8) :
    Composed (unsignedWord order width) := by
  rw [unsignedWord, if_pos admitted]
  exact (composed_word order width).map _

theorem composed_signedWord (order : ByteOrder) {width : Nat}
    (admitted : width = 1 ∨ width = 2 ∨ width = 4 ∨ width = 8) :
    Composed (signedWord order width) :=
  (composed_unsignedWord order admitted).andThen _

theorem composed_terminated (length : Nat) : Composed (terminated length) :=
  (Composed.take length).andThen _

theorem composed_nameIf (order : ByteOrder) (announced : Bool) :
    Composed (nameIf order announced) := by
  apply Composed.ite
  · intro _
    exact (composed_word order 2).bind fun length => (composed_terminated length).map _
  · intro _
    exact .give none

theorem composed_decodeBlock (order : ByteOrder) (info : TypeInfo) :
    Composed (decodeBlock order info) := by
  refine (composed_word order 2).bind fun length => ?_
  refine (composed_nameIf order _).bind fun name => ?_
  apply Composed.ite
  · intro _
    exact (Composed.take length).andThen _
  · intro _
    exact (composed_terminated length).andThen _

theorem composed_decodeBool (order : ByteOrder) (info : TypeInfo) :
    Composed (decodeBool order info) := by
  refine (composed_nameIf order _).bind fun name => ?_
  exact (Composed.take _).andThen _

theorem composed_decodeNames (order : ByteOrder) (info : TypeInfo) :
    Composed (decodeNames order info) := by
  apply Composed.ite
  · intro _
    refine (composed_word order 2).bind fun nameLength => ?_
    refine (composed_word order 2).bind fun unitLength => ?_
    refine (composed_terminated nameLength).bind fun name => ?_
    exact (composed_terminated unitLength).andThen _
  · intro _
    exact .give _

theorem composed_decodeScaling (order : ByteOrder) (info : TypeInfo) (width : Nat) :
    Composed (decodeScaling order info width) := by
  apply Composed.ite
  · intro _
    refine (composed_word order 4).bind fun factor => ?_
    apply Composed.ite
    · intro _
      exact .refuse _
    · intro _
      have admitted : (if width = 8 then 8 else 4) = 4 ∨ (if width = 8 then 8 else 4) = 8 := by
        split <;> simp
      exact (composed_signedWord order (.inr (.inr admitted))).andThen _
  · intro _
    exact .give none

/-- The widths that a type can announce. -/
theorem mem_widths {info : TypeInfo} {width : Nat} (announced : info.width? = some width) :
    width = 1 ∨ width = 2 ∨ width = 4 ∨ width = 8 ∨ width = 16 := by
  simp only [TypeInfo.width?] at announced
  repeat' split at announced
  all_goals simp_all

/-- Numbers of 16 octets are taken as they are, so that only words of an admitted width are
read. -/
theorem composed_decodePlainNumber (order : ByteOrder) {info : TypeInfo} {width : Nat}
    (announced : info.width? = some width) : Composed (decodePlainNumber order info width) := by
  apply Composed.ite
  · intro _
    exact (Composed.take width).andThen _
  · intro narrow
    have admitted : width = 1 ∨ width = 2 ∨ width = 4 ∨ width = 8 := by
      rcases mem_widths announced with rfl | rfl | rfl | rfl | rfl <;> simp_all
    apply Composed.ite
    · intro _
      apply Composed.ite
      · intro _
        exact (composed_word order 4).andThen _
      · intro _
        apply Composed.ite
        · intro _
          exact (composed_unsignedWord order (by simp)).map _
        · intro _
          exact .refuse _
    · intro _
      apply Composed.ite
      · intro _
        exact (composed_signedWord order admitted).map _
      · intro _
        exact (composed_unsignedWord order admitted).map _

theorem composed_decodeNumber (order : ByteOrder) (info : TypeInfo) :
    Composed (decodeNumber order info) := by
  rw [decodeNumber]
  cases announced : info.width? with
  | none => exact .refuse _
  | some width =>
      refine (composed_decodeNames order info).bind fun names => ?_
      refine (composed_decodeScaling order info width).bind fun scaling => ?_
      exact (composed_decodePlainNumber order announced).andThen _

theorem composed_decode (order : ByteOrder) : Composed (decode order) := by
  refine (composed_word order 4).bind fun info => ?_
  apply Composed.ite
  · intro _
    exact .refuse _
  · intro _
    apply Composed.ite
    · intro _
      exact composed_decodeBlock order _
    · intro _
      apply Composed.ite
      · intro _
        exact composed_decodeBool order _
      · intro _
        apply Composed.ite
        · intro _
          exact composed_decodeNumber order _
        · intro _
          exact .refuse _

end Argument

end Testbed.Trace
