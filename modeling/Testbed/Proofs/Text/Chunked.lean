import Testbed.Proofs.Text.Utf8

/-!
# Text that arrives in chunks

This file supplies what is lost when the octets of a text are decoded chunk by chunk, each
by itself.  Nothing is, unless a chunk ends inside a character that the octets behind it go
on with: a character severed like that becomes at least two replacement characters, so the
text is longer than that of all octets together.
-/

namespace Testbed.Text.Utf8

/-! ## The machine between two chunks -/

/-- The characters that octets complete. -/
def completed : Option Pending → Octets → List Char
  | _, [] => []
  | state, octet :: rest => (step state octet).1 ++ completed (step state octet).2 rest

/-- The state that octets lead to. -/
def stateAfter : Option Pending → Octets → Option Pending
  | state, [] => state
  | state, octet :: rest => stateAfter (step state octet).2 rest

theorem decodeFrom_cons (state : Option Pending) (octet : UInt8) (rest : Octets) :
    decodeFrom state (octet :: rest) =
      (step state octet).1 ++ decodeFrom (step state octet).2 rest := by
  cases state <;> rfl

/-- Decoding goes on from the state that the octets in front have led to. -/
theorem decodeFrom_append (state : Option Pending) (front behind : Octets) :
    decodeFrom state (front ++ behind) =
      completed state front ++ decodeFrom (stateAfter state front) behind := by
  induction front generalizing state with
  | nil => rfl
  | cons octet front inductionHypothesis =>
      rw [List.cons_append, decodeFrom_cons, inductionHypothesis, completed, stateAfter,
        List.append_assoc]

/-- A character that is not complete at the end is replaced. -/
theorem decodeFrom_eq_completed (state : Option Pending) (octets : Octets) :
    decodeFrom state octets =
      completed state octets ++ decodeFrom (stateAfter state octets) [] := by
  rw [← decodeFrom_append, List.append_nil]

namespace Pending

/-- Whether octets go on with a character. -/
def GoesOn (pending : Pending) : Octets → Prop
  | [] => False
  | octet :: _ => pending.low ≤ octet ∧ octet ≤ pending.high

instance (pending : Pending) : DecidablePred pending.GoesOn
  | [] => isFalse id
  | octet :: _ => inferInstanceAs (Decidable (pending.low ≤ octet ∧ octet ≤ pending.high))

/-- No octet that begins a character goes on with another one. -/
structure Continuing (pending : Pending) : Prop where
  least : 0x80 ≤ pending.low
  most : pending.high ≤ 0xBF

end Pending

theorem continuing_of_lead? {octet : UInt8} {pending : Pending}
    (leads : lead? octet = some pending) : pending.Continuing := by
  unfold lead? at leads
  repeat' split at leads
  all_goals cases leads
  all_goals constructor <;> simp

theorem continuing_of_start {octet : UInt8} {pending : Pending}
    (started : (start octet).2 = some pending) : pending.Continuing := by
  unfold start at started
  split at started
  · contradiction
  · split at started
    next leads =>
      cases started
      exact continuing_of_lead? leads
    next => contradiction

theorem continuing_of_step {state : Option Pending} {octet : UInt8} {pending : Pending}
    (stepped : (step state octet).2 = some pending) : pending.Continuing := by
  cases state with
  | none => exact continuing_of_start stepped
  | some before =>
      simp only [step] at stepped
      split at stepped
      · split at stepped
        · contradiction
        · cases stepped
          constructor <;> simp
      · exact continuing_of_start stepped

theorem continuing_of_stateAfter {octets : Octets} {state : Option Pending} {pending : Pending}
    (continuing : ∀ before, state = some before → before.Continuing)
    (after : stateAfter state octets = some pending) : pending.Continuing := by
  induction octets generalizing state with
  | nil => exact continuing pending after
  | cons octet octets inductionHypothesis =>
      exact inductionHypothesis (fun before stepped => continuing_of_step stepped) after

/-- An octet that can only go on with a character begins none. -/
theorem start_of_continuation {octet : UInt8} (least : 0x80 ≤ octet) (most : octet ≤ 0xBF) :
    start octet = ([replacement], none) := by
  rw [UInt8.le_iff_toNat_le] at least most
  have notAscii : ¬ octet < 0x80 := by
    rw [UInt8.lt_iff_toNat_lt]
    exact Nat.not_lt.mpr least
  have leadsNone : lead? octet = none := by
    rw [lead?_of_toNat rfl]
    repeat rw [if_neg (by simp at least most; omega)]
  rw [start, if_neg notAscii, leadsNone]

/-! ## A character interrupted -/

/-- Octets that do not go on with a character leave it to be replaced. -/
theorem decodeFrom_of_not_goesOn {pending : Pending} {octets : Octets}
    (ends : ¬ pending.GoesOn octets) :
    decodeFrom (some pending) octets = replacement :: decodeFrom none octets := by
  cases octets with
  | nil => rfl
  | cons octet rest =>
      have refused : ¬ (pending.low ≤ octet ∧ octet ≤ pending.high) := ends
      rw [decodeFrom_cons, decodeFrom_cons]
      simp only [step, if_neg refused]
      rfl

/-- Octets that go on with a character give at least as many characters without it. -/
theorem length_decodeFrom_of_goesOn {pending : Pending} (continuing : pending.Continuing)
    {octets : Octets} (goesOn : pending.GoesOn octets) :
    (decodeFrom (some pending) octets).length ≤ (decodeFrom none octets).length := by
  induction octets generalizing pending with
  | nil => contradiction
  | cons octet rest inductionHypothesis =>
      have admitted : pending.low ≤ octet ∧ octet ≤ pending.high := goesOn
      have replaced : step none octet = ([replacement], none) :=
        start_of_continuation (UInt8.le_trans continuing.least admitted.1)
          (UInt8.le_trans admitted.2 continuing.most)
      rw [decodeFrom_cons (some pending), decodeFrom_cons none, replaced]
      simp only [step, if_pos admitted]
      split
      next => simp
      next =>
        generalize further : Pending.mk _ _ _ _ = next
        have continuingNext : next.Continuing := by
          subst further
          constructor <;> simp
        rw [List.nil_append, List.singleton_append, List.length_cons]
        by_cases goesFurther : next.GoesOn rest
        · exact Nat.le_succ_of_le (inductionHypothesis continuingNext goesFurther)
        · rw [decodeFrom_of_not_goesOn goesFurther]
          exact Nat.le_refl _

/-! ## A cut -/

/-- Whether a cut severs a character: the octets in front of it end in one that is not
complete, and those behind it go on with that. -/
def Severs (front behind : Octets) : Prop :=
  ∃ pending ∈ stateAfter none front, pending.GoesOn behind

instance (front behind : Octets) : Decidable (Severs front behind) :=
  inferInstanceAs (Decidable (∃ pending ∈ stateAfter none front, pending.GoesOn behind))

theorem continuing_of_front {front : Octets} {pending : Pending}
    (after : stateAfter none front = some pending) : pending.Continuing :=
  continuing_of_stateAfter (fun _ impossible => by contradiction) after

/-- A character that is severed is replaced more than once. -/
theorem length_decodeFrom_append_lt {front behind : Octets} (severs : Severs front behind) :
    (decodeFrom none (front ++ behind)).length <
      (decodeFrom none front ++ decodeFrom none behind).length := by
  rcases severs with ⟨pending, after, goesOn⟩
  have continued := length_decodeFrom_of_goesOn (continuing_of_front after) goesOn
  rw [decodeFrom_append, decodeFrom_eq_completed none front, after, decodeFrom]
  simp only [List.length_append, List.length_singleton]
  omega

/-- A cut that severs no character makes no difference. -/
theorem decodeFrom_append_of_not_severs {front behind : Octets}
    (whole : ¬ Severs front behind) :
    decodeFrom none (front ++ behind) = decodeFrom none front ++ decodeFrom none behind := by
  rw [decodeFrom_append, decodeFrom_eq_completed none front, List.append_assoc]
  congr 1
  cases after : stateAfter none front with
  | none => rfl
  | some pending =>
      exact decodeFrom_of_not_goesOn fun goesOn => whole ⟨pending, after, goesOn⟩

/-! ## Chunks -/

/-- Chunk by chunk there are at least as many characters. -/
theorem length_decodeFrom_flatten_le (chunks : List Octets) :
    (decodeFrom none chunks.flatten).length ≤ (chunks.flatMap (decodeFrom none)).length := by
  induction chunks with
  | nil => exact Nat.le_refl _
  | cons chunk chunks inductionHypothesis =>
      have cut : (decodeFrom none (chunk ++ chunks.flatten)).length ≤
          (decodeFrom none chunk ++ decodeFrom none chunks.flatten).length := by
        by_cases severs : Severs chunk chunks.flatten
        · exact Nat.le_of_lt (length_decodeFrom_append_lt severs)
        · exact Nat.le_of_eq (congrArg List.length (decodeFrom_append_of_not_severs severs))
      rw [List.flatten_cons, List.flatMap_cons]
      rw [List.length_append] at cut ⊢
      omega

/-- Chunks that are decoded each by itself give the text of all of them exactly if none of
them ends inside a character that goes on behind it. -/
theorem flatMap_decodeFrom_eq_iff (chunks : List Octets) :
    chunks.flatMap (decodeFrom none) = decodeFrom none chunks.flatten ↔
      ∀ chunk behind, chunk :: behind <:+ chunks → ¬ Severs chunk behind.flatten := by
  induction chunks with
  | nil => simp [decodeFrom]
  | cons chunk chunks inductionHypothesis =>
      rw [List.flatMap_cons, List.flatten_cons]
      by_cases severs : Severs chunk chunks.flatten
      · constructor
        · intro same
          have shorter := length_decodeFrom_append_lt severs
          have others := length_decodeFrom_flatten_le chunks
          rw [← same] at shorter
          simp only [List.length_append] at shorter
          omega
        · intro whole
          exact absurd severs (whole chunk chunks (List.suffix_refl _))
      · rw [decodeFrom_append_of_not_severs severs, List.append_cancel_left_eq,
          inductionHypothesis]
        constructor
        · intro whole first behind suffix
          rcases List.suffix_cons_iff.mp suffix with same | later
          · cases same
            exact severs
          · exact whole first behind later
        · intro whole first behind suffix
          exact whole first behind (List.suffix_cons_iff.mpr (.inr suffix))

example : Severs [0xC3] [0xA9] ∧ ¬ Severs [0xC3, 0xA9] [0xA9] ∧ ¬ Severs [0xC3] [0x41] := by
  decide

/-- Behind whole characters a cut severs none. -/
theorem not_severs_encode (text : String) (behind : Octets) : ¬ Severs (encode text) behind := by
  intro severs
  have longer := length_decodeFrom_append_lt severs
  rw [decodeFrom_encode_append, decodeFrom_encode] at longer
  exact Nat.lt_irrefl _ longer

end Testbed.Text.Utf8
