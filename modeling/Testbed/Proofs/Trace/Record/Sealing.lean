import Testbed.Proofs.Trace.Record.Shared

/-!
# Sealing a shared record

This file supplies what can still become of a record once it is sealed.  An append reads
the flag before it adds its frame, and a sealing that falls between the two steps comes
too late for it.  Such appends are the only ones: the frames that a sealed record still
takes are among those that were pending when it was sealed, each at most once, and a
record without pending frames never changes again.
-/

namespace Testbed.Trace

/-- The frame that the next step of an append adds. -/
def AppendCall.pending (call : AppendCall) : List Frame :=
  match call.phase with
  | .admitted => [call.frame]
  | _ => []

theorem AppendCall.frames_change (record : Record) (call : AppendCall) :
    (call.change record).frames.toList = record.frames.toList ++ call.pending := by
  cases phase : call.phase <;> simp [change, pending, phase, Record.push]

/-- A sealed record admits no append. -/
theorem AppendCall.pending_next {record : Record} (closed : record.isSealed = true)
    (call : AppendCall) : (call.next record).pending = [] := by
  cases phase : call.phase <;> simp [next, pending, phase, Record.admits, closed]

namespace SharedRecord

/-- The frames that appends are about to add. -/
def pending (shared : SharedRecord) : List Frame :=
  shared.appends.flatMap AppendCall.pending

theorem pending_eq_nil_iff (shared : SharedRecord) :
    shared.pending = [] ↔ ∀ call ∈ shared.appends, call.phase ≠ .admitted := by
  rw [pending, List.flatMap_eq_nil_iff]
  refine forall₂_congr fun call _ => ?_
  cases phase : call.phase <;> simp [AppendCall.pending, phase]

/-! ## After the sealing -/

private theorem exists_of_set_of_some {α : Type} {list : List α} {index : Nat} {old : α}
    (there : list[index]? = some old) (new : α) :
    ∃ before behind, list = before ++ old :: behind ∧
      list.set index new = before ++ new :: behind := by
  rcases List.getElem?_eq_some_iff.mp there with ⟨bound, rfl⟩
  rcases List.exists_of_set bound with ⟨before, behind, whole, -, replaced⟩
  exact ⟨before, behind, whole, replaced⟩

/-- A step on a sealed record adds at most one pending frame, which is pending no more. -/
theorem pending_step {shared : SharedRecord} (closed : shared.record.isSealed = true)
    (actor : Actor) :
    ∃ late, (shared.step actor).record.frames.toList = shared.record.frames.toList ++ late ∧
      (late ++ (shared.step actor).pending).Perm shared.pending := by
  cases actor with
  | appender index =>
      cases there : shared.appends[index]? with
      | none =>
          refine ⟨[], ?_, ?_⟩
          · simp [step, there]
          · simp [step, there]
      | some call =>
          rcases exists_of_set_of_some there (call.next shared.record) with
            ⟨before, behind, whole, replaced⟩
          refine ⟨call.pending, ?_, ?_⟩
          · rw [step_appender there]
            exact call.frames_change shared.record
          · rw [step_appender there, pending, pending, replaced, whole]
            simp only [List.flatMap_append, List.flatMap_cons, AppendCall.pending_next closed,
              List.nil_append]
            exact List.perm_append_comm_assoc ..
  | closer index =>
      refine ⟨[], ?_, ?_⟩
      · cases there : shared.closers[index]? with
        | none => simp [step, there]
        | some call => cases call <;> simp [step, there, ClosePhase.change, Record.close]
      · cases there : shared.closers[index]? <;> simp [step, there, pending]
  | waiter index =>
      refine ⟨[], ?_, ?_⟩ <;>
        cases there : shared.waiters[index]? <;> simp [step, there, pending]
  | clock index =>
      refine ⟨[], ?_, ?_⟩ <;>
        cases there : shared.waiters[index]? <;> simp [step, there, pending]

/-- What a sealed record still takes were pending frames, each once. -/
theorem pending_run {shared : SharedRecord} (closed : shared.record.isSealed = true)
    (schedule : List Actor) :
    ∃ late, (shared.run schedule).record.frames.toList = shared.record.frames.toList ++ late ∧
      (late ++ (shared.run schedule).pending).Perm shared.pending := by
  induction schedule generalizing shared with
  | nil => exact ⟨[], by simp, by simp⟩
  | cons actor schedule ih =>
      have still : (shared.step actor).record.isSealed = true := isSealed_run closed [actor]
      rcases pending_step closed actor with ⟨first, grown, taken⟩
      rcases ih still with ⟨second, further, left⟩
      refine ⟨first ++ second, ?_, ?_⟩
      · rw [run_cons, further, grown, List.append_assoc]
      · rw [run_cons, List.append_assoc]
        exact (left.append_left first).trans taken

/-- A sealed record without pending frames stays as it is. -/
theorem record_run {shared : SharedRecord} (closed : shared.record.isSealed = true)
    (noneLeft : shared.pending = []) (schedule : List Actor) :
    (shared.run schedule).record = shared.record := by
  induction schedule generalizing shared with
  | nil => rfl
  | cons actor schedule ih =>
      have still : (shared.step actor).record.isSealed = true := isSealed_run closed [actor]
      have nothing : (shared.step actor).pending = [] := by
        rcases pending_step closed actor with ⟨late, -, taken⟩
        rw [noneLeft] at taken
        exact (List.append_eq_nil_iff.mp taken.eq_nil).2
      have same : (shared.step actor).record = shared.record := by
        rcases record_step shared actor with same | ⟨index, call, -, there, phase, -⟩ | closes
        · exact same
        · rw [pending_eq_nil_iff] at noneLeft
          exact absurd phase (noneLeft call (List.mem_of_getElem? there))
        · rw [closes, Record.close, ← closed]
      exact (ih still nothing).trans same

/-! ## Sealings that are complete -/

/-- A sealing that has begun has set the flag. -/
def Flagged (shared : SharedRecord) : Prop :=
  ∀ call ∈ shared.closers, call ≠ .entering → shared.record.isSealed = true

theorem Fresh.flagged {shared : SharedRecord} (fresh : shared.Fresh) : shared.Flagged :=
  fun call here begun => absurd (fresh.closers call here) begun

/-- A step moves no sealing, or the record is sealed after it. -/
theorem closers_step {shared : SharedRecord} (flagged : shared.Flagged) (actor : Actor) :
    (shared.step actor).closers = shared.closers ∨
      (shared.step actor).record.isSealed = true := by
  cases actor with
  | closer index =>
      cases there : shared.closers[index]? with
      | none =>
          left
          rw [step, there]
      | some call =>
          right
          by_cases entering : call = .entering
          · subst entering
            rw [step, there]
            rfl
          · have closed := flagged call (List.mem_of_getElem? there) entering
            exact isSealed_run closed [.closer index]
  | appender index | waiter index | clock index =>
      left
      rw [step]
      split <;> rfl

theorem Flagged.step {shared : SharedRecord} (flagged : shared.Flagged) (actor : Actor) :
    (shared.step actor).Flagged := by
  rcases closers_step flagged actor with same | closed
  · intro call here begun
    rw [same] at here
    exact isSealed_run (flagged call here begun) [actor]
  · exact fun _ _ _ => closed

theorem Flagged.run {shared : SharedRecord} (flagged : shared.Flagged) (schedule : List Actor) :
    (shared.run schedule).Flagged := by
  induction schedule generalizing shared with
  | nil => exact flagged
  | cons actor schedule ih => exact ih (flagged.step actor)

/-- An append that read the flag before it was set still adds its frame. -/
theorem size_step_of_admitted {shared : SharedRecord} {call : AppendCall}
    (there : call ∈ shared.appends) (admitted : call.phase = .admitted) :
    ∃ actor, (shared.step actor).record.size = shared.record.size + 1 := by
  rcases List.getElem?_of_mem there with ⟨index, here⟩
  refine ⟨.appender index, ?_⟩
  rw [record_step_appender here, AppendCall.change, admitted]
  exact Array.size_push _

/-- Once a sealing is complete, what the record still takes are frames that were pending
when it was, each at most once.  So what the record answers stays the same exactly when
no append stands between reading the flag and adding its frame. -/
theorem unchanged_iff {start : SharedRecord} (fresh : start.Fresh) (schedule : List Actor)
    (complete : .finished ∈ (start.run schedule).closers) :
    let closed := start.run schedule
    (∀ further, ∃ late,
        (closed.run further).record.frames.toList = closed.record.frames.toList ++ late ∧
          (late ++ (closed.run further).pending).Perm closed.pending) ∧
      ((∀ further, (closed.run further).record.size = closed.record.size ∧
          (closed.run further).record.apids = closed.record.apids ∧
          ∀ query, (closed.run further).record.find query = closed.record.find query) ↔
        ∀ call ∈ closed.appends, call.phase ≠ .admitted) := by
  intro closed
  have isSealed : closed.record.isSealed = true :=
    fresh.flagged.run schedule .finished complete (by decide)
  refine ⟨pending_run isSealed, ?_⟩
  constructor
  · intro unchanged call there admitted
    rcases size_step_of_admitted there admitted with ⟨actor, grown⟩
    have same : (closed.step actor).record.size = closed.record.size := (unchanged [actor]).1
    exact Nat.succ_ne_self _ (grown.symm.trans same)
  · intro noneAdmitted further
    have same := record_run isSealed (closed.pending_eq_nil_iff.mpr noneAdmitted) further
    rw [same]
    exact ⟨rfl, rfl, fun _ => rfl⟩

/-- A frame that is appended before the sealing begins is the only one ever after. -/
theorem unchanged_after_append :
    let start : SharedRecord := { appends := [{ frame := .shortest }], closers := [.entering] }
    let closed := start.run [.appender 0, .appender 0, .appender 0, .closer 0, .closer 0]
    ∀ further, (closed.run further).record.size = 1 ∧
      (closed.run further).record.find none = [.shortest] := by
  intro start closed further
  have fresh : start.Fresh := ⟨by decide, by decide, by simp [start]⟩
  have unchanged := (unchanged_iff fresh
    [.appender 0, .appender 0, .appender 0, .closer 0, .closer 0] (by decide)).2.mpr (by decide)
  exact ⟨(unchanged further).1, (unchanged further).2.2 none⟩

/-- A frame whose append has read the flag when the sealing begins is added after the
sealing is complete. -/
theorem grows_after_sealing :
    let start : SharedRecord := { appends := [{ frame := .shortest }], closers := [.entering] }
    let closed := start.run [.appender 0, .closer 0, .closer 0]
    let later := closed.run [.appender 0, .appender 0]
    start.Fresh ∧ closed.closers = [.finished] ∧
      (closed.record.size = 0 ∧ closed.record.apids = [] ∧ closed.record.find none = []) ∧
      later.record.size = 1 ∧ later.record.apids = [""] ∧
        later.record.find none = [.shortest] := by
  intro start closed later
  have fresh : start.Fresh := ⟨by decide, by decide, by simp [start]⟩
  have before : closed.record.apids = [] := List.mergeSort_nil
  have after : later.record.apids = [""] := List.mergeSort_singleton ""
  exact ⟨fresh, rfl, ⟨rfl, before, rfl⟩, rfl, after, rfl⟩

end SharedRecord

end Testbed.Trace
