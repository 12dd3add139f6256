import Testbed.Proofs.Trace.Record.Index
import Testbed.Trace.Record.Waiter

/-!
# Calls that share a record

This file supplies a record together with the calls on it that are under way at the same
time.  Each call takes its steps in order, and between two of them any step of another
call may come.  A schedule says who takes the next step; an actor with nothing left to do
does nothing, so every list of actors is a schedule.

A call that is not interrupted does what the record's own operations do.
-/

namespace Testbed.Trace

/-! ## Calls -/

/-- Where a call that appends a frame stands. -/
inductive AppendPhase where
  /-- About to read whether the record is sealed. -/
  | entering
  /-- The record was open; about to add the frame and its index entry. -/
  | admitted
  /-- About to notify the waiters. -/
  | pushed
  | finished (accepted : Bool)
  deriving DecidableEq, Repr

/-- The shortest message, a standard header without optional fields. -/
def Frame.shortest : Frame :=
  { storage := none
    flags := ⟨0x20⟩
    counter := 0
    length := 4
    headerEcu := none
    sessionId := none
    timestamp := none
    extended := none
    payload := ⟨[], none, [], none⟩ }

example : Frame.read? none [0x20, 0, 0, 4] = some (.shortest, none) := by decide

/-- A call that appends a frame. -/
structure AppendCall where
  frame : Frame
  phase : AppendPhase := .entering
  deriving DecidableEq, Repr

namespace AppendCall

/-- The call after its next step. -/
def next (record : Record) (call : AppendCall) : AppendCall :=
  match call.phase with
  | .entering =>
      { call with phase := if record.admits then .admitted else .finished false }
  | .admitted => { call with phase := .pushed }
  | .pushed => { call with phase := .finished true }
  | .finished _ => call

/-- The record after the next step of the call. -/
def change (record : Record) (call : AppendCall) : Record :=
  match call.phase with
  | .admitted => record.push call.frame
  | _ => record

/-- Whether the next step of the call notifies the waiters. -/
def notifies (call : AppendCall) : Bool :=
  call.phase = .pushed

end AppendCall

/-- Where a call that closes the record stands. -/
inductive ClosePhase where
  /-- About to set the flag. -/
  | entering
  /-- About to notify the waiters. -/
  | closed
  | finished
  deriving DecidableEq, Repr

namespace ClosePhase

/-- The call after its next step. -/
def next : ClosePhase → ClosePhase
  | entering => closed
  | closed => finished
  | finished => finished

/-- The record after the next step of the call. -/
def change (record : Record) : ClosePhase → Record
  | entering => record.close
  | closed => record
  | finished => record

/-- Whether the next step of the call notifies the waiters. -/
def notifies (call : ClosePhase) : Bool :=
  call = closed

end ClosePhase

/-- The waiter after its next step; a parked one goes on once it is notified. -/
def Waiter.next (record : Record) (waiter : Waiter) : Waiter :=
  match waiter.phase with
  | .entering => waiter.register
  | .registered => waiter.look record
  | .looked _ => waiter.judge record
  | .parked => waiter.resume
  | .finished _ => waiter

/-! ## Schedules -/

/-- A record and the calls on it that are under way. -/
structure SharedRecord where
  record : Record := .empty
  appends : List AppendCall := []
  closers : List ClosePhase := []
  waiters : List Waiter := []

/-- Who takes a step. -/
inductive Actor where
  | appender (index : Nat)
  | closer (index : Nat)
  | waiter (index : Nat)
  /-- The time allowed to a waiter has passed. -/
  | clock (index : Nat)
  deriving DecidableEq, Repr

namespace SharedRecord

/-- Notify every waiter, if there is something to tell. -/
def announce (news : Bool) (waiters : List Waiter) : List Waiter :=
  if news then waiters.map Waiter.notify else waiters

/-- One step of one actor. -/
def step (shared : SharedRecord) : Actor → SharedRecord
  | .appender index =>
      match shared.appends[index]? with
      | some call =>
          { shared with
            record := call.change shared.record
            appends := shared.appends.set index (call.next shared.record)
            waiters := announce call.notifies shared.waiters }
      | none => shared
  | .closer index =>
      match shared.closers[index]? with
      | some call =>
          { shared with
            record := call.change shared.record
            closers := shared.closers.set index call.next
            waiters := announce call.notifies shared.waiters }
      | none => shared
  | .waiter index =>
      match shared.waiters[index]? with
      | some waiter =>
          { shared with waiters := shared.waiters.set index (waiter.next shared.record) }
      | none => shared
  | .clock index =>
      match shared.waiters[index]? with
      | some waiter => { shared with waiters := shared.waiters.set index waiter.expire }
      | none => shared

/-- The steps of a schedule, one after the other. -/
def run (shared : SharedRecord) (schedule : List Actor) : SharedRecord :=
  schedule.foldl step shared

@[simp]
theorem run_nil (shared : SharedRecord) : shared.run [] = shared := rfl

@[simp]
theorem run_cons (shared : SharedRecord) (actor : Actor) (schedule : List Actor) :
    shared.run (actor :: schedule) = (shared.step actor).run schedule := rfl

theorem run_append (shared : SharedRecord) (first second : List Actor) :
    shared.run (first ++ second) = (shared.run first).run second :=
  List.foldl_append

/-- No call has taken a step yet. -/
structure Fresh (shared : SharedRecord) : Prop where
  appends : ∀ call ∈ shared.appends, call.phase = .entering
  closers : ∀ call ∈ shared.closers, call = .entering
  waiters : ∀ waiter ∈ shared.waiters, waiter.phase = .entering

/-! ## What a step does -/

private theorem getElem?_set_of_some {α : Type} {list : List α} {index : Nat} {old : α}
    (there : list[index]? = some old) (new : α) : (list.set index new)[index]? = some new := by
  rcases List.getElem?_eq_some_iff.mp there with ⟨bound, _⟩
  exact List.getElem?_set_self bound

section Steps

variable {shared : SharedRecord} {index : Nat}

theorem step_appender {call : AppendCall} (there : shared.appends[index]? = some call) :
    shared.step (.appender index) =
      { shared with
        record := call.change shared.record
        appends := shared.appends.set index (call.next shared.record)
        waiters := announce call.notifies shared.waiters } := by
  rw [step, there]

theorem appends_step {call : AppendCall} (there : shared.appends[index]? = some call) :
    (shared.step (.appender index)).appends[index]? = some (call.next shared.record) := by
  rw [step_appender there]
  exact getElem?_set_of_some there _

theorem record_step_appender {call : AppendCall} (there : shared.appends[index]? = some call) :
    (shared.step (.appender index)).record = call.change shared.record := by
  rw [step_appender there]

theorem step_waiter {waiter : Waiter} (there : shared.waiters[index]? = some waiter) :
    shared.step (.waiter index) =
      { shared with waiters := shared.waiters.set index (waiter.next shared.record) } := by
  rw [step, there]

theorem waiters_step {waiter : Waiter} (there : shared.waiters[index]? = some waiter) :
    (shared.step (.waiter index)).waiters[index]? = some (waiter.next shared.record) := by
  rw [step_waiter there]
  exact getElem?_set_of_some there _

/-- A step leaves the record as it is, adds the frame of an admitted append, or seals it. -/
theorem record_step (shared : SharedRecord) (actor : Actor) :
    (shared.step actor).record = shared.record ∨
      (∃ index call, actor = .appender index ∧ shared.appends[index]? = some call ∧
        call.phase = .admitted ∧ (shared.step actor).record = shared.record.push call.frame) ∨
      (shared.step actor).record = shared.record.close := by
  cases actor with
  | appender index =>
      cases there : shared.appends[index]? with
      | none => simp [step, there]
      | some call =>
          cases phase : call.phase <;> simp [step, there, AppendCall.change, phase]
  | closer index =>
      cases there : shared.closers[index]? with
      | none => simp [step, there]
      | some call => cases call <;> simp [step, there, ClosePhase.change]
  | waiter index =>
      cases there : shared.waiters[index]? <;> simp [step, there]
  | clock index =>
      cases there : shared.waiters[index]? <;> simp [step, there]

/-- A step leaves a waiter as it is, notifies it, lets it take its own next step, or gives
it up. -/
theorem waiter_step {waiter : Waiter} (there : shared.waiters[index]? = some waiter)
    (actor : Actor) :
    (shared.step actor).waiters[index]? = some waiter ∨
      (shared.step actor).waiters[index]? = some waiter.notify ∨
      (actor = .waiter index ∧
        (shared.step actor).waiters[index]? = some (waiter.next shared.record)) ∨
      (shared.step actor).waiters[index]? = some waiter.expire := by
  have announced (news : Bool) :
      (announce news shared.waiters)[index]? = some waiter ∨
        (announce news shared.waiters)[index]? = some waiter.notify := by
    cases news <;> simp [announce, there]
  cases actor with
  | appender other =>
      rw [step]
      split
      · rcases announced _ with same | notified
        · exact .inl same
        · exact .inr (.inl notified)
      · exact .inl there
  | closer other =>
      rw [step]
      split
      · rcases announced _ with same | notified
        · exact .inl same
        · exact .inr (.inl notified)
      · exact .inl there
  | waiter other =>
      by_cases own : other = index
      · subst own
        exact .inr (.inr (.inl ⟨rfl, waiters_step there⟩))
      · rw [step]
        split <;> simp [there, own]
  | clock other =>
      by_cases own : other = index
      · subst own
        rw [step, there]
        exact .inr (.inr (.inr (getElem?_set_of_some there _)))
      · rw [step]
        split <;> simp [there, own]

end Steps

/-! ## What a schedule keeps -/

theorem indexed_run {shared : SharedRecord} (indexed : shared.record.Indexed)
    (schedule : List Actor) : (shared.run schedule).record.Indexed := by
  induction schedule generalizing shared with
  | nil => exact indexed
  | cons actor schedule ih =>
      apply ih
      rcases record_step shared actor with same | ⟨_, call, _, _, _, pushed⟩ | closed
      · rw [same]
        exact indexed
      · rw [pushed]
        exact indexed.push call.frame
      · rw [closed]
        exact indexed.close

/-- A record only grows. -/
theorem frames_run (shared : SharedRecord) (schedule : List Actor) :
    shared.record.frames.toList <+: (shared.run schedule).record.frames.toList := by
  induction schedule generalizing shared with
  | nil => exact List.prefix_rfl
  | cons actor schedule ih =>
      refine List.IsPrefix.trans ?_ (ih (shared.step actor))
      rcases record_step shared actor with same | ⟨_, call, _, _, _, pushed⟩ | closed
      · simp only [same, List.prefix_rfl]
      · rw [pushed, Record.push, Array.toList_push]
        exact List.prefix_append ..
      · simp only [closed, Record.close, List.prefix_rfl]

/-- What a query counts grows by the selected ones of the frames that are added. -/
theorem count_run {shared : SharedRecord} (indexed : shared.record.Indexed) (query : Query)
    (schedule : List Actor) :
    ∃ late,
      (shared.run schedule).record.frames.toList = shared.record.frames.toList ++ late ∧
      (shared.run schedule).record.count (some query) =
        shared.record.count (some query) + (late.filter query.selects).length := by
  rcases frames_run shared schedule with ⟨late, grown⟩
  refine ⟨late, grown.symm, ?_⟩
  rw [(indexed_run indexed schedule).count_eq, indexed.count_eq, ← grown, List.filter_append,
    List.length_append]
  rfl

/-- A sealed record stays sealed. -/
theorem isSealed_run {shared : SharedRecord} (closed : shared.record.isSealed = true)
    (schedule : List Actor) : (shared.run schedule).record.isSealed = true := by
  induction schedule generalizing shared with
  | nil => exact closed
  | cons actor schedule ih =>
      apply ih
      rcases record_step shared actor with same | ⟨_, call, _, _, _, pushed⟩ | closes
      · rw [same]
        exact closed
      · rw [pushed]
        exact closed
      · rw [closes]
        rfl

/-! ## Uninterrupted calls -/

/-- An append that is not interrupted is the append of the record. -/
theorem run_append_call {shared : SharedRecord} {index : Nat} {frame : Frame}
    (there : shared.appends[index]? = some { frame }) :
    let last := shared.run [.appender index, .appender index, .appender index]
    last.record = (shared.record.append frame).2 ∧
      last.appends[index]? = some ⟨frame, .finished (shared.record.append frame).1⟩ := by
  have record : (shared.step (.appender index)).record = shared.record :=
    record_step_appender there
  have read := appends_step there
  intro last
  cases sealing : shared.record.isSealed with
  | true =>
      -- Refused, the call has nothing more to do.
      have refused : (shared.step (.appender index)).appends[index]? =
          some ⟨frame, .finished false⟩ := by
        rw [read, AppendCall.next, Record.admits, sealing]
        rfl
      have still := appends_step refused
      rw [Record.append_of_sealed sealing]
      constructor
      · exact (record_step_appender still).trans ((record_step_appender refused).trans record)
      · exact appends_step still
  | false =>
      have admitted : (shared.step (.appender index)).appends[index]? =
          some ⟨frame, .admitted⟩ := by
        rw [read, AppendCall.next, Record.admits, sealing]
        rfl
      have pushed := appends_step admitted
      rw [Record.append_of_unsealed sealing]
      constructor
      · refine (record_step_appender pushed).trans ((record_step_appender admitted).trans ?_)
        rw [record]
        rfl
      · exact appends_step pushed

/-- A waiter that is not interrupted settles. -/
theorem run_waiter {shared : SharedRecord} {index : Nat} {waiter : Waiter}
    (there : shared.waiters[index]? = some waiter) (entering : waiter.phase = .entering) :
    (shared.run [.waiter index, .waiter index, .waiter index]).waiters[index]? =
      some (waiter.settle shared.record) := by
  have record (other : SharedRecord) {waiter : Waiter}
      (there : other.waiters[index]? = some waiter) :
      (other.step (.waiter index)).record = other.record := by rw [step_waiter there]
  have registers : waiter.next shared.record = waiter.register := by
    rw [Waiter.next, entering]
  have registered : waiter.register.phase = .registered := by
    rw [Waiter.register, entering]
  have looks : waiter.register.next shared.record = waiter.register.look shared.record := by
    rw [Waiter.next, registered]
  have judges : (waiter.register.look shared.record).next shared.record =
      (waiter.register.look shared.record).judge shared.record := by
    simp only [Waiter.look, registered]
    split <;> rfl
  have first := waiters_step there
  have second := waiters_step first
  have third := waiters_step second
  rw [record _ first, record _ there, registers, looks, judges] at third
  exact third

end SharedRecord

end Testbed.Trace
