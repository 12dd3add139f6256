import Testbed.Action
import Testbed.Proofs.Trace.RoundTrip

/-!
# Messages written field by field

This file supplies what a buffer looks like after a message has been appended to it.  The
length of a message is settled before anything is written, so a message that is too long
leaves the buffer as it was, and so does the whole stream if it is to go to a file.

Lengths inside the payload are written in two octets without being compared with anything.
They are right all the same on every message that is written, since the payload is longer
than each of its parts and the message is longer than its payload.
-/

namespace Testbed.Trace

namespace Argument

/-! ## Announced lengths -/

/-- Two octets hold a number, itself and not what it leaves modulo the count of their
values. -/
def Announces (order : ByteOrder) (field : Octets) (count : Nat) : Prop :=
  field.length = 2 ∧ Octets.toNat order field = count

theorem announces_ofNat (order : ByteOrder) {count : Nat} (fits : count < 0x10000) :
    Announces order (Octets.ofNat order 2 count) count := by
  refine ⟨Octets.length_ofNat .., ?_⟩
  rw [Octets.toNat_ofNat]
  exact Nat.mod_eq_of_lt fits

theorem length_terminate (text : String) :
    (terminate text).length = text.utf8ByteSize + 1 := by
  rw [terminate, List.length_append, Text.Utf8.length_encode, List.length_singleton]

theorem announces_terminate (order : ByteOrder) {text : String}
    (fits : (terminate text).length < 0x10000) :
    Announces order (Octets.ofNat order 2 (terminate text).length) (text.utf8ByteSize + 1) := by
  rw [← length_terminate]
  exact announces_ofNat order fits

/-- The octets of a name, where there is one: its length, the terminator counted, and the
terminated name. -/
inductive NameLaidOut (order : ByteOrder) : Option String → Octets → Prop
  | absent : NameLaidOut order none []
  | present {name : String} {field : Octets}
      (announced : Announces order field (name.utf8ByteSize + 1)) :
      NameLaidOut order (some name) (field ++ terminate name)

/-- The octets of the name and the unit of a number, where there is a name: both lengths,
the terminators counted, and both terminated texts. -/
inductive NamesLaidOut (order : ByteOrder) : Option String → Option String → Octets → Prop
  | absent {unit : Option String} : NamesLaidOut order none unit []
  | present {name : String} {unit : Option String} {nameField unitField : Octets}
      (nameAnnounced : Announces order nameField (name.utf8ByteSize + 1))
      (unitAnnounced : Announces order unitField ((unit.getD "").utf8ByteSize + 1)) :
      NamesLaidOut order (some name) unit
        (nameField ++ unitField ++ terminate name ++ terminate (unit.getD ""))

/-- The octets of an argument: the word of its type, and every length right. -/
inductive LaidOut (order : ByteOrder) : Argument → Octets → Prop
  | text {name unit : Option String} {text : String} {type field names : Octets}
      (typed : type.length = 4) (announced : Announces order field (text.utf8ByteSize + 1))
      (named : NameLaidOut order name names) :
      LaidOut order ⟨name, unit, .text text⟩ (type ++ field ++ names ++ terminate text)
  | raw {name unit : Option String} {data type field names : Octets}
      (typed : type.length = 4) (announced : Announces order field data.length)
      (named : NameLaidOut order name names) :
      LaidOut order ⟨name, unit, .raw data⟩ (type ++ field ++ names ++ data)
  | bool {name unit : Option String} {value : Bool} {type names : Octets}
      (typed : type.length = 4) (named : NameLaidOut order name names) :
      LaidOut order ⟨name, unit, .bool value⟩ (type ++ names ++ [if value then 1 else 0])
  | number {argument : Argument} {type names word : Octets}
      (number : argument.value.isNumber = true) (typed : type.length = 4)
      (named : NamesLaidOut order argument.name argument.unit names)
      (wide : word.length = 4 ∨ word.length = 8) :
      LaidOut order argument (type ++ names ++ word)

theorem nameLaidOut (order : ByteOrder) (name : Option String)
    (fits : (nameOctets order name).length < 0x10000) :
    NameLaidOut order name (nameOctets order name) := by
  cases name with
  | none => exact .absent
  | some name =>
      have short : (terminate name).length < 0x10000 := by
        simp only [nameOctets, encodeName, List.length_append] at fits
        omega
      exact .present (announces_terminate order short)

theorem namesLaidOut (order : ByteOrder) (name unit : Option String)
    (fits : (namesOctets order name unit).length < 0x10000) :
    NamesLaidOut order name unit (namesOctets order name unit) := by
  cases name with
  | none => exact .absent
  | some name =>
      simp only [namesOctets, encodeNames, List.length_append] at fits
      exact .present (announces_terminate order (by omega)) (announces_terminate order (by omega))

/-- The lengths of an argument are right if all of it is short enough. -/
theorem laidOut_encode (order : ByteOrder) (argument : Argument)
    (fits : (encode order argument).length < 0x10000) :
    LaidOut order argument (encode order argument) := by
  obtain ⟨name, unit, value⟩ := argument
  cases word : numberWord? value with
  | some written =>
      have number : value.isNumber = true := by
        cases value <;> first | rfl | contradiction
      have wide := numberKind_mem word
      rw [encode_number order name unit word, ← List.append_assoc] at fits ⊢
      simp only [List.length_append] at fits
      refine .number number (Octets.length_ofNat ..) (namesLaidOut order name unit (by omega)) ?_
      simp only [numberKinds, List.mem_cons, Prod.mk.injEq, List.not_mem_nil, or_false] at wide
      rw [Octets.length_ofNat]
      omega
  | none =>
      cases value with
      | text text =>
          rw [encode_text, ← List.append_assoc, ← List.append_assoc] at fits ⊢
          simp only [List.length_append] at fits
          exact .text (Octets.length_ofNat ..) (announces_terminate order (by omega))
            (nameLaidOut order name (by omega))
      | raw data =>
          rw [encode_raw, ← List.append_assoc, ← List.append_assoc] at fits ⊢
          simp only [List.length_append] at fits
          exact .raw (Octets.length_ofNat ..) (announces_ofNat order (by omega))
            (nameLaidOut order name (by omega))
      | bool value =>
          rw [encode_bool, ← List.append_assoc] at fits ⊢
          simp only [List.length_append] at fits
          exact .bool (Octets.length_ofNat ..) (nameLaidOut order name (by omega))
      | signed value | unsigned value =>
          simp only [numberWord?] at word
          split at word <;> contradiction
      | float bits => contradiction

end Argument

/-- The octets of a payload.  Opaque data is not announced by any length but that of the
message. -/
inductive Body.LaidOut (order : ByteOrder) : Body → Octets → Prop
  | empty : LaidOut order (.verbose []) []
  | argument {argument : Argument} {arguments : List Argument} {octets rest : Octets}
      (first : argument.LaidOut order octets) (others : LaidOut order (.verbose arguments) rest) :
      LaidOut order (.verbose (argument :: arguments)) (octets ++ rest)
  | nonVerbose {messageId : UInt32} {data : Octets} :
      LaidOut order (.nonVerbose messageId data) (Octets.ofNat order 4 messageId.toNat ++ data)

namespace Draft

private theorem laidOut_arguments (order : ByteOrder) (arguments : List Argument)
    (fits : (arguments.flatMap (Argument.encode order)).length < 0x10000) :
    Body.LaidOut order (.verbose arguments) (arguments.flatMap (Argument.encode order)) := by
  induction arguments with
  | nil => exact .empty
  | cons argument arguments inductionHypothesis =>
      rw [List.flatMap_cons] at fits ⊢
      rw [List.length_append] at fits
      exact .argument (argument.laidOut_encode order (by omega)) (inductionHypothesis (by omega))

theorem laidOut_payload (draft : Draft) (fits : draft.length < 0x10000) :
    draft.body.LaidOut draft.order draft.payload := by
  have small := draft.length_payload_le
  cases body : draft.body with
  | verbose arguments =>
      have octets : draft.payload = arguments.flatMap (Argument.encode draft.order) := by
        rw [payload, body]
      rw [octets] at small ⊢
      exact laidOut_arguments draft.order arguments (by omega)
  | nonVerbose messageId data =>
      rw [payload, body]
      exact .nonVerbose

/-! ## Writing onto a buffer -/

/-- Append octets. -/
def put (octets : Octets) : Action Octets Unit :=
  .change (· ++ octets)

/-- Append the octets of an optional field, if it is there. -/
def putIf {α : Type} (write : α → Octets) : Option α → Action Octets Unit
  | some value => put (write value)
  | none => pure ()

/-- Append a message field by field.  Its payload has been encoded aside by then, and its
length is settled first. -/
def writeOnto (draft : Draft) : Action Octets Unit :=
  if draft.length < 0x10000 then do
    putIf StorageHeader.write draft.storage
    put [draft.flags.octet]
    put [draft.counter]
    put (Octets.ofNat .big 2 draft.length)
    putIf writeId draft.ecu
    putIf (fun id => Octets.ofNat .big 4 id.toNat) draft.sessionId
    putIf (fun ticks => Octets.ofNat .big 4 ticks.toNat) draft.timestamp
    putIf ExtendedHeader.write draft.extended?
    put draft.payload
  else
    throw (.invalidConfig
      ("DLT message of " ++ toString draft.length ++ " bytes is too long"))

theorem perform_put (octets written : Octets) :
    (put octets).perform written = (.ok (), written ++ octets) :=
  rfl

theorem perform_putIf {α : Type} (write : α → Octets) (value : Option α) (written : Octets) :
    (putIf write value).perform written = (.ok (), written ++ value.elim [] write) := by
  cases value with
  | none =>
      rw [Option.elim_none, List.append_nil]
      rfl
  | some value => rfl

theorem perform_writeOnto_of_fits (draft : Draft) (fits : draft.length < 0x10000)
    (written : Octets) : draft.writeOnto.perform written = (.ok (), written ++ draft.wire) := by
  rw [writeOnto, if_pos fits]
  simp only [Action.perform_bind, perform_put, perform_putIf]
  simp only [wire, message, List.append_assoc, List.cons_append, List.nil_append]

theorem perform_writeOnto_of_tooLong (draft : Draft) (tooLong : ¬ draft.length < 0x10000)
    (written : Octets) :
    draft.writeOnto.perform written =
      (.error (.invalidConfig
        ("DLT message of " ++ toString draft.length ++ " bytes is too long")), written) := by
  rw [writeOnto, if_neg tooLong]
  rfl

/-- Written field by field or encoded and appended as a whole, a message comes to the
same. -/
theorem perform_writeOnto (draft : Draft) (written : Octets) :
    draft.writeOnto.perform written =
      match encodeOnto written draft with
      | .ok octets => (.ok (), octets)
      | .error error => (.error error, written) := by
  by_cases fits : draft.length < 0x10000
  · rw [perform_writeOnto_of_fits draft fits, encodeOnto,
      (draft.encode_eq_ok_iff draft.wire).mpr ⟨fits, rfl⟩]
    rfl
  · rw [perform_writeOnto_of_tooLong draft fits, encodeOnto, encode, if_neg fits]
    rfl

/-- Octets of a message, without a storage header: four that every message has, four for
each optional field, ten for the extended header, and the payload. -/
def size (draft : Draft) : Nat :=
  4 + (if draft.ecu.isSome then 4 else 0) + (if draft.sessionId.isSome then 4 else 0)
    + (if draft.timestamp.isSome then 4 else 0) + (if draft.origin.isSome then 10 else 0)
    + draft.payload.length

theorem length_eq_size (draft : Draft) : draft.length = draft.size := by
  obtain ⟨extended, -, ecu, session, timestamp, -⟩ := draft.flags_eq
  rw [length, HeaderFlags.headerLength, HeaderFlags.standardLength, extended, ecu, session,
    timestamp, size]

/-- The octets of a message in front of its payload. -/
def headers (draft : Draft) : Octets :=
  draft.flags.octet :: draft.counter
    :: (Octets.ofNat .big 2 draft.length
      ++ (draft.ecu.elim [] writeId)
      ++ (draft.sessionId.elim [] fun id => Octets.ofNat .big 4 id.toNat)
      ++ (draft.timestamp.elim [] fun ticks => Octets.ofNat .big 4 ticks.toNat)
      ++ (draft.extended?.elim [] ExtendedHeader.write))

theorem message_eq (draft : Draft) : draft.message = draft.headers ++ draft.payload := by
  simp only [message, headers, List.cons_append]

/-- The length field of a message that fits it tells the length. -/
theorem lengthField_headers (draft : Draft) (fits : draft.length < 0x10000) :
    Octets.toNat .big ((draft.headers.drop 2).take 2) = draft.length := by
  have field : (draft.headers.drop 2).take 2 = Octets.ofNat .big 2 draft.length := by
    simp only [headers, List.drop_succ_cons, List.drop_zero, List.append_assoc]
    exact List.take_left' (Octets.length_ofNat ..)
  rw [field, Octets.toNat_ofNat]
  exact Nat.mod_eq_of_lt fits

/-! ## Streams -/

/-- A draft and the time at which it is encoded. -/
structure Stamped where
  draft : Draft
  seconds : UInt32
  microseconds : Int32

/-- The draft as an encoder of a stream writes it. -/
def Stamped.framed (framing : Framing) (entry : Stamped) : Draft :=
  entry.draft.framed framing entry.seconds entry.microseconds

theorem Stamped.length_framed (framing : Framing) (entry : Stamped) :
    (entry.framed framing).length = entry.draft.length := by
  unfold framed Draft.framed
  split <;> rfl

/-- Append the drafts of a stream one after the other, until one is refused. -/
def writeAll (framing : Framing) : List Stamped → Action Octets Unit
  | [] => pure ()
  | entry :: entries => do
      (entry.framed framing).writeOnto
      writeAll framing entries

/-- The octets of a stream. -/
def wires (framing : Framing) (entries : List Stamped) : Octets :=
  entries.flatMap fun entry => (entry.framed framing).wire

theorem wires_cons (framing : Framing) (entry : Stamped) (entries : List Stamped) :
    wires framing (entry :: entries) = (entry.framed framing).wire ++ wires framing entries :=
  List.flatMap_cons

theorem perform_writeAll_of_fit (framing : Framing) {entries : List Stamped}
    (fit : ∀ entry ∈ entries, entry.draft.length < 0x10000) (written : Octets) :
    (writeAll framing entries).perform written = (.ok (), written ++ wires framing entries) := by
  induction entries generalizing written with
  | nil =>
      rw [wires, List.flatMap_nil, List.append_nil]
      rfl
  | cons entry entries inductionHypothesis =>
      rw [List.forall_mem_cons, ← Stamped.length_framed framing] at fit
      rw [writeAll, Action.perform_bind, perform_writeOnto_of_fits _ fit.1]
      dsimp only
      rw [inductionHypothesis fit.2, wires_cons, List.append_assoc]

theorem perform_writeAll_of_tooLong (framing : Framing) {entries : List Stamped}
    (tooLong : ∃ entry ∈ entries, ¬ entry.draft.length < 0x10000) (written : Octets) :
    ∃ error kept, (writeAll framing entries).perform written = (.error error, kept) := by
  induction entries generalizing written with
  | nil => simp at tooLong
  | cons entry entries inductionHypothesis =>
      rw [writeAll, Action.perform_bind]
      by_cases first : (entry.framed framing).length < 0x10000
      · rw [perform_writeOnto_of_fits _ first]
        refine inductionHypothesis ?_ _
        rw [Stamped.length_framed] at first
        obtain ⟨other, member, long⟩ := tooLong
        rcases List.mem_cons.mp member with same | later
        · exact absurd first (same ▸ long)
        · exact ⟨other, later, long⟩
      · rw [perform_writeOnto_of_tooLong _ first]
        exact ⟨_, _, rfl⟩

theorem perform_writeAll_eq_ok_iff (framing : Framing) (entries : List Stamped)
    (written octets : Octets) :
    (writeAll framing entries).perform written = (.ok (), octets) ↔
      (∀ entry ∈ entries, entry.draft.length < 0x10000) ∧
        octets = written ++ wires framing entries := by
  by_cases fit : ∀ entry ∈ entries, entry.draft.length < 0x10000
  · rw [perform_writeAll_of_fit framing fit, Prod.mk.injEq, eq_self, true_and, and_iff_right fit]
    exact eq_comm
  · have tooLong : ∃ entry ∈ entries, ¬ entry.draft.length < 0x10000 := by
      simpa using fit
    obtain ⟨error, kept, refused⟩ := perform_writeAll_of_tooLong framing tooLong written
    rw [refused]
    simp [fit]

/-- With a clock that stands still the stream is the one that is encoded as a whole. -/
theorem encodeStream_eq (framing : Framing) (seconds : UInt32) (microseconds : Int32)
    (drafts : List Draft) :
    encodeStream framing seconds microseconds drafts =
      match (writeAll framing (drafts.map (Stamped.mk · seconds microseconds))).perform [] with
      | (.ok _, octets) => .ok octets
      | (.error error, _) => .error error := by
  rw [encodeStream]
  generalize ([] : Octets) = written
  induction drafts generalizing written with
  | nil => rfl
  | cons draft drafts inductionHypothesis =>
      rw [List.foldlM_cons, List.map_cons, writeAll, Action.perform_bind, perform_writeOnto]
      rw [Stamped.framed]
      cases encodeOnto written (draft.framed framing seconds microseconds) with
      | error error => rfl
      | ok octets => exact inductionHypothesis octets

/-- Encode a stream aside and save it, unless one of its drafts is refused. -/
def saveStream {σ : Type} (save : Octets → Action σ Unit) (entries : List Stamped) :
    Action σ Unit :=
  let (result, octets) := (writeAll .stored entries).perform []
  Action.give result >>= fun _ => save octets

theorem perform_saveStream_of_fit {σ : Type} (save : Octets → Action σ Unit)
    {entries : List Stamped} (fit : ∀ entry ∈ entries, entry.draft.length < 0x10000) (world : σ) :
    (saveStream save entries).perform world = (save (wires .stored entries)).perform world := by
  rw [saveStream, perform_writeAll_of_fit .stored fit, List.nil_append]
  dsimp only
  rw [Action.perform_bind, Action.perform_give]

theorem perform_saveStream_of_tooLong {σ : Type} (save : Octets → Action σ Unit)
    {entries : List Stamped} (tooLong : ∃ entry ∈ entries, ¬ entry.draft.length < 0x10000)
    (world : σ) :
    ∃ error, (saveStream save entries).perform world = (.error error, world) := by
  obtain ⟨error, kept, refused⟩ := perform_writeAll_of_tooLong .stored tooLong []
  refine ⟨error, ?_⟩
  rw [saveStream, refused]
  dsimp only
  rw [Action.perform_bind, Action.perform_give]

/-- A message is appended whole or not at all.  It is refused exactly if it is longer than
its length field can tell, and then the buffer is as it was.  Otherwise its storage header
and its octets are appended, as many as the length field says, and every length inside the
payload is that of the octets that it announces.  A stream is saved only if each of its
messages is short enough, and then with all of them. -/
theorem written_whole_or_not_at_all (draft : Draft) (written : Octets) {σ : Type}
    (save : Octets → Action σ Unit) (entries : List Stamped) (world : σ) :
    let run := draft.writeOnto.perform written
    (run.1.isOk = false ↔ 65535 < draft.size) ∧
    (65535 < draft.size → run.2 = written) ∧
    (draft.size ≤ 65535 → ∃ storage headers payload,
      run.2 = written ++ storage ++ (headers ++ payload) ∧
      storage.length = (if draft.storage.isSome then 16 else 0) ∧
      (headers ++ payload).length = draft.size ∧
      Octets.toNat .big ((headers.drop 2).take 2) = draft.size ∧
      payload = draft.payload ∧ draft.body.LaidOut draft.order payload) ∧
    ((∃ entry ∈ entries, 65535 < entry.draft.size) →
      ∃ error, (saveStream save entries).perform world = (.error error, world)) ∧
    ((∀ entry ∈ entries, entry.draft.size ≤ 65535) →
      (saveStream save entries).perform world = (save (wires .stored entries)).perform world) := by
  intro run
  have fits_iff : ∀ draft : Draft, draft.length < 0x10000 ↔ draft.size ≤ 65535 := by
    intro draft
    rw [length_eq_size]
    omega
  refine ⟨?_, ?_, ?_, ?_, ?_⟩
  · by_cases fits : draft.length < 0x10000
    · simp only [run, perform_writeOnto_of_fits draft fits]
      exact iff_of_false Bool.false_ne_true.symm (Nat.not_lt.mpr ((fits_iff draft).mp fits))
    · simp only [run, perform_writeOnto_of_tooLong draft fits]
      exact iff_of_true rfl (Nat.lt_of_not_le (mt (fits_iff draft).mpr fits))
  · intro tooLong
    simp only [run,
      perform_writeOnto_of_tooLong draft (mt (fits_iff draft).mp (Nat.not_le.mpr tooLong))]
  · intro short
    have fits := (fits_iff draft).mpr short
    simp only [run, perform_writeOnto_of_fits draft fits, ← length_eq_size]
    refine ⟨draft.storage.elim [] StorageHeader.write, draft.headers, draft.payload, ?_, ?_, ?_,
      draft.lengthField_headers fits, rfl, draft.laidOut_payload fits⟩
    · rw [wire, message_eq, List.append_assoc]
    · exact length_elim StorageHeader.length_write draft.storage
    · rw [← message_eq, length_message]
  · rintro ⟨entry, member, tooLong⟩
    exact perform_saveStream_of_tooLong save
      ⟨entry, member, mt (fits_iff entry.draft).mp (Nat.not_le.mpr tooLong)⟩ world
  · intro short
    exact perform_saveStream_of_fit save
      (fun entry member => (fits_iff entry.draft).mpr (short entry member)) world

/-- A message that is appended, one that is not, and a stream of both, which is not saved. -/
theorem written_whole_or_not_at_all_tooLong :
    let short : Draft := (Draft.log "APP1" "CTX1" .info).text "on" |>.storedAt 7 0
    let long : Draft := (Draft.log "APP1" "CTX1" .info).nonVerbose 1 (List.replicate 70000 0)
    let save : Octets → Action (List Octets) Unit := fun octets => .change (octets :: ·)
    short.size = 27 ∧ (short.writeOnto.perform [1, 2]).2.length = 2 + 16 + 27 ∧
      65535 < long.size ∧ (long.writeOnto.perform [1, 2]).2 = [1, 2] ∧
      ∃ error, (saveStream save [⟨short, 7, 0⟩, ⟨long, 7, 0⟩]).perform [] = (.error error, []) := by
  intro short long save
  have small : short.size = 27 := by decide
  have large : 65535 < long.size := by
    have within : long.payload.length ≤ long.size := Nat.le_add_left ..
    have octets : long.payload = Octets.ofNat .little 4 1 ++ List.replicate 70000 0 := rfl
    rw [octets, List.length_append, Octets.length_ofNat, List.length_replicate] at within
    omega
  obtain ⟨-, -, whole, -⟩ := written_whole_or_not_at_all short [1, 2] save [] []
  obtain ⟨-, notAtAll, -, notSaved, -⟩ :=
    written_whole_or_not_at_all long [1, 2] save [⟨short, 7, 0⟩, ⟨long, 7, 0⟩] []
  obtain ⟨storage, headers, payload, after, stored, counted, -⟩ := whole (by omega)
  refine ⟨small, ?_, large, notAtAll large, notSaved ⟨⟨long, 7, 0⟩, by simp, large⟩⟩
  rw [after, List.length_append, List.length_append, stored, counted, small]
  rfl

end Draft

end Testbed.Trace
