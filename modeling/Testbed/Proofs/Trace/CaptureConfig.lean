import Testbed.Proofs.Document.Json
import Testbed.Proofs.Document.Reader
import Testbed.Trace.CaptureConfig

/-!
# Capture settings and their documents

This file supplies the proof that capture settings survive being written and read, each of the
seven values by itself and then all of them, in a run configuration too.  Settings that are left
out of a document are as good as settings that say the default.
-/

namespace Testbed.Trace

open Document

/-! ## Single settings -/

theorem recovers_transport : Recovers Transport.read fun transport => .text transport.name := by
  intro format transport
  cases transport <;> rfl

theorem recovers_filter : Recovers (Reader.optional Reader.text) ofText? := by
  have written : ofText? = orNull .text := by
    funext value
    cases value <;> rfl
  rw [written]
  exact recovers_text.optional (by simp)

theorem recovers_peer : Recovers (Reader.optional Reader.address) addressDocument := by
  have written : addressDocument = orNull fun address => .text address.render := by
    funext address
    cases address <;> rfl
  rw [written]
  exact recovers_address.optional (by simp)

theorem recovers_groups :
    Recovers (Reader.listOf Reader.ipv4) fun groups => .texts (groups.map Net.Ipv4.render) := by
  intro format groups
  have recovered := recovers_ipv4.listOf format groups
  simpa [texts, Function.comp_def] using recovered

theorem recovers_texts : Recovers Reader.texts texts :=
  recovers_text.listOf

theorem recovers_arguments : Recovers (Reader.optional Reader.texts) (orNull texts) :=
  recovers_texts.optional (by simp [texts])

theorem recovers_receiver : Recovers Receiver.read Receiver.toDocument := by
  intro format receiver
  cases receiver with
  | socket => cases format <;> rfl
  | process binary arguments =>
      have program := recovers_text format binary
      have given := recovers_arguments format arguments
      have inner : Receiver.readProcess format
          (.table [("binary", .text binary), ("args", orNull texts arguments)]) =
            some (.process binary arguments) := by
        simp [Receiver.readProcess, Record.readWhole?, Record.repeats, Record.orDefault,
          Record.value?, List.lookup_cons, program, given]
      have outer : Receiver.read format (Receiver.process binary arguments).toDocument =
          Receiver.readProcess format
            (.table [("binary", .text binary), ("args", orNull texts arguments)]) := by
        cases arguments <;> cases format <;> rfl
      rw [outer, inner]

theorem Receiver.toDocument_ne_null (receiver : Receiver) : receiver.toDocument ≠ .null := by
  cases receiver <;> simp [toDocument]

/-! ## Depths -/

theorem fits_texts {depth : Nat} (values : List String) :
    Json.Fits (depth + 1) (.texts values) := by
  apply Json.Fits.list
  rw [List.forall_mem_map]
  exact fun value _ => .text value

theorem fits_nat {depth number : Nat} (small : number < 0x10000000000000000) :
    Json.Fits depth (.nat number) := by
  apply Json.Fits.int <;> omega

theorem fits_ofText? {depth : Nat} (value : Option String) : Json.Fits depth (.ofText? value) := by
  cases value with
  | none => exact .null
  | some value => exact .text value

theorem fits_word16 {depth : Nat} (word : UInt16) : Json.Fits depth (.nat word.toNat) := by
  have bound := word.toNat_lt
  exact fits_nat (by omega)

theorem fits_receiver {depth : Nat} (receiver : Receiver) :
    Json.Fits (depth + 2) receiver.toDocument := by
  cases receiver with
  | socket =>
      apply Json.Fits.table
      simp only [List.forall_mem_cons]
      exact ⟨.text _, List.forall_mem_nil _⟩
  | process binary arguments =>
      apply Json.Fits.table
      simp only [List.forall_mem_cons]
      refine ⟨.text _, .text _, ?_, List.forall_mem_nil _⟩
      cases arguments with
      | none => exact .null
      | some arguments => exact fits_texts arguments

/-! ## Settings of a capture -/

namespace CaptureConfig

theorem recovers : Recovers read toDocument := by
  intro format config
  have transport := recovers_transport format config.transport
  have bindAddress := recovers_address format config.bindAddress
  have port := recovers_word16 format config.port
  have groups := recovers_groups format config.multicastGroups
  have peer := recovers_peer format config.targetAddress
  have filter := recovers_filter format config.filter
  have receiver := recovers_receiver format config.receiver
  rw [read, toDocument, Record.read?_table_eq_some rfl]
  simp [Record.orDefault, Record.value?, List.lookup_cons, transport, bindAddress, port, groups,
    peer, filter, receiver]

/-- Settings that are left out of a table are read as those of the standard settings that the
table is filled up with. -/
theorem read_without {entries filled : List (String × Document)} {absent : List String}
    (filledUp : Record.FilledUp (toDocument {}).entries absent entries filled) (format : Format) :
    read format (.table (Record.without absent entries)) = read format (.table filled) := by
  rw [read, read, Record.read?_table, Record.read?_table, filledUp.repeats_eq rfl]
  by_cases repeated : Record.repeats keys (Record.without absent entries) = true
  · rw [if_pos repeated, if_pos repeated]
  · have once := Bool.eq_false_iff.mpr repeated
    have transport := filledUp.orDefault_eq once (by decide : "transport" ∈ keys) rfl
      (recovers_transport format .udp)
    have bindAddress := filledUp.orDefault_eq once (by decide : "bind_address" ∈ keys) rfl
      (recovers_address format (.v4 .unspecified))
    have port := filledUp.orDefault_eq once (by decide : "port" ∈ keys) rfl
      (recovers_word16 format defaultPort)
    have groups := filledUp.orDefault_eq once (by decide : "multicast_groups" ∈ keys) rfl
      (recovers_groups format [])
    have peer := filledUp.orDefault_eq once (by decide : "target_address" ∈ keys) rfl
      (recovers_peer format none)
    have filter := filledUp.orDefault_eq once (by decide : "filter" ∈ keys) rfl
      (recovers_filter format none)
    have receiver := filledUp.orDefault_eq once (by decide : "receiver" ∈ keys) rfl
      (recovers_receiver format .socket)
    rw [if_neg repeated, if_neg repeated]
    simp only [Option.bind_eq_bind, Option.bind_some, transport, bindAddress, port, groups, peer,
      filter, receiver]

theorem fits (config : CaptureConfig) : Json.Fits Json.maxDepth config.toDocument := by
  apply Json.Fits.table
  simp only [List.forall_mem_cons]
  exact ⟨.text _, .text _, fits_word16 _, fits_texts _, fits_ofText? _, fits_ofText? _,
    fits_receiver _, List.forall_mem_nil _⟩

end CaptureConfig

/-! ## Settings of a run -/

namespace TraceConfig

theorem toDocument_eq (config : TraceConfig) :
    config.toDocument = .table
      [("target_ip", .text config.targetIp.render),
       ("host_ip", .text config.hostIp.render),
       ("multicast_ips", .texts (config.multicastIps.map Net.Ipv4.render)),
       ("port", .nat config.port.toNat),
       ("transport", .text config.transport.name),
       ("filter", .ofText? config.filter),
       ("receiver", orNull Receiver.toDocument config.receiver)] := by
  rw [toDocument]
  cases config.receiver <;> rfl

theorem recovers : Recovers read toDocument := by
  intro format config
  have targetIp := recovers_address format config.targetIp
  have hostIp := recovers_address format config.hostIp
  have groups := recovers_groups format config.multicastIps
  have port := recovers_word16 format config.port
  have transport := recovers_transport format config.transport
  have filter := recovers_filter format config.filter
  have receiver := recovers_receiver.optional Receiver.toDocument_ne_null format config.receiver
  rw [read, toDocument_eq, Record.read?_table_eq_some rfl]
  simp [Record.required, Record.orDefault, Record.value?, List.lookup_cons, targetIp, hostIp,
    groups, port, transport, filter, receiver]

theorem fits (config : TraceConfig) : Json.Fits Json.maxDepth config.toDocument := by
  rw [toDocument_eq]
  apply Json.Fits.table
  simp only [List.forall_mem_cons]
  refine ⟨.text _, .text _, fits_texts _, fits_word16 _, .text _, fits_ofText? _, ?_,
    List.forall_mem_nil _⟩
  cases config.receiver with
  | none => exact .null
  | some receiver => exact fits_receiver receiver

end TraceConfig

/-! ## Writing and reading -/

theorem bind_parse?_compact {α : Type} {read : Reader α} {write : α → Document}
    (recovers : Recovers read write) {value : α} (fits : Json.Fits Json.maxDepth (write value)) :
    (Json.parse? (Json.compact (write value))).bind (read .json) = some value := by
  rw [Json.parse?_compact fits, Option.bind_some, recovers .json value]

/-- Settings of a capture and of a run are read back from their documents, and from the texts of
these.  A table without some of the settings of a capture is read as any that also has the
default of each of them: as the same settings, or as none. -/
theorem settings_survive_writing :
    (∀ config : CaptureConfig,
      CaptureConfig.read .json config.toDocument = some config ∧
        (Json.parse? (Json.compact config.toDocument)).bind (CaptureConfig.read .json) =
          some config) ∧
    (∀ config : TraceConfig,
      TraceConfig.read .json config.toDocument = some config ∧
        (Json.parse? (Json.compact config.toDocument)).bind (TraceConfig.read .json) =
          some config) ∧
    ∀ (absent : List String) (entries filled : List (String × Document)),
      Record.FilledUp (CaptureConfig.toDocument {}).entries absent entries filled →
        CaptureConfig.read .json (.table (Record.without absent entries)) =
          CaptureConfig.read .json (.table filled) := by
  refine ⟨fun config => ⟨?_, ?_⟩, fun config => ⟨?_, ?_⟩, fun absent entries filled filledUp => ?_⟩
  · exact CaptureConfig.recovers .json config
  · exact bind_parse?_compact CaptureConfig.recovers config.fits
  · exact TraceConfig.recovers .json config
  · exact bind_parse?_compact TraceConfig.recovers config.fits
  · exact CaptureConfig.read_without filledUp .json

/-- Two settings in the reverse order, behind the defaults of the others. -/
theorem settings_survive_writing_reversed :
    let absent := ["transport", "bind_address", "multicast_groups", "target_address", "receiver"]
    let entries : List (String × Document) :=
      [("transport", .text "tcp"), ("filter", .text "apid=APP1"), ("port", .int 3491)]
    let filled : List (String × Document) :=
      [("receiver", .table [("kind", .text "socket")]), ("target_address", .null),
       ("multicast_groups", .list []), ("bind_address", .text "0.0.0.0"),
       ("transport", .text "udp"), ("port", .int 3491), ("filter", .text "apid=APP1")]
    Record.FilledUp (CaptureConfig.toDocument {}).entries absent entries filled ∧
      CaptureConfig.read .json (.table (Record.without absent entries)) =
        CaptureConfig.read .json (.table filled) ∧
      CaptureConfig.read .json (.table filled) =
        some { port := 3491, filter := some "apid=APP1" } := by
  intro absent entries filled
  have filledUp : Record.FilledUp (CaptureConfig.toDocument {}).entries absent entries filled :=
    (List.reverse_perm filled).symm
  have same := settings_survive_writing.2.2 absent entries filled filledUp
  refine ⟨filledUp, same, ?_⟩
  rw [← same]
  decide

end Testbed.Trace
