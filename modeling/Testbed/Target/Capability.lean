import Testbed.Document.Reader

/-!
# Capabilities

This file supplies capabilities, the names of what a target guarantees, and the
sets of them that targets offer and tests require.  A set is kept as a strictly
ascending list, so equal sets are equal values and what a set lacks is listed in
order.

Six names are known and stand for operations; any other name is an extension.
-/

namespace Testbed

/-- The name of a guarantee that a target makes. -/
abbrev Capability :=
  String

namespace Capability

/-- Running a command. -/
def exec : Capability :=
  "exec"

/-- Opening remote sessions. -/
def ssh : Capability :=
  "ssh"

/-- Copying files over a remote session. -/
def sftp : Capability :=
  "sftp"

/-- Copying files. -/
def fileTransfer : Capability :=
  "file_transfer"

/-- Restarting the target. -/
def restart : Capability :=
  "restart"

/-- Checks that the target can be reached. -/
def ping : Capability :=
  "ping"

/-- The names that stand for operations. -/
def known : List Capability :=
  [exec, ssh, sftp, fileTransfer, restart, ping]

/-- Whether a name stands for an operation. -/
def isKnown (capability : Capability) : Bool :=
  known.contains capability

end Capability

/-! ## Sorted lists of names -/

/-- Put a name in its place, unless it is there already. -/
def placeName (name : String) : List String → List String
  | [] => [name]
  | other :: rest =>
      if name < other then name :: other :: rest
      else if name = other then other :: rest
      else other :: placeName name rest

theorem mem_placeName {name other : String} {names : List String} :
    other ∈ placeName name names ↔ other = name ∨ other ∈ names := by
  induction names with
  | nil => simp [placeName]
  | cons first rest inductionHypothesis =>
      rw [placeName]
      split
      · simp
      · split
        · rename_i same
          subst same
          simp
        · simp only [List.mem_cons, inductionHypothesis]
          constructor
          · rintro (same | same | member) <;> simp [*]
          · rintro (same | same | member) <;> simp [*]

theorem pairwise_placeName {name : String} {names : List String}
    (ascending : names.Pairwise (· < ·)) :
    (placeName name names).Pairwise (· < ·) := by
  induction names with
  | nil => simp [placeName]
  | cons first rest inductionHypothesis =>
      rw [List.pairwise_cons] at ascending
      rw [placeName]
      split
      · rename_i below
        refine List.pairwise_cons.2 ⟨?_, List.pairwise_cons.2 ascending⟩
        intro other member
        rcases List.mem_cons.1 member with same | member
        · exact same ▸ below
        · exact String.lt_trans below (ascending.1 other member)
      · rename_i notBelow
        split
        · exact List.pairwise_cons.2 ascending
        · rename_i different
          refine List.pairwise_cons.2 ⟨?_, inductionHypothesis ascending.2⟩
          intro other member
          rcases mem_placeName.1 member with same | member
          · have above : first ≤ name := String.not_lt.1 notBelow
            refine same ▸ Decidable.byContradiction fun notAbove => different ?_
            exact String.le_antisymm (String.not_lt.1 notAbove) above
          · exact ascending.1 other member

/-! ## Sets -/

/-- A set of capabilities. -/
structure CapabilitySet where
  names : List Capability
  ascending : names.Pairwise (· < ·)
  deriving DecidableEq

namespace CapabilitySet

/-- The set without members. -/
def empty : CapabilitySet :=
  ⟨[], .nil⟩

instance : Inhabited CapabilitySet :=
  ⟨empty⟩

/-- Whether a capability is a member. -/
def contains (set : CapabilitySet) (capability : Capability) : Bool :=
  set.names.contains capability

/-- Add a capability. -/
def insert (set : CapabilitySet) (capability : Capability) : CapabilitySet :=
  ⟨placeName capability set.names, pairwise_placeName set.ascending⟩

/-- The set of some names in any order. -/
def ofList (names : List Capability) : CapabilitySet :=
  names.foldl insert empty

/-- How many members the set has. -/
def size (set : CapabilitySet) : Nat :=
  set.names.length

/-- Whether the set has no members. -/
def isEmpty (set : CapabilitySet) : Bool :=
  set.names.isEmpty

/-- Whether every member is one of another set. -/
def isSubset (set other : CapabilitySet) : Bool :=
  set.names.all other.contains

/-- Whether some capability is in both sets. -/
def intersects (set other : CapabilitySet) : Bool :=
  set.names.any other.contains

/-- What another set lacks of this one, in order. -/
def missingFrom (set other : CapabilitySet) : List Capability :=
  set.names.filter (!other.contains ·)

/-- The names in braces. -/
def render (set : CapabilitySet) : String :=
  "\x7b" ++ ", ".intercalate set.names ++ "\x7d"

end CapabilitySet

end Testbed
