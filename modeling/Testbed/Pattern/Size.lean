import Std.Data.HashMap
import Testbed.Pattern.Tree
import Testbed.Unicode.OctetRange

/-!
# Sizes of patterns

This file supplies how large the program of a pattern is and refuses patterns whose
program is too large.

A pattern is compiled to an automaton over octets, once for reading a text forward and
once for reading it backward.  Every state takes 32 octets, every transition of a state
that has several takes 8, and every branch of a fork takes 4.  Each copy of a repeated
pattern is compiled anew.  Sets beyond ASCII share states as far as a small memory of
the states built last allows.

Nothing is built here but what decides the size: states are numbered in the order in
which they are made, since the memory is addressed by their numbers.
-/

namespace Testbed.Pattern

open Testbed.Unicode (CharSet OctetRange)

/-! ## Tallies -/

/-- The states made so far, and the octets that their transitions take. -/
structure Tally where
  states : Nat := 0
  links : Nat := 0

/-- The greatest number of octets that is accepted. -/
def maxSize : Nat :=
  10 * 1024 * 1024

namespace Tally

/-- Octets that a program takes. -/
def size (tally : Tally) : Nat :=
  32 * tally.states + tally.links

/-- Make some states, as long as the program is not too large. -/
def add? (tally : Tally) (states links : Nat) : Option Tally :=
  let grown : Tally := ⟨tally.states + states, tally.links + links⟩
  if grown.size ≤ maxSize then some grown else none

end Tally

/-- The octets that `count` transitions of one state take. -/
def transitions (count : Nat) : Nat :=
  8 * count

/-- The octets that `count` branches of one fork take. -/
def forks (count : Nat) : Nat :=
  4 * count

/-! ## A memory of states -/

/-- The place of a key in a memory of `places`, by the hash of Fowler, Noll and Vo. -/
def placeOf (places : Nat) (key : List Nat) : Nat :=
  let hash : UInt64 := key.foldl
    (fun hash part => (hash ^^^ UInt64.ofNat part) * 1099511628211) 14695981039346656037
  hash.toNat % places

/-- States by their keys.  Each place remembers the state put there last. -/
abbrev Memory :=
  Std.HashMap Nat (List Nat × Nat)

/-- The state of a key, if it is still remembered. -/
def Memory.recall? (memory : Memory) (place : Nat) (key : List Nat) : Option Nat :=
  match memory[place]? with
  | some (other, state) => if other = key then some state else none
  | none => none

/-- A program in the making that remembers states. -/
structure Sharing where
  tally : Tally
  memory : Memory := ∅

/-- The state of a key, made with `links` octets of transitions if it is not
remembered. -/
def Sharing.state (sharing : Sharing) (places : Nat) (key : List Nat) (links : Nat) :
    Nat × Sharing :=
  let place := placeOf places key
  match sharing.memory.recall? place key with
  | some state => (state, sharing)
  | none =>
      let state := sharing.tally.states
      (state,
        { tally := ⟨state + 1, sharing.tally.links + links⟩
          memory := sharing.memory.insert place (key, state) })

/-! ## Sets read forward -/

/-- A transition on a range of octets to a state. -/
abbrev Transition :=
  OctetRange × Nat

/-- A state that is not made yet: its transitions so far, the last first, and the range
that leads on to the state after it. -/
structure Draft where
  done : List Transition := []
  last : Option OctetRange := none

/-- The state of some transitions. -/
def stateOf (sharing : Sharing) (done : List Transition) : Nat × Sharing :=
  sharing.state 10000 (done.flatMap fun ((low, high), next) => [low, high, next])
    (transitions done.length)

/-- Make the states after the first of some drafts, which lead on to `target`; the
transitions of the first draft and the rest. -/
def settle (target : Nat) : List Draft → Sharing → List Transition × Sharing
  | [], sharing => ([], sharing)
  | draft :: later, sharing =>
      match draft.last with
      | none => (draft.done, sharing)
      | some range =>
          match later with
          | [] => ((range, target) :: draft.done, sharing)
          | _ :: _ =>
              let (done, sharing) := settle target later sharing
              let (next, sharing) := stateOf sharing done.reverse
              ((range, next) :: draft.done, sharing)

/-- Add a sequence of octet ranges.  As long as it runs along the drafts it changes
nothing; then the drafts left behind are made, and the rest is drafted. -/
def extend (target : Nat) : List OctetRange → List Draft → Sharing → List Draft × Sharing
  | range :: ranges, draft :: later, sharing =>
      if draft.last = some range then
        let (later, sharing) := extend target ranges later sharing
        (draft :: later, sharing)
      else
        let (done, sharing) := settle target (draft :: later) sharing
        (⟨done, some range⟩ :: ranges.map fun range => ⟨[], some range⟩, sharing)
  | _, drafts, sharing => (drafts, sharing)

/-- The program of a set beyond ASCII, read forward. -/
def addForward (members : CharSet) (tally : Tally) : Tally :=
  let target := tally.states
  let start : List Draft × Sharing := ([{}], { tally := ⟨target + 1, tally.links⟩ })
  let (drafts, sharing) := members.octetRanges.foldl
    (fun (drafts, sharing) ranges => extend target ranges drafts sharing) start
  let (done, sharing) := settle target drafts sharing
  (stateOf sharing done.reverse).2.tally

/-! ## Sets read backward -/

/-- Add the states of a sequence of octet ranges, each of which leads to the state
before it. -/
def chain : List OctetRange → Nat → Sharing → Sharing
  | [], _, sharing => sharing
  | (low, high) :: ranges, next, sharing =>
      let (state, sharing) := sharing.state 1000 [next, low, high] 0
      chain ranges state sharing

/-- The program of a set beyond ASCII, read backward: a fork with one branch for each
sequence of octet ranges. -/
def addBackward (members : CharSet) (tally : Tally) : Tally :=
  let sequences := members.octetRanges
  let target := tally.states + 1
  let start : Sharing :=
    { tally := ⟨target + 1, tally.links + forks sequences.length⟩ }
  (sequences.foldl (fun sharing ranges => chain ranges target sharing) start).tally

/-- The program of a set, if it is not too large. -/
def addSet (backward : Bool) (members : CharSet) (tally : Tally) : Option Tally :=
  if members.isAscii then tally.add? 2 (transitions members.ranges.size)
  else
    (if backward then addBackward members tally else addForward members tally).add? 0 0

/-! ## Literals -/

/-- The octets of a literal. -/
def octetsOf (text : List Char) : List Nat :=
  text.flatMap fun char => Unicode.encodePoint char.toNat

/-- A state of the tree of some literals.  Where a literal ends, the transitions so far
are closed off, since those of later literals rank lower. -/
structure Node where
  /-- How many transitions were closed off at each end. -/
  closed : List Nat := []
  /-- The transitions since. -/
  active : List (Nat × Nat) := []
  deriving Inhabited

namespace Node

/-- Whether no transition leaves the state. -/
def isLeaf (node : Node) : Bool :=
  node.active.isEmpty && node.closed.all (· = 0)

/-- End a literal at the state. -/
def close (node : Node) : Node :=
  if node.isLeaf && !node.closed.isEmpty then node
  else ⟨node.active.length :: node.closed, []⟩

/-- States and octets of links that the state takes. -/
def cost (node : Node) : Nat × Nat :=
  if node.isLeaf then (0, 0)
  else
    let groups := (node.active.length :: node.closed).filter (0 < ·)
    (groups.length + 1,
      forks (groups.length + node.closed.length)
        + (groups.map fun count => if count = 1 then 0 else transitions count).foldl
          (· + ·) 0)

end Node

/-- Follow or make the transition of an octet. -/
def step (tree : Array Node) (state octet : Nat) : Array Node × Nat :=
  let node := tree.getD state {}
  match node.active.lookup octet with
  | some next => (tree, next)
  | none =>
      let next := tree.size
      ((tree.setIfInBounds state { node with active := (octet, next) :: node.active }).push
        {}, next)

/-- Add a literal to a tree. -/
def plant (tree : Array Node) (octets : List Nat) : Array Node :=
  let (tree, state) := octets.foldl (fun (tree, state) octet => step tree state octet)
    (tree, 0)
  tree.modify state Node.close

/-- The texts of branches that are all literals. -/
def literals? (branches : List Pattern) : Option (List (List Char)) :=
  branches.mapM fun branch =>
    match branch with
    | literal text => some text
    | _ => none

/-- The program of a choice between literals, which share what they begin with. -/
def addLiterals (backward : Bool) (texts : List (List Char)) (tally : Tally) :
    Option Tally :=
  let tree := texts.foldl
    (fun tree text =>
      let octets := octetsOf text
      plant tree (if backward then octets.reverse else octets)) #[{}]
  let (states, links) := tree.foldl
    (fun (states, links) node =>
      let (more, octets) := node.cost
      (states + more, links + octets)) (1, 0)
  tally.add? states links

/-! ## Patterns -/

/-- Add some copies. -/
def addCopies (add : Tally → Option Tally) : Nat → Tally → Option Tally
  | 0, tally => some tally
  | count + 1, tally => (add tally).bind (addCopies add count)

/-- The program of a repetition of a body that `add` compiles. -/
def addRepeated (add : Tally → Option Tally) (body : Pattern) (least : Nat)
    (most : Option Nat) (tally : Tally) : Option Tally :=
  match most with
  | none =>
      if least = 0 then
        if body.leastLength.any (0 < ·) then do
          add (← tally.add? 1 (forks 2))
        else do
          (← add tally).add? 3 (forks 4)
      else do
        (← addCopies add least tally).add? 1 (forks 2)
  | some most =>
      if least = 0 ∧ most = 1 then do
        (← add (← tally.add? 1 (forks 2))).add? 1 0
      else if least = most then
        addCopies add least tally
      else do
        let tally ← if least = 0 then tally.add? 1 0 else addCopies add least tally
        let optional (tally : Tally) : Option Tally := do
          add (← tally.add? 1 (forks 2))
        addCopies optional (most - least) (← tally.add? 1 0)

/-- What joins the branches of a choice: a fork and an end, which are made after the
second of `count` branches. -/
def addJoin (count position : Nat) (tally : Tally) : Option Tally :=
  if position = 1 then tally.add? 2 (forks count) else some tally

/-- The program of a pattern.  A pattern that is the rest of a choice of `count` branches
has `position` branches before it; one that stands for itself has none. -/
def addPattern (backward : Bool) : Pattern → Nat → Nat → Tally → Option Tally
  | empty, count, position, tally => do
      addJoin count position (← tally.add? 1 0)
  | literal text, count, position, tally => do
      addJoin count position (← tally.add? (octetsOf text).length 0)
  | set members _, count, position, tally => do
      addJoin count position (← addSet backward members tally)
  | look _, count, position, tally => do
      addJoin count position (← tally.add? 1 0)
  | repeated body least most _, count, position, tally => do
      addJoin count position
        (← addRepeated (addPattern backward body 0 0) body least most tally)
  | group _ body, count, position, tally => do
      let tally ← if backward then addPattern backward body 0 0 tally
        else (← addPattern backward body 0 0 (← tally.add? 1 0)).add? 1 0
      addJoin count position tally
  | seq first rest, count, position, tally => do
      let tally ← if backward then
          addPattern backward first 0 0 (← addPattern backward rest 0 0 tally)
        else addPattern backward rest 0 0 (← addPattern backward first 0 0 tally)
      addJoin count position tally
  | alt first rest, count, position, tally => do
      let all := (alt first rest).branches
      match position, literals? all with
      | 0, some texts => addLiterals backward texts tally
      | _, _ =>
          let count := if position = 0 then all.length else count
          let tally ← addPattern backward first 0 0 tally
          addPattern backward rest count (position + 1)
            (← addJoin count position tally)

/-- What a program begins with: a loop over any octets, unless each match is fixed at
the side where reading begins. -/
def addPrelude (fixed : Bool) (tally : Tally) : Option Tally :=
  if fixed then tally.add? 1 0 else tally.add? 3 (forks 2 + transitions 1)

/-- The forward program of a pattern, which marks the bounds of the match. -/
def forward? (pattern : Pattern) : Option Tally := do
  let tally ← addPrelude pattern.opensAtStart {}
  (← addPattern false pattern 0 0 (← tally.add? 1 0)).add? 2 0

/-- The backward program of a pattern. -/
def backward? (pattern : Pattern) : Option Tally := do
  (← addPattern true pattern 0 0 (← addPrelude pattern.closesAtEnd {})).add? 1 0

/-- Whether neither program of a pattern is too large. -/
def isCompilable (pattern : Pattern) : Bool :=
  pattern.forward?.isSome && pattern.backward?.isSome

end Testbed.Pattern
