import Mathlib.Data.List.Basic
import Testbed.Trace.Record

/-!
# The index of a record

This file supplies the agreement of the index by application with the frames of a
record.  A query that pins down an application looks at the positions that the index
has for it and at no others, and yet finds what a look at every frame would find.

The index is right as long as every entry lists the places of the frames of its
application.  Adding a frame restores that, and nothing else touches the index.  The
frames that a record has accepted are those appended before it was closed.
-/

namespace Testbed.Trace

/-! ## Places of frames -/

/-- The places of the frames that are selected, in ascending order. -/
def places (select : Frame → Bool) (frames : List Frame) : List Nat :=
  (frames.zipIdx.filter fun entry => select entry.1).map (·.2)

section Places

variable (select : Frame → Bool) (frames : List Frame)

theorem places_append_singleton (frame : Frame) :
    places select (frames ++ [frame]) =
      places select frames ++ if select frame then [frames.length] else [] := by
  rw [places, List.zipIdx_append, List.filter_append, List.map_append, places]
  by_cases selected : select frame = true <;> simp [selected]

theorem places_true : places (fun _ => true) frames = List.range frames.length := by
  have whole : (frames.zipIdx.filter fun _ => true) = frames.zipIdx :=
    List.filter_eq_self.mpr fun _ _ => rfl
  rw [places, whole, List.zipIdx_map_snd, List.range_eq_range']

theorem length_places : (places select frames).length = (frames.filter select).length := by
  calc (places select frames).length
      = ((frames.zipIdx.filter fun entry => select entry.1).map (·.1)).length := by
        rw [places, List.length_map, List.length_map]
    _ = ((frames.zipIdx.map (·.1)).filter select).length := by rw [List.filter_map]; rfl
    _ = (frames.filter select).length := by rw [List.zipIdx_map_fst]

/-- Selecting once more among the places of frames is selecting among the frames. -/
theorem filter_places (test : Nat → Bool) (other : Frame → Bool)
    (agree : ∀ place frame, frames[place]? = some frame → test place = other frame) :
    (places select frames).filter test =
      places (fun frame => select frame && other frame) frames := by
  rw [places, List.filter_map, List.filter_filter, places]
  congr 1
  apply List.filter_congr
  intro entry here
  rw [Function.comp_apply, agree entry.2 entry.1 (List.mem_zipIdx_iff_getElem?.mp here),
    Bool.and_comm]

/-- The frames at the places of the selected ones are the selected ones. -/
theorem filterMap_places :
    ((places select frames).filterMap fun place => frames[place]?) = frames.filter select := by
  have found : ∀ entry ∈ frames.zipIdx.filter (fun entry => select entry.1),
      frames[entry.2]? = some entry.1 := by
    intro entry here
    exact List.mem_zipIdx_iff_getElem?.mp (List.mem_filter.mp here).1
  calc ((places select frames).filterMap fun place => frames[place]?)
      = (frames.zipIdx.filter fun entry => select entry.1).filterMap
          fun entry => frames[entry.2]? := by rw [places, List.filterMap_map]; rfl
    _ = (frames.zipIdx.filter fun entry => select entry.1).filterMap
          fun entry => some entry.1 := List.filterMap_congr found
    _ = (frames.zipIdx.filter fun entry => select entry.1).map (·.1) :=
          congrFun List.filterMap_eq_map _
    _ = (frames.zipIdx.map (·.1)).filter select := by rw [List.filter_map]; rfl
    _ = frames.filter select := by rw [List.zipIdx_map_fst]

end Places

/-! ## Queries that pin down an application -/

namespace Query

variable {query : Query} {frame : Frame}

theorem selects_of_isEmpty (empty : query.isEmpty = true) : query.selects frame = true := by
  rw [isEmpty, List.all_eq_true] at empty
  rw [selects, List.all_eq_true]
  intro field known
  rw [Option.isNone_iff_eq_none.mp (empty field known)]

/-- The application that a query pins down is that of every frame it selects. -/
theorem apid_of_selects {apid : String} (pinned : query.exactApid? = some apid)
    (selected : query.selects frame = true) : frame.apid = apid := by
  rw [selects, List.all_eq_true] at selected
  have matched := selected .apid (Field.mem_all .apid)
  unfold exactApid? at pinned
  split at pinned
  next text isExact =>
      cases pinned
      rw [isExact] at matched
      exact (beq_iff_eq.mp matched).symm
  next => contradiction

end Query

namespace Record

/-! ## The index -/

theorem lookup_addPosition (apid other : String) (position : Nat)
    (index : List (String × Array Nat)) :
    ((addPosition apid position index).lookup other).getD #[] =
      if other = apid then ((index.lookup other).getD #[]).push position
      else (index.lookup other).getD #[] := by
  have differ (name : String) (different : other ≠ name) : (other == name) = false :=
    beq_eq_false_iff_ne.mpr different
  induction index with
  | nil =>
      by_cases same : other = apid
      · simp [addPosition, same]
      · simp [addPosition, List.lookup_cons, same, differ apid same]
  | cons entry index ih =>
      rcases entry with ⟨name, positions⟩
      by_cases here : name = apid
      · by_cases same : other = apid
        · simp [addPosition, here, same]
        · simp [addPosition, List.lookup_cons, here, same, differ apid same]
      · by_cases named : other = name
        · simp [addPosition, here, named]
        · simp only [addPosition, here, if_false, List.lookup_cons, differ name named]
          exact ih

/-- The applications of an index. -/
def names (index : List (String × Array Nat)) : List String :=
  index.map (·.1)

theorem names_addPosition (apid : String) (position : Nat) (index : List (String × Array Nat)) :
    names (addPosition apid position index) =
      if apid ∈ names index then names index else names index ++ [apid] := by
  induction index with
  | nil => simp [addPosition, names]
  | cons entry index ih =>
      rcases entry with ⟨name, positions⟩
      by_cases here : name = apid
      · simp [addPosition, names, here]
      · have differ : apid ≠ name := Ne.symm here
        have known : apid ∈ names ((name, positions) :: index) ↔ apid ∈ names index := by
          simp [names, differ]
        rw [addPosition, if_neg here]
        by_cases there : apid ∈ names index
        · rw [if_pos there] at ih
          rw [if_pos (known.mpr there), names, List.map_cons, ← names, ih]
          rfl
        · rw [if_neg there] at ih
          rw [if_neg (there ∘ known.mp), names, List.map_cons, ← names, ih]
          rfl

/-- The index of a record lists the places of the frames of every application, and has
one entry for each application that has a frame. -/
structure Indexed (record : Record) : Prop where
  lookup_eq : ∀ apid, ((record.index.lookup apid).getD #[]).toList =
    places (fun frame => frame.apid == apid) record.frames.toList
  nodup : (names record.index).Nodup
  mem_names : ∀ apid, apid ∈ names record.index ↔ ∃ frame ∈ record.frames, frame.apid = apid

theorem indexed_empty : Indexed .empty where
  lookup_eq _ := rfl
  nodup := .nil
  mem_names apid := by simp [names, empty]

namespace Indexed

variable {record : Record}

theorem push (indexed : record.Indexed) (frame : Frame) : (record.push frame).Indexed where
  lookup_eq apid := by
    rw [Record.push, lookup_addPosition, Array.toList_push, places_append_singleton,
      ← indexed.lookup_eq apid]
    by_cases same : apid = frame.apid
    · simp [same]
    · have differ : (frame.apid == apid) = false := beq_eq_false_iff_ne.mpr (Ne.symm same)
      simp [same, differ]
  nodup := by
    rw [Record.push, names_addPosition]
    by_cases known : frame.apid ∈ names record.index
    · rw [if_pos known]
      exact indexed.nodup
    · rw [if_neg known]
      refine List.nodup_append.mpr ⟨indexed.nodup, by simp, ?_⟩
      intro name here other there same
      rw [List.mem_singleton] at there
      exact known (there ▸ same ▸ here)
  mem_names apid := by
    simp only [Record.push, names_addPosition, Array.mem_push]
    by_cases known : frame.apid ∈ names record.index
    · rw [if_pos known, indexed.mem_names apid]
      constructor
      · rintro ⟨other, here, named⟩
        exact ⟨other, .inl here, named⟩
      · rintro ⟨other, here | rfl, named⟩
        · exact ⟨other, here, named⟩
        · exact (indexed.mem_names apid).mp (named ▸ known)
    · rw [if_neg known, List.mem_append, indexed.mem_names apid, List.mem_singleton]
      constructor
      · rintro (⟨other, here, named⟩ | rfl)
        · exact ⟨other, .inl here, named⟩
        · exact ⟨frame, .inr rfl, rfl⟩
      · rintro ⟨other, here | rfl, named⟩
        · exact .inl ⟨other, here, named⟩
        · exact .inr named.symm

theorem close (indexed : record.Indexed) : record.close.Indexed :=
  ⟨indexed.lookup_eq, indexed.nodup, indexed.mem_names⟩

/-! ## Queries -/

/-- A query looks at the frames of the application that it pins down, or at all. -/
theorem candidates_eq (indexed : record.Indexed) (query : Option Query) :
    record.candidates query =
      places (fun frame => (query.bind Query.exactApid?).all (frame.apid == ·))
        record.frames.toList := by
  rw [candidates]
  split
  next apid pinned =>
      rw [indexed.lookup_eq, pinned]
      rfl
  next unpinned =>
      rw [unpinned, ← Array.length_toList, ← places_true]
      rfl

/-- The index does not show in what a query finds: the positions are those of all the
frames that the query selects. -/
theorem positions_eq (indexed : record.Indexed) (query : Option Query) :
    record.positions query =
      places (fun frame => query.all (·.selects frame)) record.frames.toList := by
  rw [positions, indexed.candidates_eq]
  refine (filter_places _ _ _
    (fun frame => (query.filter (!·.isEmpty)).all (·.selects frame)) ?_).trans ?_
  · intro place frame here
    rw [Array.getElem?_toList] at here
    rw [here]
    cases query.filter (!·.isEmpty) <;> rfl
  congr 1
  funext frame
  cases query with
  | none => rfl
  | some query =>
      cases empty : query.isEmpty with
      | true => simp [Option.filter_some, empty, Query.selects_of_isEmpty empty]
      | false =>
          simp only [Option.filter_some, empty, Bool.not_false, if_true, Option.bind_some,
            Option.all_some]
          cases selected : query.selects frame with
          | false => rw [Bool.and_false]
          | true =>
              rw [Bool.and_true, Option.all_eq_true]
              intro apid pinned
              exact beq_iff_eq.mpr (Query.apid_of_selects pinned selected)

theorem find_eq (indexed : record.Indexed) (query : Option Query) :
    record.find query = record.frames.toList.filter fun frame => query.all (·.selects frame) := by
  rw [← filterMap_places, find, indexed.positions_eq]
  congr 1
  funext place
  exact Array.getElem?_toList.symm

theorem count_eq (indexed : record.Indexed) (query : Option Query) :
    record.count query =
      (record.frames.toList.filter fun frame => query.all (·.selects frame)).length := by
  rw [count, indexed.positions_eq, length_places]

theorem mem_apids (indexed : record.Indexed) (apid : String) :
    apid ∈ record.apids ↔ ∃ frame ∈ record.frames, frame.apid = apid := by
  rw [apids, (List.mergeSort_perm ..).mem_iff]
  exact indexed.mem_names apid

/-- The applications of a record stand in strictly ascending order. -/
theorem pairwise_apids (indexed : record.Indexed) : record.apids.Pairwise (· < ·) := by
  have ascending : record.apids.Pairwise fun first second => !decide (second < first) := by
    apply List.pairwise_mergeSort
    · intro first second third below under
      simp only [Bool.not_eq_true', decide_eq_false_iff_not, String.not_lt] at below under ⊢
      exact String.le_trans below under
    · intro first second
      simp only [Bool.or_eq_true, Bool.not_eq_true', decide_eq_false_iff_not, String.not_lt]
      exact String.le_total first second
  have distinct : record.apids.Nodup := (List.mergeSort_perm ..).nodup_iff.mpr indexed.nodup
  refine (ascending.and distinct).imp ?_
  rintro first second ⟨below, different⟩
  simp only [Bool.not_eq_true', decide_eq_false_iff_not] at below
  by_cases above : first < second
  · exact above
  · exact absurd (String.le_antisymm (String.not_lt.mp below) (String.not_lt.mp above)) different

end Indexed

/-! ## Uses of a record -/

/-- One use of a record. -/
inductive Use where
  | append (frame : Frame)
  | close
  | find (query : Option Query)

namespace Use

/-- Whether a use closes the record. -/
def closes : Use → Bool
  | close => true
  | _ => false

/-- The frame that a use appends. -/
def frame? : Use → Option Frame
  | append frame => some frame
  | _ => none

end Use

/-- A record, the frames it has accepted, and what queries have found in it. -/
structure History where
  record : Record := .empty
  accepted : List Frame := []
  answers : List (Option Query × List Frame) := []

namespace History

/-- Use the record once more. -/
def use (history : History) : Use → History
  | .append frame =>
      let (added, record) := history.record.append frame
      { history with
        record
        accepted := if added then history.accepted ++ [frame] else history.accepted }
  | .close => { history with record := history.record.close }
  | .find query =>
      { history with answers := history.answers ++ [(query, history.record.find query)] }

/-- The uses of a new record, one after the other. -/
def ofUses (uses : List Use) : History :=
  uses.foldl use {}

theorem use_append_of_unsealed {history : History} (unsealed : history.record.isSealed = false)
    (frame : Frame) :
    history.use (.append frame) =
      { history with
        record := history.record.push frame
        accepted := history.accepted ++ [frame] } := by
  rw [use, append_of_unsealed unsealed]
  rfl

theorem use_append_of_sealed {history : History} (closed : history.record.isSealed = true)
    (frame : Frame) : history.use (.append frame) = history := by
  rw [use, append_of_sealed closed]
  rfl

/-! ## Accepted frames -/

/-- Once the record is sealed, no use changes what it has accepted. -/
theorem accepted_foldl_of_sealed {history : History} (closed : history.record.isSealed = true)
    (uses : List Use) : (uses.foldl use history).accepted = history.accepted := by
  induction uses generalizing history with
  | nil => rfl
  | cons next uses ih =>
      rw [List.foldl_cons]
      cases next with
      | append frame =>
          rw [use_append_of_sealed closed]
          exact ih closed
      | close => exact ih rfl
      | find query => exact ih closed

/-- Until the record is sealed, it accepts every frame that is appended. -/
theorem accepted_foldl_of_unsealed {history : History}
    (unsealed : history.record.isSealed = false) (uses : List Use) :
    (uses.foldl use history).accepted =
      history.accepted ++ (uses.takeWhile (!·.closes)).filterMap Use.frame? := by
  induction uses generalizing history with
  | nil => exact (List.append_nil _).symm
  | cons next uses ih =>
      rw [List.foldl_cons]
      cases next with
      | append frame =>
          rw [use_append_of_unsealed unsealed, List.takeWhile_cons_of_pos rfl]
          refine (ih ?_).trans (List.append_assoc ..)
          exact unsealed
      | close =>
          rw [accepted_foldl_of_sealed rfl, List.takeWhile_cons_of_neg (by decide)]
          exact (List.append_nil _).symm
      | find query =>
          rw [List.takeWhile_cons_of_pos rfl]
          exact ih unsealed

/-- A record accepts the frames that are appended before it is closed for the first time, and
no others. -/
theorem accepted_ofUses (uses : List Use) :
    (ofUses uses).accepted = (uses.takeWhile (!·.closes)).filterMap Use.frame? :=
  accepted_foldl_of_unsealed rfl uses

example (first second third : Frame) :
    (ofUses [.append first, .append second, .close, .append third]).accepted = [first, second] :=
  rfl

/-! ## Histories in order -/

/-- A history in order: the record holds the accepted frames under a right index, and
every answer is the beginning of what its query finds now, the earlier the shorter. -/
structure InOrder (history : History) : Prop where
  frames_eq : history.record.frames.toList = history.accepted
  indexed : history.record.Indexed
  growing : history.answers.Pairwise fun earlier later =>
    earlier.1 = later.1 → earlier.2 <+: later.2
  answers_prefix : ∀ answer ∈ history.answers, answer.2 <+: history.record.find answer.1

theorem inOrder_new : InOrder {} where
  frames_eq := rfl
  indexed := indexed_empty
  growing := .nil
  answers_prefix _ none := absurd none List.not_mem_nil

namespace InOrder

variable {history : History}

theorem append (inOrder : history.InOrder) (frame : Frame) :
    (history.use (.append frame)).InOrder := by
  cases sealing : history.record.isSealed with
  | true =>
      rw [use_append_of_sealed sealing]
      exact inOrder
  | false =>
      have frames : (history.record.push frame).frames.toList = history.accepted ++ [frame] := by
        rw [push, Array.toList_push, inOrder.frames_eq]
      rw [use_append_of_unsealed sealing]
      refine ⟨frames, inOrder.indexed.push frame, inOrder.growing, ?_⟩
      intro answer given
      refine (inOrder.answers_prefix answer given).trans ?_
      rw [inOrder.indexed.find_eq, (inOrder.indexed.push frame).find_eq, frames,
        inOrder.frames_eq, List.filter_append]
      exact List.prefix_append ..

theorem close (inOrder : history.InOrder) : (history.use .close).InOrder :=
  ⟨inOrder.frames_eq, inOrder.indexed.close, inOrder.growing, inOrder.answers_prefix⟩

theorem find (inOrder : history.InOrder) (query : Option Query) :
    (history.use (.find query)).InOrder := by
  refine ⟨inOrder.frames_eq, inOrder.indexed, ?_, ?_⟩
  · refine List.pairwise_append.mpr ⟨inOrder.growing, List.pairwise_singleton .., ?_⟩
    intro earlier given later last same
    rw [List.mem_singleton] at last
    subst last
    change earlier.1 = query at same
    subst same
    exact inOrder.answers_prefix earlier given
  · intro answer given
    rcases List.mem_append.mp given with before | last
    · exact inOrder.answers_prefix answer before
    · rw [List.mem_singleton] at last
      subst last
      exact List.prefix_rfl

theorem uses (inOrder : history.InOrder) (uses : List Use) :
    (uses.foldl History.use history).InOrder := by
  induction uses generalizing history with
  | nil => exact inOrder
  | cons next uses ih =>
      cases next with
      | append frame => exact ih (inOrder.append frame)
      | close => exact ih inOrder.close
      | find query => exact ih (inOrder.find query)

end InOrder

/-- At every point of every use of a record, what a query finds are the accepted frames
that it selects, in order, whether or not the index is asked.  The applications are
those of the accepted frames, each once and in ascending order.  What a query has found
is the beginning of what the same query finds later. -/
theorem find_eq_scan (uses : List Use) :
    let history := ofUses uses
    (∀ query, history.record.find query =
        history.accepted.filter fun frame => query.all (·.selects frame)) ∧
      (history.record.apids.Pairwise (· < ·) ∧
        ∀ apid, apid ∈ history.record.apids ↔ ∃ frame ∈ history.accepted, frame.apid = apid) ∧
      history.answers.Pairwise fun earlier later =>
        earlier.1 = later.1 → earlier.2 <+: later.2 := by
  intro history
  have inOrder : history.InOrder := inOrder_new.uses uses
  refine ⟨?_, ⟨inOrder.indexed.pairwise_apids, ?_⟩, inOrder.growing⟩
  · intro query
    rw [inOrder.indexed.find_eq, inOrder.frames_eq]
  · intro apid
    rw [inOrder.indexed.mem_apids, ← inOrder.frames_eq]
    simp only [Array.mem_toList_iff]

end History

end Record

end Testbed.Trace
