import Testbed.Trace.Query

/-!
# Terms of queries

This file supplies what a query of written terms selects.  The terms are taken in one after
the other, and each gives its field a matcher in place of one the field may have.  So a
query selects the frames that meet those of its terms that stand, which are the terms
behind which no other names the same field.

A term that is replaced by a later one is no longer required.  A query is the conjunction
of all of its terms just at those frames where nothing depends on that.
-/

namespace Testbed.Trace

/-! ## Selecting -/

namespace Query

variable {query : Query} {frame : Frame}

theorem selects_iff :
    query.selects frame = true ↔
      ∀ field matcher, query.matcher? field = some matcher →
        matcher.holds (field.value frame) = true := by
  rw [selects, List.all_eq_true]
  constructor
  · intro selected field matcher given
    have holds := selected field (Field.mem_all field)
    rw [given] at holds
    exact holds
  · intro holds field _
    cases given : query.matcher? field with
    | none => rfl
    | some matcher => exact holds field matcher given

theorem matcher?_set (field other : Field) (matcher : Matcher) :
    (query.set field matcher).matcher? other =
      if other = field then some matcher else query.matcher? other :=
  rfl

/-! ## Terms -/

/-- The field that a term names, and what it requires of the field. -/
def readTerm (term : String) : Result (Field × Matcher) :=
  match splitTerm? term.toList with
  | some (name, sign, value) => do
      let field ← Field.ofName (String.ofList name)
      if sign = '=' then
        pure (field, .exact (String.ofList value))
      else
        let matcher ← Matcher.ofPattern (String.ofList value)
        pure (field, matcher)
  | none =>
      .error (.invalidQuery
        ("expected field=value or field~regex, got '" ++ term ++ "'"))

/-- Taking a term in is reading it and giving its field the matcher. -/
theorem withTerm_eq (query : Query) (term : String) :
    query.withTerm term = (readTerm term).map fun entry => query.set entry.1 entry.2 := by
  rw [withTerm, readTerm]
  rcases splitTerm? term.toList with _ | ⟨name, sign, value⟩
  · rfl
  · dsimp only
    rw [exact, pattern]
    cases Field.ofName (String.ofList name) with
    | error error => split <;> rfl
    | ok field =>
        by_cases literal : sign = '='
        · simp only [literal, if_true]
          rfl
        · simp only [literal, if_false]
          cases Matcher.ofPattern (String.ofList value) <;> rfl

theorem withTerm_eq_ok_iff {query later : Query} {term : String} :
    query.withTerm term = .ok later ↔
      ∃ field matcher, readTerm term = .ok (field, matcher) ∧ query.set field matcher = later := by
  rw [withTerm_eq]
  cases readTerm term with
  | error error => simp [Except.map]
  | ok entry =>
      rcases entry with ⟨field, matcher⟩
      constructor
      · rintro ⟨⟩
        exact ⟨field, matcher, rfl, rfl⟩
      · rintro ⟨_, _, ⟨⟩, rfl⟩
        rfl

/-- The field that a term names, if it can be read. -/
def field? (term : String) : Option Field :=
  (readTerm term).toOption.map (·.1)

theorem field?_eq_some {term : String} {field : Field} {matcher : Matcher}
    (read : readTerm term = .ok (field, matcher)) : field? term = some field := by
  rw [field?, read]
  rfl

/-- The terms behind which no other names the same field. -/
def standing : List String → List String
  | [] => []
  | term :: rest =>
      if field? term ∈ rest.map field? then standing rest else term :: standing rest

/-- The terms behind which another names the same field. -/
def replaced : List String → List String
  | [] => []
  | term :: rest =>
      if field? term ∈ rest.map field? then term :: replaced rest else replaced rest

/-- Every term stands or is replaced. -/
theorem mem_standing_or_replaced (terms : List String) (term : String) :
    term ∈ terms ↔ term ∈ standing terms ∨ term ∈ replaced terms := by
  induction terms with
  | nil => simp [standing, replaced]
  | cons first rest ih =>
      by_cases named : field? first ∈ rest.map field?
      · simp only [standing, replaced, named, if_true, List.mem_cons, ih]
        exact or_left_comm
      · simp only [standing, replaced, named, if_false, List.mem_cons, ih]
        exact or_assoc.symm

end Query

/-- The query of a term alone selects the frame. -/
def Frame.Meets (frame : Frame) (term : String) : Prop :=
  ∃ alone, Query.ofTerms [term] = .ok alone ∧ alone.selects frame = true

namespace Query

variable {frame : Frame} {terms : List String}

theorem ofTerms_singleton (term : String) : ofTerms [term] = empty.withTerm term := by
  rw [ofTerms, List.foldlM_cons]
  cases empty.withTerm term <;> rfl

theorem meets_iff {term : String} {field : Field} {matcher : Matcher}
    (read : readTerm term = .ok (field, matcher)) :
    frame.Meets term ↔ matcher.holds (field.value frame) = true := by
  have alone : ofTerms [term] = .ok (empty.set field matcher) := by
    rw [ofTerms_singleton, withTerm_eq, read]
    rfl
  rw [Frame.Meets, alone]
  simp only [Except.ok.injEq, exists_eq_left', selects_iff, matcher?_set]
  constructor
  · intro selected
    exact selected field matcher (if_pos rfl)
  · intro holds other found given
    split at given
    next same =>
        cases given
        exact same ▸ holds
    next => cases given

/-! ## Taking terms in -/

/-- The matchers of fields that no term names hold of a frame. -/
def HoldsBeside (query : Query) (terms : List String) (frame : Frame) : Prop :=
  ∀ field matcher, query.matcher? field = some matcher → some field ∉ terms.map field? →
    matcher.holds (field.value frame) = true

/-- A term that is replaced makes no difference, for its field is named again. -/
theorem holdsBeside_set_of_named {query : Query} {term : String} {field : Field}
    {matcher : Matcher} (read : readTerm term = .ok (field, matcher))
    (named : some field ∈ terms.map field?) :
    (query.set field matcher).HoldsBeside terms frame ↔
      query.HoldsBeside (term :: terms) frame := by
  simp only [HoldsBeside, matcher?_set, List.map_cons, field?_eq_some read, List.mem_cons,
    not_or]
  constructor
  · intro beside other found given ⟨differ, unnamed⟩
    apply beside other found
    · rw [if_neg (fun same => differ (congrArg some same))]
      exact given
    · exact unnamed
  · intro beside other found given unnamed
    have differ : other ≠ field := fun same => unnamed (same ▸ named)
    rw [if_neg differ] at given
    exact beside other found given ⟨fun same => differ (Option.some.inj same), unnamed⟩

/-- A term that stands is one more requirement. -/
theorem holdsBeside_set_of_unnamed {query : Query} {term : String} {field : Field}
    {matcher : Matcher} (read : readTerm term = .ok (field, matcher))
    (unnamed : some field ∉ terms.map field?) :
    (query.set field matcher).HoldsBeside terms frame ↔
      frame.Meets term ∧ query.HoldsBeside (term :: terms) frame := by
  simp only [meets_iff read, HoldsBeside, matcher?_set, List.map_cons, field?_eq_some read,
    List.mem_cons, not_or]
  constructor
  · intro beside
    refine ⟨beside field matcher (if_pos rfl) unnamed, ?_⟩
    intro other found given ⟨differ, otherUnnamed⟩
    apply beside other found
    · rw [if_neg (fun same => differ (congrArg some same))]
      exact given
    · exact otherUnnamed
  · rintro ⟨holds, beside⟩ other found given otherUnnamed
    by_cases same : other = field
    · rw [if_pos same] at given
      cases given
      exact same ▸ holds
    · rw [if_neg same] at given
      exact beside other found given ⟨fun equal => same (Option.some.inj equal), otherUnnamed⟩

/-- What a query selects once more terms have been taken in. -/
theorem selects_foldlM_iff {before query : Query}
    (accepted : terms.foldlM withTerm before = .ok query) :
    query.selects frame = true ↔
      before.HoldsBeside terms frame ∧ ∀ term ∈ standing terms, frame.Meets term := by
  induction terms generalizing before with
  | nil =>
      cases accepted
      simp [selects_iff, HoldsBeside, standing]
  | cons term rest ih =>
      rw [List.foldlM_cons] at accepted
      cases taken : before.withTerm term with
      | error error =>
          rw [taken] at accepted
          cases accepted
      | ok next =>
          rw [taken] at accepted
          rcases withTerm_eq_ok_iff.mp taken with ⟨field, matcher, read, rfl⟩
          rw [ih accepted, standing, field?_eq_some read]
          by_cases named : some field ∈ rest.map field?
          · rw [if_pos named, holdsBeside_set_of_named read named]
          · rw [if_neg named, holdsBeside_set_of_unnamed read named, List.forall_mem_cons]
            constructor
            · rintro ⟨⟨meets, beside⟩, others⟩
              exact ⟨beside, meets, others⟩
            · rintro ⟨beside, meets, others⟩
              exact ⟨⟨meets, beside⟩, others⟩

/-- Terms are accepted one by one. -/
theorem exists_foldlM_iff (before : Query) :
    (∃ query, terms.foldlM withTerm before = .ok query) ↔
      ∀ term ∈ terms, ∃ alone, ofTerms [term] = .ok alone := by
  induction terms generalizing before with
  | nil => exact ⟨fun _ _ none => absurd none List.not_mem_nil, fun _ => ⟨before, rfl⟩⟩
  | cons term rest ih =>
      rw [List.foldlM_cons, List.forall_mem_cons, ofTerms_singleton]
      cases read : readTerm term with
      | error error =>
          simp only [withTerm_eq, read]
          constructor
          · rintro ⟨query, ⟨⟩⟩
          · rintro ⟨⟨alone, ⟨⟩⟩, -⟩
      | ok entry =>
          simp only [withTerm_eq, read]
          refine (ih (before.set entry.1 entry.2)).trans ?_
          constructor
          · intro others
            exact ⟨⟨_, rfl⟩, others⟩
          · exact And.right

/-- Terms make a query when each of them does.  The query selects the frames that meet those
of the terms that stand.  So it is the conjunction of all its terms at a frame if and only if
the frame, once selected, also meets the terms that others have replaced. -/
theorem selects_ofTerms_iff (terms : List String) :
    ((∃ query, ofTerms terms = .ok query) ↔
        ∀ term ∈ terms, ∃ alone, ofTerms [term] = .ok alone) ∧
      ∀ query, ofTerms terms = .ok query → ∀ frame : Frame,
        (query.selects frame = true ↔ ∀ term ∈ standing terms, frame.Meets term) ∧
        ((query.selects frame = true ↔ ∀ term ∈ terms, frame.Meets term) ↔
          (query.selects frame = true → ∀ term ∈ replaced terms, frame.Meets term)) := by
  refine ⟨exists_foldlM_iff empty, ?_⟩
  intro query accepted frame
  have nothingBefore : empty.HoldsBeside terms frame := fun _ _ given => nomatch given
  have selected : query.selects frame = true ↔ ∀ term ∈ standing terms, frame.Meets term := by
    rw [selects_foldlM_iff accepted, and_iff_right nothingBefore]
  refine ⟨selected, ?_⟩
  have all : (∀ term ∈ terms, frame.Meets term) ↔
      query.selects frame = true ∧ ∀ term ∈ replaced terms, frame.Meets term := by
    simp only [mem_standing_or_replaced terms, or_imp, forall_and, selected]
  rw [all]
  constructor
  · intro conjunction selects
    exact (conjunction.mp selects).2
  · intro harmless
    constructor
    · intro selects
      exact ⟨selects, harmless selects⟩
    · exact And.left

/-- The message of a standard header without optional fields. -/
def numbered (counter : UInt8) : Frame where
  storage := none
  flags := ⟨0x20⟩
  counter := counter
  length := 4
  headerEcu := none
  sessionId := none
  timestamp := none
  extended := none
  payload := { raw := [], messageId := none, arguments := [], text := none }

example : Frame.read? none [0x20, 2, 0, 4] = some (numbered 2, none) := by decide

theorem selects_ofTerms_iff_numbered :
    let terms := ["apid=", "counter=1", "counter=2"]
    standing terms = ["apid=", "counter=2"] ∧ replaced terms = ["counter=1"] ∧
      ∃ query, ofTerms terms = .ok query ∧ query.selects (numbered 2) = true ∧
        (numbered 2).Meets "apid=" ∧ (numbered 2).Meets "counter=2" := by
  intro terms
  let query := ((empty.set .apid (.exact "")).set .counter (.exact "1")).set .counter (.exact "2")
  have accepted : ofTerms terms = .ok query := rfl
  have selects : query.selects (numbered 2) = true := by decide
  have meets := ((selects_ofTerms_iff terms).2 query accepted (numbered 2)).1.mp selects
  exact ⟨by decide, by decide, query, accepted, selects,
    meets "apid=" (by decide), meets "counter=2" (by decide)⟩

/-- Of two terms on one field the first is no longer required. -/
theorem selects_of_replaced_unmet :
    ∃ query, ofTerms ["counter=1", "counter=2"] = .ok query ∧
      query.selects (numbered 2) = true ∧
      ¬∀ term ∈ ["counter=1", "counter=2"], (numbered 2).Meets term := by
  let query := (empty.set .counter (.exact "1")).set .counter (.exact "2")
  have accepted : ofTerms ["counter=1", "counter=2"] = .ok query := rfl
  refine ⟨query, accepted, by decide, ?_⟩
  intro all
  rcases all "counter=1" List.mem_cons_self with ⟨alone, ⟨⟩, selects⟩
  revert selects
  decide

end Query

end Testbed.Trace
