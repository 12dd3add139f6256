import Mathlib.Data.List.Nodup
import Testbed.Proofs.Trace.Query

/-!
# Queries of requirements

This file supplies that it makes no difference how a query is written.  A requirement names a
field and the text or pattern it asks for.  A list of them can be required one after the other,
be given as configuration writes matchers, or be written as terms; the query is the same, and
each of its fields has the matcher of the last requirement on it.  Written as terms again, the
query is the query of its terms.

The terms have no way to quote a sign.  They need none: the name of a field has no sign in it,
so the first one is where the name ends.
-/

namespace Testbed

theorem Regex.source_of_compile? {source : String} {regex : Regex}
    (compiled : compile? source = some regex) : regex.source = source := by
  rw [compile?, Option.bind_eq_some_iff] at compiled
  rcases compiled with ⟨pattern, -, made⟩
  split at made
  next =>
    cases made
    rfl
  next => contradiction

namespace Trace

/-- What a query requires of a field. -/
structure Requirement where
  field : Field
  spec : MatcherSpec
  deriving DecidableEq, Repr

/-- The matcher that configuration means. -/
def MatcherSpec.matcher : MatcherSpec → Result Matcher
  | literal text => .ok (.exact text)
  | regex source => Matcher.ofPattern source

/-- How configuration writes a matcher. -/
def Matcher.spec : Matcher → MatcherSpec
  | exact text => .literal text
  | pattern regex => .regex regex.source

namespace Requirement

/-- The requirement as a written term. -/
def term (requirement : Requirement) : String :=
  match requirement.spec with
  | .literal text => requirement.field.name ++ "=" ++ text
  | .regex source => requirement.field.name ++ "~" ++ source

/-- The requirement as configuration writes it. -/
def entry (requirement : Requirement) : String × MatcherSpec :=
  (requirement.field.name, requirement.spec)

/-- Add the requirement to a query. -/
def addTo (query : Query) (requirement : Requirement) : Result Query :=
  match requirement.spec with
  | .literal text => query.exact requirement.field.name text
  | .regex source => query.pattern requirement.field.name source

/-- A pattern that is required can be compiled. -/
def Compiles (requirement : Requirement) : Prop :=
  ∀ source, requirement.spec = .regex source → ∃ regex, Regex.compile? source = some regex

/-- What is required, if it can be compiled. -/
def matcher? (requirement : Requirement) : Option Matcher :=
  requirement.spec.matcher.toOption

theorem matcher?_eq_some_iff {requirement : Requirement} {matcher : Matcher} :
    requirement.matcher? = some matcher ↔ requirement.spec.matcher = .ok matcher := by
  rw [matcher?]
  cases requirement.spec.matcher <;> simp [Except.toOption]

theorem compiles_iff {requirement : Requirement} :
    requirement.Compiles ↔ ∃ matcher, requirement.spec.matcher = .ok matcher := by
  rcases requirement with ⟨field, spec⟩
  cases spec with
  | literal text => simp [Compiles, MatcherSpec.matcher]
  | regex source =>
      cases compiled : Regex.compile? source <;>
        simp [Compiles, MatcherSpec.matcher, Matcher.ofPattern, compiled]

end Requirement

namespace Query

/-- The query of requirements added one after the other. -/
def ofRequirements (requirements : List Requirement) : Result Query :=
  requirements.foldlM Requirement.addTo empty

/-- What a query requires, in the order of the fields. -/
def requirements (query : Query) : List Requirement :=
  Field.all.filterMap fun field =>
    (query.matcher? field).map fun matcher => ⟨field, matcher.spec⟩

end Query

/-! ## Fields and signs -/

namespace Field

theorem ofName_name (field : Field) : ofName field.name = .ok field := by
  cases field <;> rfl

theorem nodup_all : all.Nodup := by
  decide

/-- No sign stands in the name of a field. -/
theorem noSign_name (field : Field) : ∀ char ∈ field.name.toList, ¬(char = '=' ∨ char = '~') := by
  cases field <;> simp [name]

end Field

namespace Query

/-- A term is split at the first sign in it. -/
theorem splitTerm?_append {name : List Char} (noSign : ∀ char ∈ name, ¬(char = '=' ∨ char = '~'))
    {sign : Char} (isSign : sign = '=' ∨ sign = '~') (value : List Char) :
    splitTerm? (name ++ sign :: value) = some (name, sign, value) := by
  induction name with
  | nil => rw [List.nil_append, splitTerm?, if_pos isSign]
  | cons char name ih =>
      rw [List.forall_mem_cons] at noSign
      rw [List.cons_append, splitTerm?, if_neg noSign.1, ih noSign.2]
      rfl

end Query

/-! ## Adding requirements -/

namespace Requirement

variable (query : Query) (requirement : Requirement)

/-- Adding a requirement gives its field the matcher that it means. -/
theorem addTo_eq :
    addTo query requirement =
      requirement.spec.matcher.map (query.set requirement.field) := by
  rcases requirement with ⟨field, spec⟩
  cases spec with
  | literal text =>
      change query.exact field.name text = _
      rw [Query.exact, Field.ofName_name]
      rfl
  | regex source =>
      change query.pattern field.name source = _
      rw [Query.pattern, Field.ofName_name]
      change (Matcher.ofPattern source >>= fun matcher => pure (query.set field matcher)) = _
      rw [MatcherSpec.matcher]
      cases Matcher.ofPattern source <;> rfl

theorem withSpec_entry :
    query.withSpec requirement.entry.1 requirement.entry.2 = addTo query requirement := by
  rcases requirement with ⟨field, _ | _⟩ <;> rfl

theorem toList_term :
    requirement.term.toList =
      match requirement.spec with
      | .literal text => requirement.field.name.toList ++ '=' :: text.toList
      | .regex source => requirement.field.name.toList ++ '~' :: source.toList := by
  rcases requirement with ⟨field, _ | _⟩ <;> simp [term, String.toList_append]

theorem withTerm_term : query.withTerm requirement.term = addTo query requirement := by
  rw [Query.withTerm, toList_term]
  rcases requirement with ⟨field, spec⟩
  cases spec with
  | literal text =>
      dsimp only
      rw [Query.splitTerm?_append field.noSign_name (.inl rfl)]
      simp only [if_true, String.ofList_toList]
      rfl
  | regex source =>
      dsimp only
      rw [Query.splitTerm?_append field.noSign_name (.inr rfl)]
      simp only [String.ofList_toList]
      rfl

end Requirement

namespace Query

/-! ## Ways of writing a query -/

theorem ofSpecs_entries (requirements : List Requirement) :
    ofSpecs (requirements.map Requirement.entry) = ofRequirements requirements := by
  have steps : (fun query (requirement : Requirement) =>
      query.withSpec requirement.entry.1 requirement.entry.2) = Requirement.addTo := by
    funext query requirement
    exact requirement.withSpec_entry query
  rw [ofSpecs, ofRequirements, List.foldlM_map, ← steps]

theorem ofTerms_terms (requirements : List Requirement) :
    ofTerms (requirements.map Requirement.term) = ofRequirements requirements := by
  have steps : (fun query (requirement : Requirement) => query.withTerm requirement.term) =
      Requirement.addTo := by
    funext query requirement
    exact requirement.withTerm_term query
  rw [ofTerms, ofRequirements, List.foldlM_map, ← steps]

/-! ## What a query of requirements holds -/

attribute [ext] Query

/-- The last requirement on a field. -/
def lastOn (requirements : List Requirement) (field : Field) : Option Requirement :=
  (requirements.filter (·.field = field)).getLast?

theorem lastOn_cons_self (requirement : Requirement) (requirements : List Requirement) :
    lastOn (requirement :: requirements) requirement.field =
      (lastOn requirements requirement.field).or (some requirement) := by
  rw [lastOn, List.filter_cons_of_pos (by simp), List.getLast?_cons, lastOn]
  cases (requirements.filter (·.field = requirement.field)).getLast? <;> rfl

theorem lastOn_cons_of_ne {requirement : Requirement} {field : Field}
    (other : requirement.field ≠ field) (requirements : List Requirement) :
    lastOn (requirement :: requirements) field = lastOn requirements field := by
  rw [lastOn, List.filter_cons_of_neg (by simp [other]), lastOn]

variable {requirements : List Requirement} {before after : Query}

/-- Requirements can be added exactly if each of them can be compiled.  A field then has the
matcher of the last requirement on it, or else the one that it had before. -/
theorem foldlM_addTo_eq_ok_iff :
    requirements.foldlM Requirement.addTo before = .ok after ↔
      (∀ requirement ∈ requirements, requirement.Compiles) ∧
        ∀ field, after.matcher? field =
          match lastOn requirements field with
          | some last => last.matcher?
          | none => before.matcher? field := by
  induction requirements generalizing before with
  | nil =>
      rw [List.foldlM_nil]
      simp [pure, Except.pure, lastOn, Query.ext_iff, funext_iff, eq_comm]
  | cons requirement requirements ih =>
      rw [List.foldlM_cons, Requirement.addTo_eq, List.forall_mem_cons,
        Requirement.compiles_iff]
      cases means : requirement.spec.matcher with
      | error error => simp [Except.map, bind, Except.bind]
      | ok matcher =>
          have added : requirement.matcher? = some matcher :=
            Requirement.matcher?_eq_some_iff.mpr means
          have same : ∀ field,
              (match lastOn (requirement :: requirements) field with
                | some last => last.matcher?
                | none => before.matcher? field) =
              match lastOn requirements field with
              | some last => last.matcher?
              | none => (before.set requirement.field matcher).matcher? field := by
            intro field
            rw [matcher?_set]
            by_cases here : field = requirement.field
            · rw [here, lastOn_cons_self, if_pos rfl, ← added]
              cases lastOn requirements requirement.field <;> rfl
            · rw [lastOn_cons_of_ne (Ne.symm here), if_neg here]
          simp only [same, Except.ok.injEq, exists_eq', true_and]
          exact ih

theorem ofRequirements_eq_ok_iff {query : Query} :
    ofRequirements requirements = .ok query ↔
      (∀ requirement ∈ requirements, requirement.Compiles) ∧
        ∀ field, query.matcher? field = (lastOn requirements field).bind Requirement.matcher? := by
  rw [ofRequirements, foldlM_addTo_eq_ok_iff]
  have same : ∀ field, (match lastOn requirements field with
      | some last => last.matcher?
      | none => empty.matcher? field) = (lastOn requirements field).bind Requirement.matcher? := by
    intro field
    cases lastOn requirements field <;> rfl
  simp only [same]

/-! ## Requirements on distinct fields -/

/-- Of requirements on distinct fields every one is the last on its field. -/
theorem lastOn_eq_some_iff_of_nodup (distinct : (requirements.map Requirement.field).Nodup)
    {field : Field} {requirement : Requirement} :
    lastOn requirements field = some requirement ↔
      requirement ∈ requirements ∧ requirement.field = field := by
  induction requirements generalizing requirement with
  | nil => simp [lastOn]
  | cons first others ih =>
      rw [List.map_cons, List.nodup_cons, List.mem_map] at distinct
      rcases distinct with ⟨unnamed, distinct⟩
      by_cases here : first.field = field
      · have noOther : lastOn others field = none := by
          apply Option.eq_none_iff_forall_ne_some.mpr
          intro other last
          rcases (ih distinct).mp last with ⟨mem, onField⟩
          exact unnamed ⟨other, mem, onField.trans here.symm⟩
        rw [← here] at noOther ⊢
        rw [lastOn_cons_self, noOther, Option.none_or, Option.some.injEq, List.mem_cons]
        constructor
        · rintro rfl
          exact ⟨.inl rfl, rfl⟩
        · rintro ⟨rfl | mem, onField⟩
          · rfl
          · exact absurd ⟨requirement, mem, onField⟩ unnamed
      · rw [lastOn_cons_of_ne here, ih distinct, List.mem_cons]
        constructor
        · rintro ⟨mem, onField⟩
          exact ⟨.inr mem, onField⟩
        · rintro ⟨rfl | mem, onField⟩
          · exact absurd onField here
          · exact ⟨mem, onField⟩

theorem lastOn_eq_of_perm {others : List Requirement}
    (distinct : (requirements.map Requirement.field).Nodup) (order : requirements.Perm others)
    (field : Field) : lastOn others field = lastOn requirements field := by
  have othersDistinct : (others.map Requirement.field).Nodup :=
    (order.map Requirement.field).nodup_iff.mp distinct
  apply Option.ext
  intro requirement
  rw [lastOn_eq_some_iff_of_nodup othersDistinct, lastOn_eq_some_iff_of_nodup distinct,
    order.mem_iff]

/-! ## Terms of a query -/

/-- A matcher that configuration means is written as configuration writes it. -/
theorem spec_of_matcher {spec : MatcherSpec} {matcher : Matcher}
    (means : spec.matcher = .ok matcher) : matcher.spec = spec := by
  cases spec with
  | literal text =>
      cases means
      rfl
  | regex source =>
      rw [MatcherSpec.matcher, Matcher.ofPattern] at means
      split at means
      next regex compiled =>
        cases means
        rw [Matcher.spec, Regex.source_of_compile? compiled]
      next => contradiction

theorem terms_eq (query : Query) : query.terms = query.requirements.map Requirement.term := by
  rw [terms, requirements, List.map_filterMap]
  congr
  funext field
  cases query.matcher? field with
  | none => rfl
  | some matcher =>
      cases matcher <;>
        simp [Matcher.render, Matcher.spec, Requirement.term, String.append_assoc]

theorem mem_requirements {query : Query} {requirement : Requirement} :
    requirement ∈ query.requirements ↔
      ∃ matcher, query.matcher? requirement.field = some matcher ∧
        matcher.spec = requirement.spec := by
  rcases requirement with ⟨field, spec⟩
  simp [requirements, Field.mem_all]

theorem nodup_requirements (query : Query) :
    (query.requirements.map Requirement.field).Nodup := by
  have fields : query.requirements.map Requirement.field =
      Field.all.filter fun field => (query.matcher? field).isSome := by
    rw [requirements, List.map_filterMap, ← List.filterMap_eq_filter]
    congr
    funext field
    cases found : query.matcher? field <;> simp [Option.guard, found]
  rw [fields]
  exact Field.nodup_all.filter _

/-- A matcher of a query of requirements is what its written form means. -/
theorem matcher_spec_of_built {query : Query} (built : ofRequirements requirements = .ok query)
    {field : Field} {matcher : Matcher} (found : query.matcher? field = some matcher) :
    matcher.spec.matcher = .ok matcher := by
  rw [(ofRequirements_eq_ok_iff.mp built).2 field, Option.bind_eq_some_iff] at found
  rcases found with ⟨requirement, -, means⟩
  rw [Requirement.matcher?_eq_some_iff] at means
  rw [spec_of_matcher means, means]

/-- The terms of a query of requirements are read as that query. -/
theorem ofTerms_terms_of_built {query : Query} (built : ofRequirements requirements = .ok query) :
    ofTerms query.terms = .ok query := by
  rw [terms_eq, ofTerms_terms, ofRequirements_eq_ok_iff]
  constructor
  · intro requirement mem
    rcases mem_requirements.mp mem with ⟨matcher, found, written⟩
    rw [Requirement.compiles_iff, ← written]
    exact ⟨matcher, matcher_spec_of_built built found⟩
  · intro field
    cases found : query.matcher? field with
    | none =>
        cases last : lastOn query.requirements field with
        | none => rfl
        | some requirement =>
            rcases (lastOn_eq_some_iff_of_nodup query.nodup_requirements).mp last with ⟨mem, rfl⟩
            rcases mem_requirements.mp mem with ⟨matcher, other, -⟩
            rw [found] at other
            contradiction
    | some matcher =>
        have last : lastOn query.requirements field = some ⟨field, matcher.spec⟩ :=
          (lastOn_eq_some_iff_of_nodup query.nodup_requirements).mpr
            ⟨mem_requirements.mpr ⟨matcher, found, rfl⟩, rfl⟩
        rw [last, Option.bind_some, eq_comm, Requirement.matcher?_eq_some_iff]
        exact matcher_spec_of_built built found

/-- A query is that of requirements in each of the ways of writing them. -/
structure Means (query : Query) (requirements : List Requirement) : Prop where
  added : ofRequirements requirements = .ok query
  configured : ofSpecs (requirements.map Requirement.entry) = .ok query
  parsed : ofTerms (requirements.map Requirement.term) = .ok query

theorem means_iff {query : Query} :
    query.Means requirements ↔ ofRequirements requirements = .ok query := by
  constructor
  · exact Means.added
  · intro built
    constructor
    · exact built
    · rw [ofSpecs_entries, built]
    · rw [ofTerms_terms, built]

/-- Requirements that can be compiled have one query, in whichever way they are written.  It has
the last requirement on each field, it is the query of its own terms, and the order of
requirements on distinct fields makes no difference. -/
theorem written_alike (requirements : List Requirement)
    (compile : ∀ requirement ∈ requirements, requirement.Compiles) :
    ∃ query : Query, query.Means requirements ∧
      (∀ field, query.matcher? field = (lastOn requirements field).bind Requirement.matcher?) ∧
      ofTerms query.terms = .ok query ∧
      ((requirements.map Requirement.field).Nodup →
        ∀ others, requirements.Perm others → query.Means others) := by
  let query : Query := ⟨fun field => (lastOn requirements field).bind Requirement.matcher?⟩
  have built : ofRequirements requirements = .ok query :=
    ofRequirements_eq_ok_iff.mpr ⟨compile, fun _ => rfl⟩
  refine ⟨query, means_iff.mpr built, fun _ => rfl, ofTerms_terms_of_built built, ?_⟩
  intro distinct others order
  rw [means_iff, ofRequirements_eq_ok_iff]
  constructor
  · intro requirement mem
    exact compile requirement (order.mem_iff.mpr mem)
  · intro field
    rw [lastOn_eq_of_perm distinct order]

theorem written_alike_signs :
    ∃ query : Query,
      query.Means [⟨.apid, .literal "A=1~2"⟩, ⟨.payload, .regex "x=~?[0-9]+"⟩] ∧
      query.Means [⟨.payload, .regex "x=~?[0-9]+"⟩, ⟨.apid, .literal "A=1~2"⟩] ∧
      ofTerms query.terms = .ok query := by
  have compile : ∀ requirement ∈ [(⟨.apid, .literal "A=1~2"⟩ : Requirement),
      ⟨.payload, .regex "x=~?[0-9]+"⟩], requirement.Compiles := by
    rw [List.forall_mem_cons, List.forall_mem_singleton, Requirement.compiles_iff]
    constructor
    · exact ⟨.exact "A=1~2", rfl⟩
    · rintro _ ⟨⟩
      exact Option.isSome_iff_exists.mp (by decide +kernel)
  rcases written_alike _ compile with ⟨query, means, -, reread, alike⟩
  exact ⟨query, means, alike (by decide) _ (.swap _ _ _), reread⟩

end Query

end Trace

end Testbed
