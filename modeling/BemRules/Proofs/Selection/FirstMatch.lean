import BemRules.Proofs.Script.Tidy

namespace BemRules

/-- The elements up to the first that stops, and that one. -/
def through {α : Type} (stop : α → Bool) : List α → List α
  | [] => []
  | x :: rest => if stop x then [x] else x :: through stop rest

theorem through_cons {α : Type} (stop : α → Bool) (x : α) (rest : List α) :
    through stop (x :: rest) = x :: if stop x then [] else through stop rest := by
  rw [through]
  split <;> rfl

namespace Predicate

def testName? : Predicate → Option String
  | .custom test => some test.name
  | _ => none

theorem asked_check (c : Context) (ps : List Predicate) :
    (check c ps).asked = (through (fun p => !p.holds c) ps).filterMap testName? := by
  induction ps with
  | nil => rfl
  | cons p rest ih =>
    have hp (qs : List Predicate) :
        (p :: qs).filterMap testName? = p.asked ++ qs.filterMap testName? := by
      cases p <;> rfl
    rw [through_cons, hp]
    by_cases h : p.holds c <;> simp [check, h, ih]

theorem holds_of_marker? (c : Context) {p : Predicate} {m : Object} (hp : p.marker? = some m) :
    p.holds c = false := by
  cases p with
  | options marker => rfl
  | property key value => cases hp
  | custom test => cases hp
  | aspect a => cases hp

theorem marker?_of_isAspect {p : Predicate} (hp : p.isAspect) : p.marker? = none := by
  cases p with
  | aspect a => rfl
  | property key value => rfl
  | custom test => rfl
  | options marker => simp [isAspect, aspect?] at hp

end Predicate

namespace Template

theorem holds_iff (c : Context) (t : Template) : t.holds c ↔ ∀ p ∈ t.predicates, p.holds c := by
  rw [t.holds_eq, List.all_eq_true]

theorem not_holds_iff (c : Context) (t : Template) :
    t.holds c = false ↔ ∃ p ∈ t.predicates, p.holds c = false := by
  rw [t.holds_eq, List.all_eq_false]
  simp only [Bool.not_eq_true]

theorem markers_build (scope : List Predicate) (b : Body) :
    (build scope b).markers = scope.filterMap Predicate.marker? := by
  rw [markers, build]
  induction scope with
  | nil => rfl
  | cons p rest ih =>
    by_cases h : p.isAspect
    · simp [h, p.marker?_of_isAspect h, ih]
    · simp [h, List.filterMap_cons, ih]

theorem markers_of_holds {c : Context} {t : Template} (ht : t.holds c) : t.markers = [] := by
  rw [markers, List.filterMap_eq_nil_iff]
  intro p hp
  have hholds := (t.holds_iff c).mp ht p hp
  cases hm : p.marker? with
  | none => rfl
  | some m =>
    rw [p.holds_of_marker? c hm] at hholds
    contradiction

end Template

namespace Compiled

/-- The predicates tried on a context: those of the templates through the first that holds, and in
each template those through the first that fails. -/
def tried (c : Context) (ts : List Template) : List Predicate :=
  (through (fun t => t.predicates.all (Predicate.holds c)) ts).flatMap fun t =>
    through (fun p => !p.holds c) t.predicates

theorem tried_cons (c : Context) (t : Template) (ts : List Template) :
    tried c (t :: ts) = through (fun p => !p.holds c) t.predicates ++
      if t.holds c then [] else tried c ts := by
  rw [tried, through_cons, List.flatMap_cons, ← t.holds_eq]
  by_cases h : t.holds c <;> simp [h, tried]

theorem asked_search (c : Context) (ts : List Template) :
    (search c ts).asked = (tried c ts).filterMap Predicate.testName? := by
  induction ts with
  | nil => rfl
  | cons t rest ih =>
    have ht : (t.check c).asked =
        (through (fun p => !p.holds c) t.predicates).filterMap Predicate.testName? :=
      Predicate.asked_check c t.predicates
    rw [tried_cons, List.filterMap_append, ← ht, search]
    by_cases h : t.holds c
    · have ha : (t.check c).answer = true := h
      simp [h, ha]
    · have ha : (t.check c).answer = false := by simpa [Template.holds] using h
      simp [h, ha, ih]

variable (r : Registry) (c : Context)

theorem firstMatch_finish : r.finish.firstMatch c = r.templates.reverse.find? fun t => t.holds c :=
  answer_search c _

theorem firstMatch_finish_eq_some_iff (t : Template) :
    r.finish.firstMatch c = some t ↔ ∃ earlier later, r.templates = earlier ++ t :: later ∧
      t.holds c ∧ ∀ u ∈ later, u.holds c = false := by
  rw [firstMatch_finish, List.find?_eq_some_iff_append]
  constructor
  · rintro ⟨ht, later, earlier, hts, hlater⟩
    refine ⟨earlier.reverse, later.reverse, ?_, ht, ?_⟩
    · rw [← List.reverse_reverse r.templates, hts]
      simp
    · simpa using hlater
  · rintro ⟨earlier, later, hts, ht, hlater⟩
    refine ⟨ht, later.reverse, earlier.reverse, ?_, ?_⟩
    · simp [hts]
    · simpa using hlater

theorem firstMatch_finish_eq_none_iff :
    r.finish.firstMatch c = none ↔ ∀ t ∈ r.templates, t.holds c = false := by
  rw [firstMatch_finish, List.find?_eq_none]
  simp

theorem firstMatch_filter (x : Compiled) (keep : Template → Bool)
    (hk : ∀ t, t.holds c → keep t) :
    firstMatch { x with templates := x.templates.filter keep } c = x.firstMatch c := by
  have hp : (fun t : Template => decide (keep t = true ∧ t.holds c = true)) =
      fun t => t.holds c := by
    funext t
    by_cases h : t.holds c
    · simp [h, hk t h]
    · simp [h]
  rw [firstMatch, firstMatch, answer_search, answer_search, List.find?_filter, hp]

end Compiled

/-- The template found is the one registered last among those whose predicates all hold; one with
a marker in its scope is never found, and might as well not be there. The tests called are those
among the predicates of the templates from the last registered through the one found, in each
template through the first that fails. -/
theorem Script.firstMatch_latest (s : Script) (c : Context) :
    let ts := s.run.registry.templates
    let x := s.run.registry.finish
    (s.tidy → ts = s.meaning.templates) ∧
      (∀ t, x.firstMatch c = some t ↔ ∃ earlier later, ts = earlier ++ t :: later ∧
        (∀ p ∈ t.predicates, p.holds c) ∧ ∀ u ∈ later, ∃ p ∈ u.predicates, p.holds c = false) ∧
      (x.firstMatch c = none ↔ ∀ t ∈ ts, ∃ p ∈ t.predicates, p.holds c = false) ∧
      (∀ scope b, (∃ p ∈ scope, p.marker?.isSome) → x.firstMatch c ≠ some (.build scope b)) ∧
      Compiled.firstMatch { x with templates := x.templates.filter fun t => t.markers.isEmpty } c =
        x.firstMatch c ∧
      (Compiled.search c x.templates).asked =
        (Compiled.tried c ts.reverse).filterMap Predicate.testName? := by
  intro ts x
  refine ⟨?_, ?_, ?_, ?_, ?_, Compiled.asked_search c _⟩
  · intro ht
    obtain ⟨hr, -⟩ := Step.runAll_of_tidy s ht {} rfl
    exact congrArg Registry.templates hr
  · intro t
    simp only [← Template.holds_iff, ← Template.not_holds_iff]
    exact Compiled.firstMatch_finish_eq_some_iff _ c t
  · simp only [← Template.not_holds_iff]
    exact Compiled.firstMatch_finish_eq_none_iff _ c
  · rintro scope b ⟨p, hp, hm⟩ hx
    obtain ⟨-, -, -, ht, -⟩ := (Compiled.firstMatch_finish_eq_some_iff _ c _).mp hx
    have hnil := Template.markers_of_holds ht
    rw [Template.markers_build, List.filterMap_eq_nil_iff] at hnil
    rw [hnil p hp] at hm
    contradiction
  · apply Compiled.firstMatch_filter
    intro t ht
    rw [Template.markers_of_holds ht]
    rfl

/-- The rule of the menu is found. Of the rules behind it one fails at its second test and one at
its block, and the rule in front of it is not reached. -/
def Script.guarded : Script :=
  let first : Arg := .test ⟨"first", Context.isFirst⟩
  let last : Arg := .test ⟨"last", Context.isLast⟩
  [.chain (.matching [last]) [.narrow (.mode "js"), .body (.value .null)],
    .chain (.block "menu")
      [.nest [.chain (.matching [first]) [.narrow (.mode "tag"), .body (.value .null)]]],
    .chain (.block "link") [.narrow (.matching [first]), .body (.value .null)],
    .chain (.matching [first, last, first]) [.body (.value .null)]]

theorem Script.firstMatch_guarded :
    let x := Script.guarded.run.registry.finish
    let c : Context := { block := "menu", mode := "tag", position := 1, listLength := 2 }
    (∃ t, x.firstMatch c = some t ∧ t.mode? = some "tag") ∧
      (Compiled.search c x.templates).asked = ["first", "last", "first"] := by
  intro x c
  obtain ⟨-, hfound, -, -, -, hasked⟩ := Script.firstMatch_latest Script.guarded c
  obtain ⟨js, menu, link, failing, hts⟩ : ∃ js menu link failing,
      Script.guarded.run.registry.templates = [js, menu, link, failing] := ⟨_, _, _, _, rfl⟩
  refine ⟨⟨menu, (hfound menu).mpr ⟨[js], [link, failing], hts, ?_⟩, ?_⟩, hasked.trans rfl⟩
  · cases hts
    decide
  · cases hts
    rfl

end BemRules
