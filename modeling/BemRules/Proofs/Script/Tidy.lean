import BemRules.Proofs.Registry.Entries
import BemRules.Proofs.Script.Meaning

namespace BemRules

/-- Whether a call runs the steps of a nest and they fail. -/
def Call.nestFails : Call → ChainState → Bool
  | .nest steps, c => !c.closed && (Step.meaningOfAll [] steps).error.isSome
  | .attempt call, c => Call.nestFails call c
  | .narrow _, _ => false
  | .body _, _ => false
  | .bodies _, _ => false

mutual

def Step.tidy : Step → Bool
  | .onInit _ => true
  | .look => true
  | .fail _ => true
  | .chain first calls =>
    match first.conditions with
    | .error _ => true
    | .ok conditions => Call.tidyAll calls ⟨conditions, false⟩
  | .attempt s => Step.tidy s

/-- Steps behind one that fails are not run, and need not be tidy. -/
def Step.tidyAll : List Step → Bool
  | [] => true
  | s :: rest => Step.tidy s && ((Step.meaning [] s).error.isSome || Step.tidyAll rest)

def Call.tidy : Call → ChainState → Bool
  | .nest steps, c => c.closed || Step.tidyAll steps
  | .attempt call, c => Call.tidy call c
  | .narrow _, _ => true
  | .body _, _ => true
  | .bodies _, _ => true

def Call.tidyAll : List Call → ChainState → Bool
  | [], _ => true
  | call :: rest, c =>
    let (m, next) := Call.meaning [] call c
    Call.tidy call c &&
      (m.error.isSome || ((!Call.nestFails call c || rest.isEmpty) && Call.tidyAll rest next))

end

def Script.tidy (s : Script) : Bool := Step.tidyAll s

theorem Step.error_meaning (above : List Predicate) (s : Step) :
    (s.meaning above).error = (s.meaning []).error :=
  (Step.growth_agrees above s).error.symm.trans (Step.growth_agrees [] s).error

namespace Held

def templates (above : List Predicate) (h : Held) : List Template :=
  Entry.templatesOf (above ++ h.scope.conditions) h.scope.children

theorem templates_of_open (above : List Predicate) {h : Held} (hf : h.Fresh)
    (ho : h.closed = false) : h.templates above = [] := by
  rw [templates, hf ho, Entry.templatesOf]

theorem templates_close (above : List Predicate) {h : Held} (hf : h.Fresh)
    (ho : h.closed = false) (entries : List Entry) :
    (h.close entries).templates above =
      Entry.templatesOf (above ++ h.scope.conditions) entries := by
  simp [templates, close, hf ho]

theorem templates_adopt (above : List Predicate) {h : Held} (hf : h.Fresh)
    (ho : h.closed = false) (ha : h.above = []) (nested : List Scope) :
    (h.adopt nested).templates above =
      Entry.templatesOf (above ++ h.scope.conditions) (nested.map Scope.toEntry) := by
  have hfresh : ({ h with above := [] } : Held).Fresh := hf
  rw [adopt, templates_close above hfresh ho, ha, List.nil_append]

end Held

/-- The scopes of a tidy step, if any, are the one scope of its chain. -/
structure Growth.Means (above : List Predicate) (g : Growth) (m : Meaning) : Prop where
  single : g.scopes.length ≤ 1
  templates : Entry.templatesOf above (g.scopes.map Scope.toEntry) = m.templates

structure CallGrowth.Means (above : List Predicate) (h : Held) (g : CallGrowth) (m : Meaning) :
    Prop where
  templates : g.held.templates above = h.templates above ++ m.templates
  alone : g.held.closed = true → g.held.above = []

theorem CallGrowth.Means.release {above : List Predicate} {conditions : List Predicate}
    {g : CallGrowth} {m : Meaning} (hf : g.held.Fresh) (hm : g.Means above (.opened conditions) m) :
    g.release.Means above m := by
  have ht := hm.templates
  have ho : (Held.opened conditions).templates above = [] :=
    Held.templates_of_open above (Held.fresh_opened conditions) rfl
  rw [ho, List.nil_append] at ht
  cases hc : g.held.closed with
  | true =>
    have ha := hm.alone hc
    refine ⟨by simp [CallGrowth.release, Held.remains, Held.scopes, hc, ha], ?_⟩
    rw [← ht]
    simp [CallGrowth.release, Held.remains, Held.scopes, hc, ha, Entry.templatesOf, Scope.toEntry,
      Entry.templates, Held.templates]
  | false =>
    refine ⟨by simp [CallGrowth.release, Held.remains, hc], ?_⟩
    rw [← ht, Held.templates_of_open above hf hc]
    simp [CallGrowth.release, Held.remains, hc, Entry.templatesOf]

theorem CallGrowth.Means.append {above : List Predicate} {h : Held} {g k : CallGrowth}
    {m n : Meaning} (hg : g.Means above h m) (hk : k.Means above g.held n) :
    (g.append k).Means above h (m.append n) := by
  have ht := hk.templates
  rw [hg.templates, List.append_assoc] at ht
  exact ⟨ht, hk.alone⟩

theorem CallGrowth.above_close (h : Held) (entries : List Entry) :
    (CallGrowth.close h entries).held.above = h.above := by
  cases hc : h.closed <;> simp [close, Held.close, hc]

theorem CallGrowth.close_means {above : List Predicate} {h : Held} (hf : h.Fresh)
    (ha : h.above = []) {entries : List Entry} {ts : List Template}
    (hts : Entry.templatesOf (above ++ h.scope.conditions) entries = ts) :
    (CallGrowth.close h entries).Means above h
      (if h.closed then (Meaning.failed .closedScope, h.state)
      else ({ templates := ts }, { h.state with closed := true })).1 := by
  refine ⟨?_, fun _ => (above_close h entries).trans ha⟩
  cases hc : h.closed with
  | true => simp [close, hc, Meaning.failed]
  | false =>
    simp [close, hc, Held.templates_close above hf hc, Held.templates_of_open above hf hc, hts]

mutual

theorem Step.tidy_means (above : List Predicate) (s : Step) (ht : s.tidy) :
    s.growth.Means above (s.meaning above) := by
  cases s with
  | onInit i => exact ⟨Nat.zero_le _, rfl⟩
  | look => exact ⟨Nat.zero_le _, rfl⟩
  | fail e => exact ⟨Nat.zero_le _, rfl⟩
  | attempt s =>
    have h := Step.tidy_means above s ht
    exact ⟨h.single, h.templates⟩
  | chain first calls =>
    rw [Step.tidy] at ht
    rw [Step.growth, Step.meaning]
    cases hf : first.conditions with
    | error e => exact ⟨Nat.zero_le _, rfl⟩
    | ok conditions =>
      simp only [hf] at ht
      have hf := Held.fresh_opened conditions
      exact (Call.tidyAll_means above calls (.opened conditions) hf rfl ht).release
        (Call.fresh_growthOfAll calls hf)

theorem Step.tidyAll_means (above : List Predicate) (steps : List Step) (ht : Step.tidyAll steps) :
    Entry.templatesOf above ((Step.growthOfAll steps).scopes.map Scope.toEntry) =
      (Step.meaningOfAll above steps).templates := by
  cases steps with
  | nil => rfl
  | cons s rest =>
    rw [Step.tidyAll] at ht
    simp only [Bool.and_eq_true, Bool.or_eq_true] at ht
    have h := Step.tidy_means above s ht.1
    rw [Step.growthOfAll, Step.meaningOfAll]
    simp only [(s.growth_agrees above).error]
    cases he : (s.meaning above).error with
    | some e => exact h.templates
    | none =>
      have hrest : Step.tidyAll rest := by
        have hn := (s.error_meaning above).symm.trans he
        simpa [hn] using ht.2
      simp only [Growth.append, List.map_append, Entry.templatesOf_append, h.templates,
        Step.tidyAll_means above rest hrest, Meaning.append]

theorem Call.tidy_means (above : List Predicate) (call : Call) (h : Held) (hf : h.Fresh)
    (ha : h.above = []) (ht : call.tidy h.state) :
    (call.growth h).Means above h (Call.meaning above call h.state).1 ∧
      (call.nestFails h.state = false → (call.growth h).held.above = []) := by
  cases call with
  | narrow call =>
    rw [Call.growth, Call.meaning]
    cases call.conditions with
    | error e => exact ⟨⟨by simp [Meaning.failed], fun _ => ha⟩, fun _ => ha⟩
    | ok conditions =>
      cases hc : h.closed with
      | true =>
        simp only [Held.narrow, Held.state, hc, if_true]
        exact ⟨⟨by simp, fun _ => ha⟩, fun _ => ha⟩
      | false =>
        have hno : (h.narrow conditions).closed = false := by simp [Held.narrow, hc]
        have hna : (h.narrow conditions).above = [] := by simp [Held.narrow, hc, ha]
        refine ⟨⟨?_, fun _ => hna⟩, fun _ => hna⟩
        rw [Held.templates_of_open above (hf.narrow conditions) hno,
          Held.templates_of_open above hf hc]
        simp [Held.state, hc]
  | body b =>
    exact ⟨CallGrowth.close_means hf ha (by simp [Entry.templatesOf, Entry.templates, Held.state]),
      fun _ => (CallGrowth.above_close h _).trans ha⟩
  | bodies bs =>
    exact ⟨CallGrowth.close_means hf ha (Entry.templatesOf_bodies _ bs),
      fun _ => (CallGrowth.above_close h _).trans ha⟩
  | attempt call =>
    have hcall := Call.tidy_means above call h hf ha ht
    exact ⟨⟨hcall.1.templates, hcall.1.alone⟩, hcall.2⟩
  | nest steps =>
    have hs := Step.growthOfAll_agrees (above ++ h.scope.conditions) steps
    have hs' := Step.growthOfAll_agrees [] steps
    rw [Call.growth, Call.meaning]
    cases hc : h.closed with
    | true =>
      simp only [Held.state, hc, if_true]
      exact ⟨⟨by simp [Meaning.failed], fun _ => ha⟩, fun _ => ha⟩
    | false =>
      have hst : Step.tidyAll steps := by simpa [Call.tidy, Held.state, hc] using ht
      have hm := Step.tidyAll_means (above ++ h.scope.conditions) steps hst
      simp only [Held.state, hc, Bool.false_eq_true, if_false, ← hs.error, Call.nestFails,
        ← hs'.error]
      cases (Step.growthOfAll steps).error with
      | some e =>
        -- what the nest leaves above the chain does not belong to the scope that is held
        refine ⟨⟨?_, ?_⟩, ?_⟩
        · simp [Held.templates, Held.cover]
        · simp [Held.cover, hc]
        · simp
      | none =>
        refine ⟨⟨?_, fun _ => rfl⟩, fun _ => rfl⟩
        rw [Held.templates_adopt above hf hc ha, Held.templates_of_open above hf hc, hm]
        rfl

theorem Call.tidyAll_means (above : List Predicate) (calls : List Call) (h : Held) (hf : h.Fresh)
    (ha : h.above = []) (ht : Call.tidyAll calls h.state) :
    (Call.growthOfAll calls h).Means above h (Call.meaningOfAll above calls h.state) := by
  cases calls with
  | nil => exact ⟨by simp [Call.growthOfAll, Call.meaningOfAll], fun _ => ha⟩
  | cons call rest =>
    rw [Call.tidyAll] at ht
    simp only [Bool.and_eq_true, Bool.or_eq_true] at ht
    obtain ⟨htidy, hnext⟩ := ht
    obtain ⟨hm, hclear⟩ := Call.tidy_means above call h hf ha htidy
    have hagrees := Call.growth_agrees above call h
    have hagrees' := Call.growth_agrees [] call h
    have he : (call.growth h).error = (Call.meaning above call h.state).1.error :=
      hagrees.growth.error
    rw [Call.growthOfAll, Call.meaningOfAll]
    simp only [he]
    cases hc : (Call.meaning above call h.state).1.error with
    | some e => exact hm
    | none =>
      have hnone : (Call.meaning [] call h.state).1.error = none :=
        hagrees'.growth.error.symm.trans (he.trans hc)
      simp only [hnone, Option.isSome_none, Bool.false_eq_true, false_or] at hnext
      obtain ⟨hlast, hrest⟩ := hnext
      refine CallGrowth.Means.append hm ?_
      rw [← hagrees.state]
      cases rest with
      | nil => exact ⟨by simp [Call.growthOfAll, Call.meaningOfAll], hm.alone⟩
      | cons next rest =>
        -- calls follow, so no nest of this one has failed and nothing stands above the chain
        have hn : call.nestFails h.state = false := by simpa using hlast
        rw [← hagrees'.state] at hrest
        exact Call.tidyAll_means above (next :: rest) _ (call.fresh_growth hf) (hclear hn) hrest

end

theorem Registry.grow_of_means {r : Registry} (hr : r.depth = 0) {g : Growth} {m : Meaning}
    (ha : g.Agrees m) (hm : g.Means [] m) :
    r.grow g =
      { r with
        templates := r.templates ++ m.templates
        initializers := r.initializers ++ m.initializers } := by
  obtain ⟨scopes, is, e⟩ := g
  rw [← ha.initializers, ← hm.templates]
  match scopes, hm.single with
  | [], _ =>
    rw [grow_of_nil r _ rfl]
    simp [addInitializers, Entry.templatesOf]
  | [top], _ =>
    have hs : r.stack = [] := List.length_eq_zero_iff.mp hr
    have hg := r.grow_append_singleton hr [] top is e
    simpa [Entry.templatesOf, hs] using hg

theorem Step.runAll_of_tidy (steps : List Step) (ht : Step.tidyAll steps) (r : Registry)
    (hr : r.depth = 0) :
    (Step.runAll steps r).registry =
        { r with
          templates := r.templates ++ (Step.meaningOfAll [] steps).templates
          initializers := r.initializers ++ (Step.meaningOfAll [] steps).initializers } ∧
      (Step.runAll steps r).error = (Step.meaningOfAll [] steps).error := by
  induction steps generalizing r with
  | nil => exact ⟨by simp [Step.runAll, Step.meaningOfAll], rfl⟩
  | cons s rest ih =>
    rw [Step.tidyAll] at ht
    simp only [Bool.and_eq_true, Bool.or_eq_true] at ht
    have hrun := s.run_grows r
    have ha := s.growth_agrees []
    have hg := Registry.grow_of_means hr ha (s.tidy_means [] ht.1)
    have he : (Step.run s r).error = (s.meaning []).error := hrun.error.trans ha.error
    rw [Step.runAll, Step.meaningOfAll]
    simp only [he]
    cases hm : (s.meaning []).error with
    | some e => exact ⟨hrun.registry.trans hg, he⟩
    | none =>
      have hrest : Step.tidyAll rest := by simpa [hm] using ht.2
      have hnext := ih hrest (Step.run s r).registry (by rw [hrun.registry, hg]; exact hr)
      refine ⟨hnext.1.trans ?_, hnext.2⟩
      simp only [hrun.registry, hg, Meaning.append, List.append_assoc]

/-- Running a tidy script registers what it means. Nothing is left on the stack, whatever chains
were abandoned, closed late or nested in one another on the way. -/
theorem Script.run_eq_meaning (s : Script) (ht : s.tidy) :
    s.run.registry =
        { stack := [], templates := s.meaning.templates, initializers := s.meaning.initializers } ∧
      s.run.error = s.meaning.error ∧
      s.run.registry.finish = ⟨s.meaning.templates.reverse, s.meaning.initializers⟩ := by
  obtain ⟨hr, he⟩ := Step.runAll_of_tidy s ht {} rfl
  have hs : s.run.registry =
      { stack := []
        templates := s.meaning.templates
        initializers := s.meaning.initializers } := by
    rw [Script.run, hr]
    simp [Script.meaning]
  exact ⟨hs, he, by rw [hs, Registry.finish]⟩

/-- One scope is given up after a failed nest, and one is closed twice. -/
def Script.menu : Script :=
  [.chain (.block "menu")
    [.narrow (.mod "theme" (.exact "dark")),
      .nest
        [.chain (.elem "item") [.narrow (.mode "tag"), .body (.value (.str "li"))],
          .attempt (.chain (.elem "icon")
            [.attempt (.nest
              [.chain (.mode "js") [.body (.value .null)], .fail .missingPredicate])]),
          .attempt (.chain (.mode "content") [.body (.value .null), .body (.value .null)])],
      .narrow (.elem "late")],
    .chain (.matching []) []]

theorem Script.run_menu :
    Script.menu.tidy ∧ Script.menu.run.registry.depth = 0 ∧
      Script.menu.run.registry.templates =
        [⟨[.block "menu", .mod "theme" (.exact "dark"), .elem "item", .mode "tag"],
            .literal (.str "li")⟩,
          ⟨[.block "menu", .mod "theme" (.exact "dark"), .mode "content"], .literal .null⟩] ∧
      Script.menu.run.error = some .missingPredicate := by
  obtain ⟨hr, he, -⟩ := Script.run_eq_meaning Script.menu rfl
  exact ⟨rfl, by rw [hr]; rfl, by rw [hr]; rfl, by rw [he]; rfl⟩

end BemRules
