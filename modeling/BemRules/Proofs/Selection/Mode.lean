import BemRules.Proofs.Selection.Exchange

namespace BemRules

namespace Predicate

theorem modeName?_eq_some_iff {p : Predicate} {m : String} :
    p.modeName? = some m ↔ p = .mode m := by
  constructor
  · intro h
    unfold modeName? at h
    split at h
    · cases h
      rfl
    · cases h
  · rintro rfl
    rfl

theorem holds_mode_iff (c : Context) (m : String) : (mode m).holds c ↔ m = c.mode := by
  have hc : c.property (.field "_mode") = some (.str c.mode) := rfl
  rw [mode, holds, MatchValue.holds, hc, Option.any_some, beq_iff_eq]
  exact eq_comm

def TwoModes (ps : List Predicate) : Prop := ∃ v w, v ≠ w ∧ mode v ∈ ps ∧ mode w ∈ ps

end Predicate

namespace Template

variable {c : Context} {t : Template}

theorem mode_of_holds (ht : t.holds c) {m : String} (hm : .mode m ∈ t.predicates) : m = c.mode :=
  (Predicate.holds_mode_iff c m).mp ((t.holds_iff c).mp ht _ hm)

theorem mode?_of_holds (ht : t.holds c) : t.mode? = none ∨ t.mode? = some c.mode := by
  cases hm : t.mode? with
  | none => exact .inl rfl
  | some m =>
    obtain ⟨p, hp, hname⟩ := List.exists_of_findSome?_eq_some hm
    obtain rfl := Predicate.modeName?_eq_some_iff.mp hname
    rw [mode_of_holds ht (List.mem_reverse.mp hp)]
    exact .inr rfl

theorem not_holds_of_twoModes (ht : Predicate.TwoModes t.predicates) (c : Context) :
    t.holds c = false := by
  obtain ⟨v, w, hne, hv, hw⟩ := ht
  cases hc : t.holds c with
  | false => rfl
  | true => exact absurd ((mode_of_holds hc hv).trans (mode_of_holds hc hw).symm) hne

theorem mode_mem_build (ps : List Predicate) (b : Body) (m : String) :
    .mode m ∈ (build ps b).predicates ↔ .mode m ∈ ps :=
  List.mem_filter.trans (and_iff_left rfl)

theorem twoModes_build (ps : List Predicate) (b : Body) :
    Predicate.TwoModes (build ps b).predicates ↔ Predicate.TwoModes ps := by
  simp only [Predicate.TwoModes, mode_mem_build]

end Template

/-- The rules of an entry: each body in it, or each part of a body that spreads, with the conditions
gathered for it from the scopes around it, from its own scope and from its shortcut key. -/
inductive Entry.Gathers : List Predicate → Entry → List Predicate → Body → Prop
  | scope {above conditions ps : List Predicate} {children : List Entry} {e : Entry} {b : Body}
      (he : e ∈ children) (h : Gathers (above ++ conditions) e ps b) :
      Gathers above (.scope conditions children) ps b
  | whole {above : List Predicate} {b : Body}
      (h : above.all Predicate.allowsShortcut = false ∨ b.entries? = none) :
      Gathers above (.body b) above b
  | spread {above : List Predicate} {body b : Body} {key : String} {entries : List (String × Body)}
      (ha : above.all Predicate.allowsShortcut) (hb : body.entries? = some entries)
      (he : (key, b) ∈ entries) :
      Gathers above (.body body) (above ++ Method.shortcutConditions key) b

namespace Entry

variable {above : List Predicate} {t : Template}

theorem mem_ofScope_iff (body : Body) :
    t ∈ Template.ofScope above body ↔
      ∃ ps b, Gathers above (.body body) ps b ∧ t = .build ps b := by
  constructor
  · intro ht
    rw [Template.ofScope] at ht
    split at ht
    next ha =>
      cases hb : body.entries? with
      | none =>
        simp only [hb, List.mem_singleton] at ht
        exact ⟨_, _, .whole (.inr hb), ht⟩
      | some entries =>
        simp only [hb, List.mem_map] at ht
        obtain ⟨⟨key, b⟩, he, rfl⟩ := ht
        exact ⟨_, _, .spread ha hb he, rfl⟩
    next ha => exact ⟨_, _, .whole (.inl (Bool.eq_false_iff.mpr ha)), List.mem_singleton.mp ht⟩
  · rintro ⟨ps, b, h, rfl⟩
    cases h with
    | whole h =>
      rw [Template.ofScope]
      obtain ha | hb := h
      · simp [ha]
      · simp [hb]
    | spread ha hb he =>
      rw [Template.ofScope, if_pos ha, hb]
      exact List.mem_map.mpr ⟨_, he, rfl⟩

mutual

theorem mem_templates_iff (above : List Predicate) (e : Entry) :
    t ∈ e.templates above ↔ ∃ ps b, Gathers above e ps b ∧ t = .build ps b := by
  cases e with
  | body b => exact mem_ofScope_iff b
  | scope conditions children =>
    rw [templates, mem_templatesOf_iff (above ++ conditions) children]
    constructor
    · rintro ⟨e, he, ps, b, h, rfl⟩
      exact ⟨ps, b, .scope he h, rfl⟩
    · rintro ⟨ps, b, h, rfl⟩
      cases h with
      | scope he h => exact ⟨_, he, ps, b, h, rfl⟩

theorem mem_templatesOf_iff (above : List Predicate) (es : List Entry) :
    t ∈ templatesOf above es ↔ ∃ e ∈ es, ∃ ps b, Gathers above e ps b ∧ t = .build ps b := by
  cases es with
  | nil => simp [templatesOf]
  | cons e rest =>
    rw [templatesOf, List.mem_append, mem_templates_iff above e, mem_templatesOf_iff above rest]
    simp only [List.mem_cons, exists_eq_or_imp]

end

end Entry

def Script.Gathers (s : Script) (ps : List Predicate) (b : Body) : Prop :=
  ∃ step ∈ s, ∃ root ∈ step.growth.scopes, root.toEntry.Gathers [] ps b

namespace Step

variable (r : Registry) {t : Template}

theorem mem_templates_run (s : Step) (ht : t ∈ (Step.run s r).registry.templates) :
    t ∈ r.templates ∨ ∃ root ∈ s.growth.scopes, t ∈ root.toEntry.templates [] := by
  rw [(s.run_grows r).registry] at ht
  by_cases hr : r.depth = 0
  · generalize s.growth = g at ht ⊢
    obtain ⟨scopes, is, e⟩ := g
    cases List.eq_nil_or_concat scopes with
    | inl hn =>
      rw [r.grow_of_nil _ hn] at ht
      exact .inl ht
    | inr hc =>
      obtain ⟨below, top, rfl⟩ := hc
      rw [List.concat_eq_append] at ht ⊢
      rw [r.grow_append_singleton hr] at ht
      have htop : top ∈ below ++ [top] := List.mem_append_right below List.mem_cons_self
      exact (List.mem_append.mp ht).imp_right fun h => ⟨top, htop, h⟩
  · rw [r.grow_of_pos (Nat.pos_of_ne_zero hr)] at ht
    exact .inl ht

theorem mem_templates_runAll (steps : List Step)
    (ht : t ∈ (Step.runAll steps r).registry.templates) :
    t ∈ r.templates ∨ ∃ s ∈ steps, ∃ root ∈ s.growth.scopes, t ∈ root.toEntry.templates [] := by
  induction steps generalizing r with
  | nil => exact .inl ht
  | cons s rest ih =>
    have hfirst (h : t ∈ (Step.run s r).registry.templates) :
        t ∈ r.templates ∨
          ∃ u ∈ s :: rest, ∃ root ∈ u.growth.scopes, t ∈ root.toEntry.templates [] :=
      (mem_templates_run r s h).imp_right fun h => ⟨s, List.mem_cons_self, h⟩
    cases hs : s.growth.error with
    | some e =>
      have he := (s.error_run r).trans hs
      rw [Step.runAll] at ht
      simp only [he] at ht
      exact hfirst ht
    | none =>
      rw [(runAll_cons r s rest hs).1] at ht
      obtain h | ⟨u, hu, h⟩ := ih _ ht
      · exact hfirst h
      · exact .inr ⟨u, List.mem_cons_of_mem s hu, h⟩

end Step

theorem Script.exists_gathers (s : Script) {t : Template} (ht : t ∈ s.run.registry.templates) :
    ∃ ps b, s.Gathers ps b ∧ t = .build ps b := by
  obtain h | ⟨step, hstep, root, hroot, h⟩ := Step.mem_templates_runAll {} s ht
  · cases h
  · obtain ⟨ps, b, hps, ht⟩ := (Entry.mem_templates_iff [] root.toEntry).mp h
    exact ⟨ps, b, ⟨step, hstep, root, hroot, hps⟩, ht⟩

theorem Script.firstMatch_run_of_twoModes {s₁ s₂ : Script} {a : Step} (h₁ : s₁.run.error = none)
    (ha : a.Registers) (hm : ∀ t ∈ a.registered, Predicate.TwoModes t.predicates) (c : Context) :
    (Script.run (s₁ ++ a :: s₂)).registry.finish.firstMatch c =
      (Script.run (s₁ ++ s₂)).registry.finish.firstMatch c := by
  have hnone : a.registered.reverse.find? (fun t => t.holds c) = none := by
    rw [List.find?_eq_none]
    intro t ht
    rw [Template.not_holds_of_twoModes (hm t (List.mem_reverse.mp ht))]
    exact Bool.false_ne_true
  rw [Compiled.firstMatch_finish, Compiled.firstMatch_finish, Script.templates_run_append h₁,
    Script.templates_run_append h₁, Script.templates_run_cons ha]
  split
  · simp only [List.reverse_append, List.find?_append, hnone, Option.or_none]
  · rfl

/-- A template is found only in the mode that every one of its mode predicates names. It names the
modes that are named in the conditions gathered for it. One that names two modes is found in no
context. Any number of these may be deleted, and any step that registers no others may be left out,
without a change to what is found. -/
theorem Script.mode_of_firstMatch (s : Script) :
    let x := s.run.registry.finish
    (∀ c t, x.firstMatch c = some t →
        (∀ m, .mode m ∈ t.predicates → m = c.mode) ∧ (t.mode? = none ∨ t.mode? = some c.mode)) ∧
      (∀ t ∈ x.templates, ∃ ps b, s.Gathers ps b ∧ t = .build ps b ∧
        (Predicate.TwoModes t.predicates ↔ Predicate.TwoModes ps)) ∧
      (∀ t, Predicate.TwoModes t.predicates → ∀ c, x.firstMatch c ≠ some t) ∧
      (∀ keep : Template → Bool, (∀ t, keep t = false → Predicate.TwoModes t.predicates) →
        ∀ c, Compiled.firstMatch { x with templates := x.templates.filter keep } c =
          x.firstMatch c) ∧
      ∀ (s₁ s₂ : Script) (a : Step), s = s₁ ++ a :: s₂ → s₁.run.error = none → a.Registers →
        (∀ t ∈ a.registered, Predicate.TwoModes t.predicates) →
        ∀ c, x.firstMatch c = (Script.run (s₁ ++ s₂)).registry.finish.firstMatch c := by
  intro x
  have hfound (c : Context) (t : Template) (ht : x.firstMatch c = some t) : t.holds c := by
    obtain ⟨-, -, -, hc, -⟩ := (Compiled.firstMatch_finish_eq_some_iff _ c t).mp ht
    exact hc
  refine ⟨?_, ?_, ?_, ?_, ?_⟩
  · intro c t ht
    have hc := hfound c t ht
    exact ⟨fun m => Template.mode_of_holds hc, Template.mode?_of_holds hc⟩
  · intro t ht
    obtain ⟨ps, b, hps, rfl⟩ := s.exists_gathers (List.mem_reverse.mp ht)
    exact ⟨ps, b, hps, rfl, Template.twoModes_build ps b⟩
  · intro t htwo c ht
    have hc := hfound c t ht
    rw [Template.not_holds_of_twoModes htwo c] at hc
    contradiction
  · intro keep hkeep c
    refine Compiled.firstMatch_filter c x keep fun t hc => ?_
    cases hk : keep t with
    | true => rfl
    | false =>
      rw [Template.not_holds_of_twoModes (hkeep t hk) c] at hc
      contradiction
  · rintro s₁ s₂ a rfl h₁ ha hm c
    exact Script.firstMatch_run_of_twoModes h₁ ha hm c

end BemRules
