import BemRules.Proofs.Script.Simulation

namespace BemRules

namespace Registry

/-- The registry with templates and initializers registered before its own. -/
def after (r : Registry) (ts : List Template) (is : List Initializer) : Registry :=
  { r with templates := ts ++ r.templates, initializers := is ++ r.initializers }

variable (r : Registry) (ts : List Template) (is : List Initializer)

@[simp] theorem depth_after : (r.after ts is).depth = r.depth := rfl

theorem after_of_empty (hr : r.depth = 0) :
    ({} : Registry).after r.templates r.initializers = r := by
  have hs : r.stack = [] := List.length_eq_zero_iff.mp hr
  simp [after, ← hs]

theorem flushTop_after : (r.after ts is).flushTop = r.flushTop.after ts is := by
  cases ht : r.stack.getLast? <;> simp [flushTop, after, ht]

theorem grow_after (g : Growth) : (r.after ts is).grow g = (r.grow g).after ts is := by
  let s : Registry := { r.addInitializers g.initializers with stack := r.stack ++ g.scopes }
  have hs : ({ (r.after ts is).addInitializers g.initializers with
      stack := (r.after ts is).stack ++ g.scopes } : Registry) = s.after ts is := by
    simp [s, after, addInitializers]
  rw [grow, grow, hs, depth_after]
  split
  · exact s.flushTop_after ts is
  · rfl

end Registry

namespace Step

def registered (s : Step) : List Template := (Step.run s {}).registry.templates

/-- The step comes to its end and leaves no scope behind, as every step does in which nothing
fails. -/
structure Registers (s : Step) : Prop where
  error : (Step.run s {}).error = none
  depth : (Step.run s {}).registry.depth = 0

variable (r : Registry)

theorem run_after (s : Step) (ts : List Template) (is : List Initializer) :
    (Step.run s (r.after ts is)).registry = (Step.run s r).registry.after ts is := by
  rw [(s.run_grows _).registry, (s.run_grows r).registry, r.grow_after ts is]

theorem error_run (s : Step) : (Step.run s r).error = s.growth.error := (s.run_grows r).error

theorem Registers.error_growth {s : Step} (hs : s.Registers) : s.growth.error = none :=
  (s.error_run {}).symm.trans hs.error

theorem runAll_cons (s : Step) (rest : List Step) (hs : s.growth.error = none) :
    (Step.runAll (s :: rest) r).registry = (Step.runAll rest (Step.run s r).registry).registry ∧
      (Step.runAll (s :: rest) r).error = (Step.runAll rest (Step.run s r).registry).error := by
  rw [← s.error_run r] at hs
  rw [Step.runAll]
  constructor <;> simp only [hs]

theorem error_runAll_eq_none_iff (steps : List Step) :
    (Step.runAll steps r).error = none ↔ ∀ s ∈ steps, s.growth.error = none := by
  induction steps generalizing r with
  | nil => simp [Step.runAll]
  | cons s rest ih =>
    rw [List.forall_mem_cons]
    cases hs : s.growth.error with
    | none => simpa [(runAll_cons r s rest hs).2] using ih _
    | some e =>
      have he := (s.error_run r).trans hs
      simp [Step.runAll, he]

theorem runAll_append (steps later : List Step) (hs : (Step.runAll steps r).error = none) :
    (Step.runAll (steps ++ later) r).registry =
      (Step.runAll later (Step.runAll steps r).registry).registry := by
  rw [error_runAll_eq_none_iff] at hs
  induction steps generalizing r with
  | nil => rfl
  | cons s rest ih =>
    obtain ⟨hfirst, hrest⟩ := List.forall_mem_cons.mp hs
    rw [List.cons_append, (runAll_cons r s _ hfirst).1, (runAll_cons r s _ hfirst).1]
    exact ih _ hrest

theorem runAll_after (steps : List Step) (ts : List Template) (is : List Initializer) :
    (Step.runAll steps (r.after ts is)).registry = (Step.runAll steps r).registry.after ts is := by
  induction steps generalizing r with
  | nil => rfl
  | cons s rest ih =>
    cases hs : s.growth.error with
    | none => rw [(runAll_cons _ s rest hs).1, (runAll_cons r s rest hs).1, s.run_after, ih]
    | some e =>
      have he := (s.error_run r).trans hs
      have he' := (s.error_run (r.after ts is)).trans hs
      simpa [Step.runAll, he, he'] using s.run_after r ts is

theorem templates_runAll_of_empty (steps : List Step) (hr : r.depth = 0) :
    (Step.runAll steps r).registry.templates =
      r.templates ++ (Step.runAll steps {}).registry.templates := by
  have h := runAll_after {} steps r.templates r.initializers
  rw [r.after_of_empty hr] at h
  rw [h]
  rfl

theorem templates_runAll_of_pos (steps : List Step) (hr : 0 < r.depth) :
    (Step.runAll steps r).registry.templates = r.templates := by
  rw [(Step.runAll_grows steps r hr).registry, r.grow_of_pos hr]
  rfl

theorem registered_of_growth {s : Step} {scope : Scope} {is : List Initializer}
    {e : Option RegisterError} (hs : s.growth = ⟨[scope], is, e⟩) :
    s.registered = scope.toEntry.templates [] := by
  have hg := Registry.grow_append_singleton {} rfl [] scope is e
  rw [List.nil_append] at hg
  rw [registered, (s.run_grows {}).registry, hs, hg]
  rfl

end Step

namespace Script

/-- What a script adds behind another: nothing, where the other left a scope open. -/
theorem templates_run_append {s₁ : Script} (h₁ : s₁.run.error = none) (s₂ : Script) :
    (Script.run (s₁ ++ s₂)).registry.templates =
      s₁.run.registry.templates ++
        if s₁.run.registry.depth = 0 then s₂.run.registry.templates else [] := by
  have hsplit : (Script.run (s₁ ++ s₂)).registry =
      (Step.runAll s₂ s₁.run.registry).registry := Step.runAll_append {} s₁ s₂ h₁
  rw [hsplit]
  split
  next hr => exact Step.templates_runAll_of_empty _ s₂ hr
  next hr =>
    rw [List.append_nil]
    exact Step.templates_runAll_of_pos _ s₂ (Nat.pos_of_ne_zero hr)

theorem templates_run_cons {a : Step} (ha : a.Registers) (s : Script) :
    (Script.run (a :: s)).registry.templates = a.registered ++ s.run.registry.templates := by
  rw [Script.run, (Step.runAll_cons {} a s ha.error_growth).1]
  exact Step.templates_runAll_of_empty _ s ha.depth

end Script

end BemRules
