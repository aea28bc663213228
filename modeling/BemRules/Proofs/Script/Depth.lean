import BemRules.Proofs.Script.Simulation

namespace BemRules

/-- No scope of a failed nest stands above the chain of the step when the chain is closed. -/
def Step.settled : Step → Bool
  | .onInit _ => true
  | .look => true
  | .fail _ => true
  | .chain first calls =>
    match first.conditions with
    | .error _ => true
    | .ok conditions =>
      let h := (Call.growthOfAll calls (.opened conditions)).held
      !h.closed || h.above.isEmpty
  | .attempt s => Step.settled s

theorem Step.settled_iff (s : Step) : s.settled ↔ s.growth.scopes.length ≤ 1 := by
  cases s with
  | onInit i => simp [settled, growth]
  | look => simp [settled, growth]
  | fail e => simp [settled, growth]
  | attempt s => exact Step.settled_iff s
  | chain first calls =>
    rw [settled, growth]
    cases first.conditions with
    | error e => simp
    | ok conditions =>
      cases hc : (Call.growthOfAll calls (.opened conditions)).held.closed <;>
        simp [CallGrowth.release, Held.remains, Held.scopes, hc]

namespace Registry

def runEach (r : Registry) (steps : List Step) : Registry :=
  steps.foldl (fun r s => (Step.run s r).registry) r

theorem runEach_append (r : Registry) (steps later : List Step) :
    r.runEach (steps ++ later) = (r.runEach steps).runEach later :=
  List.foldl_append

theorem registry_runAll_attempts (steps : List Step) (r : Registry) :
    (Step.runAll (steps.map .attempt) r).registry = r.runEach steps := by
  induction steps generalizing r with
  | nil => rfl
  | cons s rest ih => exact ih _

theorem depth_run_of_empty (s : Step) (r : Registry) (hr : r.depth = 0) :
    (Step.run s r).registry.depth = 0 ↔ s.settled := by
  rw [(s.run_grows r).registry, r.depth_grow_of_empty hr, s.settled_iff]
  omega

/-- Above a scope that stays behind no chain is at depth one, and nothing is flattened. -/
theorem run_of_pos (s : Step) (r : Registry) (hr : 0 < r.depth) :
    r.depth ≤ (Step.run s r).registry.depth ∧ (Step.run s r).registry.templates = r.templates := by
  rw [(s.run_grows r).registry, r.depth_grow_of_pos hr, r.grow_of_pos hr]
  exact ⟨Nat.le_add_right _ _, rfl⟩

theorem runEach_of_pos (steps : List Step) (r : Registry) (hr : 0 < r.depth) :
    0 < (r.runEach steps).depth ∧ (r.runEach steps).templates = r.templates := by
  induction steps generalizing r with
  | nil => exact ⟨hr, rfl⟩
  | cons s rest ih =>
    obtain ⟨hle, hs⟩ := run_of_pos s r hr
    obtain ⟨hpos, hrest⟩ := ih (Step.run s r).registry (by omega)
    exact ⟨hpos, hrest.trans hs⟩

theorem depth_runEach_of_empty (steps : List Step) (r : Registry) (hr : r.depth = 0) :
    (r.runEach steps).depth = 0 ↔ ∀ s ∈ steps, s.settled := by
  induction steps generalizing r with
  | nil => simpa [runEach] using hr
  | cons s rest ih =>
    rw [List.forall_mem_cons, ← depth_run_of_empty s r hr]
    by_cases hs : (Step.run s r).registry.depth = 0
    · have hrest := ih _ hs
      exact hrest.trans (and_iff_right hs).symm
    · obtain ⟨hpos, -⟩ := runEach_of_pos rest _ (Nat.pos_of_ne_zero hs)
      exact iff_of_false (Nat.ne_of_gt hpos) (fun h => hs h.1)

end Registry

theorem CallOutcome.Grows.attach_of_alone {o : CallOutcome} {r : Registry} {g : CallGrowth}
    (h : o.Grows r g) (hf : g.held.Fresh) (hr : r.depth = 0) (ho : o.chain.closed = false)
    {scope : Scope} (hstack : o.registry.stack = [scope]) (entries : List Entry) :
    o.registry.attach o.chain entries =
      .ok ({ o.registry with
          stack := []
          templates := r.templates ++ Entry.templatesOf scope.conditions entries },
        ⟨1, true⟩) := by
  have hc : g.held.closed = false := h.closed.symm.trans ho
  have hs : r.stack = [] := List.length_eq_zero_iff.mp hr
  have hheld : g.held.scope :: g.held.above = [scope] := by
    simpa [h.registry_of_open hc, hs, Held.scopes] using hstack
  obtain ⟨rfl, ha⟩ := List.cons.inj hheld
  have hd : (r.addInitializers g.initializers).depth = 0 := hr
  have hattach := (r.addInitializers g.initializers).attach_hold g.held hc entries
  rw [Registry.hold_of_alone _ (g.held.close entries) rfl ha, hd] at hattach
  rw [h.chain, hc, hr, h.registry, hattach, Registry.hold_of_open _ _ hc]
  simp [Registry.addInitializers, Held.close, Scope.toEntry, Entry.templates, hf hc]

/-- The stack is empty after every step exactly when every step leaves it settled. Then a chain
opened next is at depth one and is flattened by the very call that closes it, unless a failed nest
of its own stands above it; otherwise no step from then on registers a template. -/
theorem Script.depth_eq_zero_iff (steps : List Step) :
    let r := (Script.run (steps.map .attempt)).registry
    ((∀ p, p <+: steps → (Script.run (p.map .attempt)).registry.depth = 0) ↔
        ∀ s ∈ steps, s.settled) ∧
      ((∀ s ∈ steps, s.settled) → ∀ conditions calls scope entries,
        let o := Call.runAll calls (r.openScope conditions).1 (r.openScope conditions).2
        o.chain.closed = false → o.registry.stack = [scope] →
          o.registry.attach o.chain entries =
            .ok ({ o.registry with
                stack := []
                templates := r.templates ++ Entry.templatesOf scope.conditions entries },
              ⟨1, true⟩)) ∧
      ((¬ ∀ s ∈ steps, s.settled) → ∀ later,
        (Script.run ((steps ++ later).map .attempt)).registry.templates = r.templates) := by
  have hrun (p : List Step) : (Script.run (p.map .attempt)).registry = Registry.runEach {} p :=
    Registry.registry_runAll_attempts p {}
  have hdepth (p : List Step) : (Script.run (p.map .attempt)).registry.depth = 0 ↔
      ∀ s ∈ p, s.settled := by
    rw [hrun]
    exact Registry.depth_runEach_of_empty p {} rfl
  intro r
  refine ⟨⟨fun h => (hdepth steps).mp (h steps (List.prefix_refl steps)), ?_⟩, ?_, ?_⟩
  · intro h p hp
    exact (hdepth p).mpr fun s hs => h s (hp.subset hs)
  · intro h conditions calls scope entries o ho hstack
    have hg := Call.runAll_openScope_grows calls r conditions
    have hf := Call.fresh_growthOfAll calls (Held.fresh_opened conditions)
    exact hg.attach_of_alone hf ((hdepth steps).mpr h) ho hstack entries
  · intro h later
    have hr : 0 < r.depth := Nat.pos_of_ne_zero fun hz => h ((hdepth steps).mp hz)
    rw [hrun, Registry.runEach_append, ← hrun steps]
    exact (Registry.runEach_of_pos later r hr).2

/-- A chain that is closed below the scope that its failed nest left. -/
def Step.covered : Step :=
  .chain (.block "b")
    [.attempt (.nest [.chain (.elem "e") [.body (.value (.str "inner"))], .fail .missingPredicate]),
      .body (.value (.str "outer"))]

theorem Script.depth_of_covered :
    (¬ ∀ p, p <+: [Step.covered] → (Script.run (p.map .attempt)).registry.depth = 0) ∧
      (Script.run ([Step.covered, .chain (.block "c") [.body (.value .null)]].map
        .attempt)).registry.templates.map Template.predicates = [[.elem "e"]] := by
  refine ⟨?_, rfl⟩
  intro h
  have hd := h [Step.covered] (List.prefix_refl _)
  exact absurd hd (by decide)

end BemRules
