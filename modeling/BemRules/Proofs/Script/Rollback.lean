import BemRules.Proofs.Registry.Entries
import BemRules.Proofs.Script.Meaning

namespace BemRules

namespace Registry

/-- Whatever was called on an open chain, giving it up keeps only the initializers. -/
theorem release_runAll_of_open (r : Registry) (conditions : List Predicate) (calls : List Call)
    (hopen : (Call.runAll calls (r.openScope conditions).1
      (r.openScope conditions).2).chain.closed = false) :
    let o := Call.runAll calls (r.openScope conditions).1 (r.openScope conditions).2
    o.registry.release o.chain =
      { r with
        initializers := r.initializers ++
          (Call.meaningOfAll [] calls ⟨conditions, false⟩).initializers } := by
  intro o
  have hg := Call.runAll_openScope_grows calls r conditions
  have ha := Call.growthOfAll_agrees [] calls (.opened conditions)
  have hc := hg.closed.symm.trans hopen
  have hr : o.registry.release o.chain =
      r.grow (Call.growthOfAll calls (.opened conditions)).release := by
    simp only [o, hg.registry, hg.chain, r.release_hold_eq_grow]
  have hs : (Call.growthOfAll calls (.opened conditions)).release.scopes = [] := by
    simp [CallGrowth.release, Held.remains, hc]
  rw [hr, r.grow_of_nil _ hs, ha.initializers]
  rfl

theorem release_runAll_of_failed_nest :
    let r : Registry := { stack := [⟨[.block "menu"], []⟩], initializers := [.done () {}] }
    let calls : List Call :=
      [.attempt (.nest [.onInit (.done () {}), .chain (.elem "icon") [.body (.value .null)],
        .fail .missingPredicate]), .narrow (.mode "tag")]
    let o := Call.runAll calls (r.openScope [.elem "item"]).1 (r.openScope [.elem "item"]).2
    o.chain.closed = false ∧ o.registry.depth = 3 ∧
      o.registry.release o.chain = { r with initializers := [.done () {}, .done () {}] } :=
  ⟨rfl, rfl, release_runAll_of_open _ _ _ rfl⟩

end Registry

theorem Call.growth_of_closing (call : Call) {h : Held} (ho : h.closed = false)
    (ha : h.above = []) (hc : (call.growth h).held.closed) :
    (call.growth h).held.scope.conditions = h.scope.conditions ∧
      (call.growth h).held.above = [] := by
  cases call with
  | narrow call =>
    rw [growth] at hc
    cases hcall : call.conditions <;> simp [hcall, Held.narrow, ho] at hc
  | body b => simp [growth, CallGrowth.close, Held.close, ho, ha]
  | bodies bs => simp [growth, CallGrowth.close, Held.close, ho, ha]
  | attempt call => exact Call.growth_of_closing call ho ha hc
  | nest steps =>
    rw [growth] at hc ⊢
    cases he : (Step.growthOfAll steps).error with
    | some e => simp [he, Held.cover, ho] at hc
    | none => simp [he, Held.adopt, Held.close, ho]

theorem CallOutcome.Grows.same_stack {o p : CallOutcome} {r : Registry} {g k : CallGrowth}
    (ho : o.Grows r g) (hp : p.Grows r k) (hheld : g.held = k.held) :
    o.registry.stack = p.registry.stack ∧ o.registry.templates = p.registry.templates := by
  rw [ho.registry, hp.registry, r.hold_addInitializers, r.hold_addInitializers, hheld]
  exact ⟨rfl, rfl⟩

namespace CallOutcome.Grows

variable {o : CallOutcome} {r : Registry} {g : CallGrowth} {steps : List Step} {e : RegisterError}

theorem nest_failed (h : o.Grows r g) (ho : g.held.closed = false)
    (he : (Step.runAll steps o.registry).error = some e) :
    (Call.run (.nest steps) o.registry o.chain).Grows r
      (g.append ⟨g.held.cover (Step.growthOfAll steps).scopes,
        (Step.growthOfAll steps).initializers, some e⟩) := by
  have hd : 0 < o.registry.depth := by
    simp only [h.registry_of_open ho, Registry.depth, Held.scopes, List.length_append,
      List.length_cons]
    omega
  have herr : (Step.growthOfAll steps).error = some e :=
    (Step.runAll_grows steps o.registry hd).error.symm.trans he
  have hn := h.run (.nest steps)
  simpa only [Call.growth, ho, Bool.false_eq_true, if_false, herr] using hn

theorem stack_cover {p : CallOutcome} {k : CallGrowth} {left : List Scope} (h : o.Grows r g)
    (ho : g.held.closed = false) (hp : p.Grows r k) (hk : k.held = g.held.cover left) :
    p.chain = o.chain ∧ p.registry.templates = o.registry.templates ∧
      p.registry.stack = o.registry.stack ++ left := by
  have hko : k.held.closed = false := by simpa [hk, Held.cover] using ho
  rw [h.chain, hp.chain, h.registry_of_open ho, hp.registry_of_open hko]
  simp [hk, Held.cover, Held.scopes]

theorem depth_body (h : o.Grows r g) (ho : g.held.closed = false) (b : Body) :
    (Call.run (.body b) o.registry o.chain).registry.depth =
      if r.depth = 0 then g.held.above.length else r.depth + g.held.above.length + 1 := by
  have hb := h.run (.body b)
  have hheld : (g.append ((Call.body b).growth g.held)).held = g.held.close [.body b] := by
    simp [CallGrowth.append, Call.growth, CallGrowth.close, ho]
  rw [hb.registry, hheld, Registry.hold_addInitializers, Registry.depth_addInitializers,
    r.hold_of_closed _ rfl]
  split
  next hr => simp [r.depth_grow_of_empty hr, Held.scopes, Held.close]
  next hr =>
    rw [r.depth_grow_of_pos (Nat.pos_of_ne_zero hr)]
    simp [Held.scopes, Held.close, Nat.add_assoc]

theorem closing_of_alone (h : o.Grows r g) (ho : g.held.closed = false) {scope : Scope}
    (hstack : o.registry.stack = r.stack ++ [scope]) (next : Call)
    (hc : (Call.run next o.registry o.chain).chain.closed) :
    ∃ children,
      (Call.run next o.registry o.chain).registry.stack =
          (if r.depth = 0 then [] else r.stack ++ [⟨scope.conditions, children⟩]) ∧
        (Call.run next o.registry o.chain).registry.templates =
          o.registry.templates ++
            (if r.depth = 0 then Entry.templatesOf scope.conditions children else []) := by
  have hn := h.run next
  rw [hn.closed] at hc
  rw [h.registry_of_open ho] at hstack
  obtain ⟨rfl, ha⟩ := List.cons.inj (List.append_cancel_left hstack)
  obtain ⟨hconditions, hnone⟩ := next.growth_of_closing ho ha hc
  refine ⟨(next.growth g.held).held.scope.children, ?_⟩
  rw [hn.registry, Registry.hold_of_alone _ _ hc hnone, h.registry_of_open ho, ← hconditions]
  exact ⟨rfl, rfl⟩

end CallOutcome.Grows

/-- A nest whose steps fail leaves what they closed. It is undone exactly when there is nothing of
that kind: then every call made next does what it would have done without the nest. -/
theorem Registry.nest_failed_iff (r : Registry) (conditions : List Predicate) (calls : List Call)
    (steps : List Step) (e : RegisterError) :
    let o := Call.runAll calls (r.openScope conditions).1 (r.openScope conditions).2
    let f := Call.run (.nest steps) o.registry o.chain
    let left := (Step.growthOfAll steps).scopes
    o.chain.closed = false → (Step.runAll steps o.registry).error = some e →
      (f.error = some e ∧ f.chain = o.chain ∧ f.registry.templates = o.registry.templates ∧
        f.registry.stack = o.registry.stack ++ left) ∧
      (f.registry.stack = o.registry.stack ↔ left = []) ∧
      ((∀ next, (Call.run next f.registry f.chain).registry.stack =
            (Call.run next o.registry o.chain).registry.stack ∧
          (Call.run next f.registry f.chain).registry.templates =
            (Call.run next o.registry o.chain).registry.templates) ↔ left = []) ∧
      (left = [] → ∀ scope next, o.registry.stack = r.stack ++ [scope] →
        (Call.run next f.registry f.chain).chain.closed → ∃ children,
          (Call.run next f.registry f.chain).registry.stack =
              (if r.depth = 0 then [] else r.stack ++ [⟨scope.conditions, children⟩]) ∧
            (Call.run next f.registry f.chain).registry.templates =
              o.registry.templates ++
                (if r.depth = 0 then Entry.templatesOf scope.conditions children else []) ∧
            ∀ above, ∀ t ∈ Entry.templatesOf (above ++ scope.conditions) children,
              t.Guarded (above ++ scope.conditions)) := by
  intro o f left hopen herr
  have hg : o.Grows r (Call.growthOfAll calls (.opened conditions)) :=
    Call.runAll_openScope_grows calls r conditions
  generalize Call.growthOfAll calls (.opened conditions) = g at hg
  have ho : g.held.closed = false := hg.closed.symm.trans hopen
  have hf := hg.nest_failed ho herr
  have hcover : f.chain = o.chain ∧ f.registry.templates = o.registry.templates ∧
      f.registry.stack = o.registry.stack ++ left := hg.stack_cover ho hf rfl
  refine ⟨⟨hf.error, hcover⟩, ?_, ⟨?_, ?_⟩, ?_⟩
  · rw [hcover.2.2]
    exact List.append_right_eq_self
  · intro hnext
    -- a body leaves the stack longer by what was left, at depth one as at any other
    have hd := congrArg List.length (hnext (.body (.value .null))).1
    have hlen := (hf.depth_body ho _).symm.trans (hd.trans (hg.depth_body ho _))
    simp only [CallGrowth.append, Held.cover, List.length_append] at hlen
    refine List.length_eq_zero_iff.mp (?_ : (Step.growthOfAll steps).scopes.length = 0)
    split at hlen <;> omega
  · intro hl next
    have hheld : g.held.cover left = g.held := by simp [Held.cover, hl]
    refine (hf.run next).same_stack (hg.run next) ?_
    simp only [CallGrowth.append, left] at hheld ⊢
    rw [hheld]
  · intro hl scope next hstack hc
    have hfstack : f.registry.stack = r.stack ++ [scope] := by
      rw [hcover.2.2, hstack, hl, List.append_nil]
    obtain ⟨children, hs, ht⟩ := hf.closing_of_alone ho hfstack next hc
    refine ⟨children, hs, ?_, fun above t => Entry.guarded_of_mem_templatesOf children⟩
    rw [ht, hcover.2.1]

theorem Registry.nest_failed_of_abandoned :
    let o := Call.runAll [] (({} : Registry).openScope [.block "b"]).1
      (({} : Registry).openScope [.block "b"]).2
    let steps : List Step := [.chain (.elem "e") [.narrow (.mode "tag")], .fail .missingPredicate]
    o.chain.closed = false ∧ (Step.runAll steps o.registry).error = some .missingPredicate ∧
      (Call.run (.nest steps) o.registry o.chain).registry.stack = o.registry.stack :=
  ⟨rfl, rfl, (Registry.nest_failed_iff {} [.block "b"] [] _ .missingPredicate rfl rfl).2.1.mpr rfl⟩

/-- The steps of the nest close a chain before they fail. Its scope stays on the stack, and the
body that comes next is not the one that is flattened. -/
theorem Registry.nest_failed_of_closed :
    let o := Call.runAll [] (({} : Registry).openScope [.block "b"]).1
      (({} : Registry).openScope [.block "b"]).2
    let f := Call.run (.nest [.chain (.elem "e") [.body (.value .null)], .fail .missingPredicate])
      o.registry o.chain
    let next : Call := .body (.value .null)
    f.error = some .missingPredicate ∧ f.registry.stack ≠ o.registry.stack ∧
      (Call.run next o.registry o.chain).registry.templates.map Template.predicates =
        [[.block "b"]] ∧
      (Call.run next f.registry f.chain).registry.templates.map Template.predicates =
        [[.elem "e"]] := by
  refine ⟨rfl, ?_, rfl, rfl⟩
  intro h
  exact absurd (congrArg List.length h) (by decide)

end BemRules
