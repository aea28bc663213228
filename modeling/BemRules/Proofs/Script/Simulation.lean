import BemRules.Proofs.Script.Growth

namespace BemRules

namespace Registry

theorem modify_length (base above : List Scope) (s : Scope) (f : Scope → Scope) :
    (base ++ s :: above).modify base.length f = base ++ f s :: above := by
  induction base with
  | nil => rfl
  | cons t base ih => simpa using ih

variable (r : Registry) (h : Held)

@[simp] theorem addInitializers_nil : r.addInitializers [] = r := by
  simp [addInitializers]

@[simp] theorem addInitializers_addInitializers (is js : List Initializer) :
    (r.addInitializers is).addInitializers js = r.addInitializers (is ++ js) := by
  simp [addInitializers]

@[simp] theorem depth_addInitializers (is : List Initializer) :
    (r.addInitializers is).depth = r.depth := rfl

theorem flushTop_addInitializers (is : List Initializer) :
    (r.addInitializers is).flushTop = r.flushTop.addInitializers is := by
  cases ht : r.stack.getLast? <;> simp [flushTop, addInitializers, ht]

theorem hold_addInitializers (is : List Initializer) :
    (r.addInitializers is).hold h = (r.hold h).addInitializers is := by
  unfold hold
  rw [depth_addInitializers]
  split
  · exact flushTop_addInitializers { r with stack := r.stack ++ h.scopes } is
  · rfl

theorem hold_of_open (ho : h.closed = false) :
    r.hold h = { r with stack := r.stack ++ h.scopes } := by
  simp [hold, ho]

theorem depth_hold_of_open (ho : h.closed = false) :
    (r.hold h).depth = r.depth + h.above.length + 1 := by
  simp only [hold_of_open r h ho, depth, Held.scopes, List.length_append, List.length_cons]
  omega

theorem openScope_eq_hold (conditions : List Predicate) :
    r.openScope conditions = (r.hold (.opened conditions), ⟨r.depth + 1, false⟩) := by
  rw [hold_of_open r _ rfl]
  rfl

theorem narrow_hold (conditions : List Predicate) :
    (r.hold h).narrow ⟨r.depth + 1, h.closed⟩ conditions = r.hold (h.narrow conditions) := by
  cases hc : h.closed with
  | true => simp [narrow, Held.narrow, hc]
  | false =>
    have hn : (h.narrow conditions).closed = false := by simp [Held.narrow, hc]
    rw [hold_of_open r h hc, hold_of_open r _ hn]
    simp [narrow, Chain.index, Held.narrow, Held.scopes, hc, depth, modify_length]

theorem attach_hold (ho : h.closed = false) (entries : List Entry) :
    (r.hold h).attach ⟨r.depth + 1, false⟩ entries =
      .ok (r.hold (h.close entries), ⟨r.depth + 1, true⟩) := by
  have hi : r.stack.length < (r.stack ++ h.scopes).length := by
    simp [Held.scopes]
  have hm : (r.stack ++ h.scopes).modify r.stack.length
      (fun s => { s with children := s.children ++ entries }) =
        r.stack ++ (h.close entries).scopes := modify_length _ _ _ _
  rw [hold_of_open r h ho]
  simp only [attach, Chain.index, Nat.add_sub_cancel, depth, Bool.false_eq_true, if_false,
    if_pos hi, hm]
  by_cases hd : r.stack.length = 0 <;> simp [hold, depth, Held.close, hd]

theorem takeNested_hold (ho : h.closed = false) :
    (r.hold h).takeNested ⟨r.depth + 1, false⟩ =
      (r.hold { h with above := [] }, h.above.map Scope.toEntry) := by
  rw [hold_of_open r h ho, hold_of_open r { h with above := [] } ho]
  have ht : (r.stack ++ h.scope :: h.above).take (r.stack.length + 1) = r.stack ++ [h.scope] := by
    rw [List.take_length_add_append]
    rfl
  have hd : (r.stack ++ h.scope :: h.above).drop (r.stack.length + 1) = h.above := by
    rw [List.drop_length_add_append]
    rfl
  simp only [takeNested, Held.scopes, depth, ht, hd]

theorem release_hold :
    (r.hold h).release ⟨r.depth + 1, h.closed⟩ = if h.closed then r.hold h else r := by
  cases hc : h.closed with
  | true => simp [release]
  | false => simp [release, hold_of_open r h hc, Chain.index, depth]

theorem grow_hold (ho : h.closed = false) (g : Growth) :
    (r.hold h).grow g = (r.addInitializers g.initializers).hold (h.cover g.scopes) := by
  have hd : ¬ (r.hold h).depth = 0 := by
    rw [depth_hold_of_open r h ho]
    omega
  have hc : (h.cover g.scopes).closed = false := ho
  rw [grow, if_neg hd, hold_of_open r h ho, hold_of_open _ _ hc]
  simp [addInitializers, Held.cover, Held.scopes]

theorem flushTop_of_empty (hr : r.depth = 0) : r.flushTop = r := by
  have hs : r.stack = [] := List.length_eq_zero_iff.mp hr
  simp [flushTop, hs]

theorem grow_of_nil (g : Growth) (hg : g.scopes = []) :
    r.grow g = r.addInitializers g.initializers := by
  have hs : ({ r.addInitializers g.initializers with stack := r.stack ++ g.scopes } : Registry) =
      r.addInitializers g.initializers := by
    simp [hg, addInitializers]
  rw [grow, hs]
  split
  next hr => exact flushTop_of_empty _ hr
  next => rfl

theorem grow_error (e : Option RegisterError) : r.grow { error := e } = r := by
  rw [grow_of_nil _ _ rfl, addInitializers_nil]

theorem grow_append_singleton (hr : r.depth = 0) (below : List Scope) (top : Scope)
    (is : List Initializer) (e : Option RegisterError) :
    r.grow ⟨below ++ [top], is, e⟩ =
      { stack := below, templates := r.templates ++ top.toEntry.templates [],
        initializers := r.initializers ++ is } := by
  have hs : r.stack = [] := List.length_eq_zero_iff.mp hr
  rw [grow, if_pos hr]
  simp [flushTop, addInitializers, hs]

theorem depth_grow_of_empty (hr : r.depth = 0) (g : Growth) :
    (r.grow g).depth = g.scopes.length - 1 := by
  obtain ⟨scopes, is, e⟩ := g
  cases List.eq_nil_or_concat scopes with
  | inl hn =>
    rw [grow_of_nil r _ hn, depth_addInitializers, hr, hn]
    rfl
  | inr hc =>
    obtain ⟨below, top, rfl⟩ := hc
    rw [List.concat_eq_append, grow_append_singleton r hr]
    simp [depth]

theorem grow_of_pos (hr : 0 < r.depth) (g : Growth) :
    r.grow g = { r.addInitializers g.initializers with stack := r.stack ++ g.scopes } :=
  if_neg (Nat.pos_iff_ne_zero.mp hr)

theorem depth_grow_of_pos (hr : 0 < r.depth) (g : Growth) :
    (r.grow g).depth = r.depth + g.scopes.length := by
  simp [grow_of_pos r hr, depth]

theorem grow_append (hr : 0 < r.depth) (g k : Growth) :
    (r.grow g).grow k = r.grow (g.append k) := by
  have hg : 0 < (r.grow g).depth := by
    rw [depth_grow_of_pos r hr]
    omega
  rw [grow_of_pos _ hg, grow_of_pos r hr, grow_of_pos r hr]
  simp [addInitializers, Growth.append]

theorem hold_of_closed (hc : h.closed) : r.hold h = r.grow { scopes := h.scopes } := by
  simp [hold, grow, hc]

/-- A closed scope with nothing above it is flattened at depth one, and waits on top of the stack
at any other depth. -/
theorem hold_of_alone (hc : h.closed) (ha : h.above = []) :
    r.hold h =
      { r with
        stack := if r.depth = 0 then [] else r.stack ++ [h.scope]
        templates := r.templates ++ if r.depth = 0 then h.scope.toEntry.templates [] else [] } := by
  have hscopes : h.scopes = [] ++ [h.scope] := by simp [Held.scopes, ha]
  rw [hold_of_closed r h hc, hscopes]
  by_cases hr : r.depth = 0
  · rw [grow_append_singleton r hr]
    simp [hr]
  · rw [grow_of_pos r (Nat.pos_of_ne_zero hr)]
    simp [hr, addInitializers]

theorem release_hold_eq_grow (g : CallGrowth) :
    ((r.addInitializers g.initializers).hold g.held).release ⟨r.depth + 1, g.held.closed⟩ =
      r.grow g.release := by
  have h := release_hold (r.addInitializers g.initializers) g.held
  rw [depth_addInitializers] at h
  rw [h]
  cases hc : g.held.closed with
  | true => simp [hold, grow, CallGrowth.release, Held.remains, addInitializers, hc, depth]
  | false => simp [CallGrowth.release, Held.remains, hc, grow_of_nil]

end Registry

structure Outcome.Grows (o : Outcome) (r : Registry) (g : Growth) : Prop where
  registry : o.registry = r.grow g
  error : o.error = g.error

structure CallOutcome.Grows (o : CallOutcome) (r : Registry) (g : CallGrowth) : Prop where
  registry : o.registry = (r.addInitializers g.initializers).hold g.held
  chain : o.chain = ⟨r.depth + 1, g.held.closed⟩
  error : o.error = g.error

namespace CallOutcome

theorem Grows.closed {o : CallOutcome} {r : Registry} {g : CallGrowth} (h : o.Grows r g) :
    o.chain.closed = g.held.closed := by
  rw [h.chain]

theorem Grows.registry_of_open {o : CallOutcome} {r : Registry} {g : CallGrowth}
    (h : o.Grows r g) (ho : g.held.closed = false) :
    o.registry =
      { r with
        stack := r.stack ++ g.held.scopes
        initializers := r.initializers ++ g.initializers } := by
  rw [h.registry, Registry.hold_of_open _ _ ho]
  rfl

theorem Grows.append {o : CallOutcome} {r : Registry} {g k : CallGrowth}
    (h : o.Grows (r.addInitializers g.initializers) k) : o.Grows r (g.append k) := by
  refine ⟨?_, h.chain, h.error⟩
  rw [h.registry, Registry.addInitializers_addInitializers]
  rfl

variable (label : String) (events : List Event) (r : Registry) (h : Held) (entries : List Entry)

theorem close_of_open (ho : h.closed = false) :
    close label events (r.hold h) ⟨r.depth + 1, false⟩ entries =
      succeed label events (r.hold (h.close entries)) ⟨r.depth + 1, true⟩ := by
  rw [close, r.attach_hold h ho]

theorem close_takeNested (ho : h.closed = false) (nested : List Scope) :
    close label events ((r.hold (h.cover nested)).takeNested ⟨r.depth + 1, false⟩).1
      ⟨r.depth + 1, false⟩ ((r.hold (h.cover nested)).takeNested ⟨r.depth + 1, false⟩).2 =
        succeed label events (r.hold (h.adopt nested)) ⟨r.depth + 1, true⟩ := by
  have hc : (h.cover nested).closed = false := ho
  rw [r.takeNested_hold _ hc]
  exact close_of_open label events r { h with above := [] } _ ho

theorem close_grows :
    (close label events (r.hold h) ⟨r.depth + 1, h.closed⟩ entries).Grows r
      (CallGrowth.close h entries) := by
  cases hc : h.closed with
  | true =>
    rw [close, Registry.attach_of_closed _ rfl]
    constructor <;> simp [refuse, CallGrowth.close, hc]
  | false =>
    rw [close_of_open label events r h entries hc]
    constructor <;> simp [succeed, CallGrowth.close, hc, Held.close]

end CallOutcome

mutual

/-- A run changes a registry by the growth of what was run. For one step this holds on every
registry, for a list of steps where some scope is open. -/
theorem Step.run_grows (s : Step) (r : Registry) : (Step.run s r).Grows r s.growth := by
  cases s with
  | onInit i => exact ⟨(r.grow_of_nil { initializers := [i] } rfl).symm, rfl⟩
  | look => exact ⟨(r.grow_error none).symm, rfl⟩
  | fail e => exact ⟨(r.grow_error (some e)).symm, rfl⟩
  | attempt s =>
    have h := Step.run_grows s r
    exact ⟨h.registry, rfl⟩
  | chain first calls =>
    rw [Step.run, Step.growth]
    cases first.conditions with
    | error e => exact ⟨(r.grow_error (some e)).symm, rfl⟩
    | ok conditions =>
      have h := Call.runAll_grows calls r (.opened conditions)
      have ho : r.openScope conditions = (r.hold (.opened conditions), ⟨r.depth + 1, false⟩) :=
        r.openScope_eq_hold conditions
      simp only [ho]
      refine ⟨?_, h.error⟩
      rw [← r.release_hold_eq_grow, ← h.chain, ← h.registry]
      rfl

theorem Step.runAll_grows (steps : List Step) (r : Registry) (hr : 0 < r.depth) :
    (Step.runAll steps r).Grows r (Step.growthOfAll steps) := by
  cases steps with
  | nil => exact ⟨(r.grow_error none).symm, rfl⟩
  | cons s rest =>
    have h := Step.run_grows s r
    rw [Step.runAll, Step.growthOfAll]
    simp only [h.error]
    cases he : s.growth.error with
    | some e => exact h
    | none =>
      have hd : 0 < (Step.run s r).registry.depth := by
        rw [h.registry, r.depth_grow_of_pos hr]
        omega
      have hrest := Step.runAll_grows rest _ hd
      refine ⟨?_, hrest.error⟩
      rw [← r.grow_append hr, ← h.registry]
      exact hrest.registry

theorem Call.run_grows (call : Call) (r : Registry) (h : Held) :
    (Call.run call (r.hold h) ⟨r.depth + 1, h.closed⟩).Grows r (call.growth h) := by
  cases call with
  | narrow call =>
    rw [Call.run, Call.growth]
    cases call.conditions with
    | error e => exact ⟨(congrArg (Registry.hold · h) r.addInitializers_nil).symm, rfl, rfl⟩
    | ok conditions =>
      refine ⟨?_, ?_, rfl⟩
      · rw [r.addInitializers_nil]
        exact r.narrow_hold h conditions
      · simp only [CallOutcome.succeed, Held.narrow]
        split <;> rfl
  | body b => exact CallOutcome.close_grows _ _ r h _
  | bodies bs => exact CallOutcome.close_grows _ _ r h _
  | attempt call =>
    have hc := Call.run_grows call r h
    exact ⟨hc.registry, hc.chain, rfl⟩
  | nest steps =>
    rw [Call.run, Call.growth]
    cases hc : h.closed with
    | true =>
      refine ⟨?_, ?_, rfl⟩
      · simp [CallOutcome.refuse]
      · simp [CallOutcome.refuse, hc]
    | false =>
      -- the nested steps run above the open scope of the chain, so they flatten nothing
      have hd : 0 < (r.hold h).depth := by
        rw [r.depth_hold_of_open h hc]
        omega
      have hs := Step.runAll_grows steps (r.hold h) hd
      simp only [Bool.false_eq_true, if_false, hs.error]
      have hr := hs.registry.trans (r.grow_hold h hc _)
      cases he : (Step.growthOfAll steps).error with
      | some e => exact ⟨hr, by simp [CallOutcome.refuse, Held.cover, hc], rfl⟩
      | none =>
        simp only [hr]
        have hn := CallOutcome.close_takeNested "nest"
          (.entered (r.hold h).depth :: (Step.runAll steps (r.hold h)).events)
          (r.addInitializers (Step.growthOfAll steps).initializers) h hc
          (Step.growthOfAll steps).scopes
        rw [r.depth_addInitializers] at hn
        rw [hn]
        exact ⟨rfl, rfl, rfl⟩

theorem Call.runAll_grows (calls : List Call) (r : Registry) (h : Held) :
    (Call.runAll calls (r.hold h) ⟨r.depth + 1, h.closed⟩).Grows r (Call.growthOfAll calls h) := by
  cases calls with
  | nil => exact ⟨(congrArg (Registry.hold · h) r.addInitializers_nil).symm, rfl, rfl⟩
  | cons call rest =>
    have hc := Call.run_grows call r h
    rw [Call.runAll, Call.growthOfAll]
    simp only [hc.error]
    cases he : (call.growth h).error with
    | some e => exact hc
    | none =>
      have hrest := Call.runAll_grows rest (r.addInitializers (call.growth h).initializers)
        (call.growth h).held
      rw [r.depth_addInitializers, ← hc.registry, ← hc.chain] at hrest
      have happend := hrest.append
      exact ⟨happend.registry, happend.chain, happend.error⟩

end

theorem CallOutcome.Grows.run {o : CallOutcome} {r : Registry} {g : CallGrowth} (ho : o.Grows r g)
    (call : Call) :
    (Call.run call o.registry o.chain).Grows r (g.append (call.growth g.held)) := by
  have hc := Call.run_grows call (r.addInitializers g.initializers) g.held
  rw [r.depth_addInitializers, ← ho.registry, ← ho.chain] at hc
  exact hc.append

theorem Call.run_openScope_grows (call : Call) (r : Registry) (conditions : List Predicate) :
    (Call.run call (r.openScope conditions).1 (r.openScope conditions).2).Grows r
      (call.growth (.opened conditions)) := by
  rw [r.openScope_eq_hold]
  exact Call.run_grows call r (.opened conditions)

theorem Call.runAll_openScope_grows (calls : List Call) (r : Registry)
    (conditions : List Predicate) :
    (Call.runAll calls (r.openScope conditions).1 (r.openScope conditions).2).Grows r
      (Call.growthOfAll calls (.opened conditions)) := by
  rw [r.openScope_eq_hold]
  exact Call.runAll_grows calls r (.opened conditions)

end BemRules
