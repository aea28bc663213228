import BemRules.Proofs.Script.Tidy

namespace BemRules

/-- The nests that run at a point between two steps, and the scopes closed inside of them that have
not been taken in. A scope that is closed outside of all nests becomes templates at once. -/
structure Point where
  running : Nat
  waiting : Nat
  waiting_of_top : running = 0 → waiting = 0

namespace Point

def depth (p : Point) : Nat := p.running + p.waiting

def start : Point := ⟨0, 0, fun _ => rfl⟩

def enter (p : Point) : Point := ⟨p.running + 1, p.waiting, nofun⟩

def behind (p : Point) (closed : Bool) : Point :=
  if h : closed ∧ 0 < p.running then
    ⟨p.running, p.waiting + 1, fun hz => absurd hz (Nat.ne_of_gt h.2)⟩
  else p

theorem depth_enter (p : Point) : p.enter.depth = p.depth + 1 := by
  simp only [depth, enter]
  omega

theorem depth_of_top {p : Point} (hz : p.running = 0) : p.depth = 0 := by
  rw [depth, hz, p.waiting_of_top hz]

theorem behind_of_top {p : Point} (hz : p.running = 0) (closed : Bool) : p.behind closed = p :=
  dif_neg fun h => Nat.ne_of_gt h.2 hz

theorem depth_behind_of_nested {p : Point} (hr : 0 < p.running) (closed : Bool) :
    (p.behind closed).depth = p.depth + closed.toNat := by
  cases closed with
  | false => rfl
  | true =>
    rw [behind, dif_pos ⟨rfl, hr⟩]
    exact (Nat.add_assoc _ _ _).symm

end Point

/-- The state of a chain behind the calls, up to the first that fails. -/
def Call.stateOfAll : List Call → ChainState → ChainState
  | [], c => c
  | call :: rest, c =>
    let (m, next) := Call.meaning [] call c
    match m.error with
    | some _ => next
    | none => Call.stateOfAll rest next

def Step.closes : Step → Bool
  | .onInit _ => false
  | .look => false
  | .fail _ => false
  | .chain first calls =>
    match first.conditions with
    | .error _ => false
    | .ok conditions => (Call.stateOfAll calls ⟨conditions, false⟩).closed
  | .attempt s => Step.closes s

mutual

/-- The points of a step that starts at the given point: those of its nests, and the one behind it.
A look shows the point in front of it as well. -/
def Step.points : Step → Point → List Point
  | .onInit _, p => [p]
  | .look, p => [p, p]
  | .fail _, p => [p]
  | .chain first calls, p =>
    match first.conditions with
    | .error _ => [p]
    | .ok conditions =>
      let c : ChainState := ⟨conditions, false⟩
      Call.pointsOfAll calls c p ++ [p.behind (Call.stateOfAll calls c).closed]
  | .attempt s, p => Step.points s p

def Step.pointsOfAll : List Step → Point → List Point
  | [], _ => []
  | s :: rest, p =>
    Step.points s p ++
      match (Step.meaning [] s).error with
      | some _ => []
      | none => Step.pointsOfAll rest (p.behind s.closes)

def Call.points : Call → ChainState → Point → List Point
  | .nest steps, c, p => if c.closed then [] else p.enter :: Step.pointsOfAll steps p.enter
  | .attempt call, c, p => Call.points call c p
  | .narrow _, _, _ => []
  | .body _, _, _ => []
  | .bodies _, _, _ => []

def Call.pointsOfAll : List Call → ChainState → Point → List Point
  | [], _, _ => []
  | call :: rest, c, p =>
    let (m, next) := Call.meaning [] call c
    Call.points call c p ++
      match m.error with
      | some _ => []
      | none => Call.pointsOfAll rest next p

end

def Script.points (s : Script) : List Point := Step.pointsOfAll s .start

def Event.depth? : Event → Option Nat
  | .called _ _ => none
  | .entered depth => some depth
  | .looked depth _ => some depth
  | .ended _ depth _ => some depth

def depthsOf (events : List Event) : List Nat := events.filterMap Event.depth?

@[simp] theorem depthsOf_append (events later : List Event) :
    depthsOf (events ++ later) = depthsOf events ++ depthsOf later :=
  List.filterMap_append

@[simp] theorem depthsOf_called (label : String) (error : Option RegisterError)
    (events : List Event) : depthsOf (.called label error :: events) = depthsOf events := rfl

@[simp] theorem depthsOf_entered (depth : Nat) (events : List Event) :
    depthsOf (.entered depth :: events) = depth :: depthsOf events := rfl

theorem Outcome.depths_ofStep (r : Registry) (events : List Event)
    (error : Option RegisterError) :
    depthsOf (ofStep r events error).events = depthsOf events ++ [r.depth] := by
  rw [ofStep, depthsOf_append]
  rfl

namespace CallOutcome

variable (label : String) (events : List Event) (r : Registry) (c : Chain)

theorem depths_succeed : depthsOf (succeed label events r c).events = depthsOf events := by
  rw [succeed, depthsOf_append, depthsOf_called]
  exact List.append_nil _

theorem depths_refuse (e : RegisterError) :
    depthsOf (refuse label events r c e).events = depthsOf events := by
  rw [refuse, depthsOf_append, depthsOf_called]
  exact List.append_nil _

theorem depths_close (entries : List Entry) :
    depthsOf (close label events r c entries).events = depthsOf events := by
  rw [close]
  cases r.attach c entries with
  | ok p => exact depths_succeed label events p.1 p.2
  | error e => exact depths_refuse label events r c e

end CallOutcome

theorem Call.state_growthOfAll (calls : List Call) (h : Held) :
    (Call.growthOfAll calls h).held.state = Call.stateOfAll calls h.state := by
  induction calls generalizing h with
  | nil => rfl
  | cons call rest ih =>
    have hagrees := Call.growth_agrees [] call h
    have he : (call.growth h).error = (Call.meaning [] call h.state).1.error :=
      hagrees.growth.error
    rw [growthOfAll, stateOfAll]
    simp only [he]
    cases (Call.meaning [] call h.state).1.error with
    | some e => exact hagrees.state
    | none =>
      rw [← hagrees.state]
      exact ih _

theorem Step.closes_iff (s : Step) : s.closes ↔ s.growth.scopes ≠ [] := by
  cases s with
  | onInit i => simp [closes, growth]
  | look => simp [closes, growth]
  | fail e => simp [closes, growth]
  | attempt s => exact Step.closes_iff s
  | chain first calls =>
    rw [closes, growth]
    cases first.conditions with
    | error e => simp
    | ok conditions =>
      have hs : (Call.growthOfAll calls (.opened conditions)).held.closed =
          (Call.stateOfAll calls ⟨conditions, false⟩).closed :=
        congrArg ChainState.closed (Call.state_growthOfAll calls (.opened conditions))
      cases hc : (Call.growthOfAll calls (.opened conditions)).held.closed <;>
        simp [← hs, CallGrowth.release, Held.remains, Held.scopes, hc]

theorem Step.length_scopes_growth (s : Step) (ht : s.tidy) :
    s.growth.scopes.length = s.closes.toNat := by
  have hsingle : s.growth.scopes.length ≤ 1 := (s.tidy_means [] ht).single
  have hcloses := s.closes_iff
  cases hs : s.growth.scopes with
  | nil =>
    have hno : s.closes = false := by simpa [hs] using hcloses
    rw [hno]
    rfl
  | cons top below =>
    have hyes : s.closes = true := by simpa [hs] using hcloses
    rw [hs, List.length_cons] at hsingle
    rw [List.length_cons, hyes, Bool.toNat_true]
    omega

section

variable {r : Registry} {p : Point} (hp : r.depth = p.depth)
include hp

theorem Registry.depth_hold_of_point {h : Held} (ho : h.closed = false) (ha : h.above = []) :
    (r.hold h).depth = p.enter.depth := by
  rw [r.depth_hold_of_open h ho, ha, hp, p.depth_enter]
  rfl

theorem Step.depth_run_of_point {s : Step} (ht : s.tidy) :
    (Step.run s r).registry.depth = (p.behind s.closes).depth := by
  have hlen := s.length_scopes_growth ht
  rw [(s.run_grows r).registry]
  by_cases hz : p.running = 0
  · have hr : r.depth = 0 := hp.trans (Point.depth_of_top hz)
    have hle := s.closes.toNat_le
    rw [r.depth_grow_of_empty hr, Point.behind_of_top hz, Point.depth_of_top hz, hlen]
    omega
  · have hr : 0 < r.depth := by
      rw [hp, Point.depth]
      omega
    rw [r.depth_grow_of_pos hr, Point.depth_behind_of_nested (Nat.pos_of_ne_zero hz), hlen, hp]

end

mutual

theorem Step.depths_run (s : Step) (ht : s.tidy) {r : Registry} {p : Point}
    (hp : r.depth = p.depth) :
    depthsOf (Step.run s r).events = (s.points p).map Point.depth := by
  have hbehind := Step.depth_run_of_point hp ht
  cases s with
  | onInit i => exact congrArg (fun d => [d]) hp
  | look => exact congrArg (fun d => [d, d]) hp
  | fail e => exact congrArg (fun d => [d]) hp
  | attempt s => exact Step.depths_run s ht hp
  | chain first calls =>
    rw [Step.tidy] at ht
    rw [Step.run, Step.closes] at hbehind
    rw [Step.run, Step.points]
    cases hfirst : first.conditions with
    | error e =>
      simp only [Outcome.depths_ofStep, hp]
      rfl
    | ok conditions =>
      simp only [hfirst] at ht hbehind
      have ho : r.openScope conditions = (r.hold (.opened conditions), ⟨r.depth + 1, false⟩) :=
        r.openScope_eq_hold conditions
      have hcalls : depthsOf (Call.runAll calls (r.openScope conditions).1
          (r.openScope conditions).2).events =
            (Call.pointsOfAll calls ⟨conditions, false⟩ p).map Point.depth := by
        rw [ho]
        exact Call.depths_runAll calls (.opened conditions) (Held.fresh_opened conditions) rfl ht hp
      simp only [Outcome.depths_ofStep, depthsOf_called, hcalls, List.map_append]
      exact congrArg (_ ++ [·]) hbehind

theorem Step.depths_runAll (steps : List Step) (ht : Step.tidyAll steps) {r : Registry} {p : Point}
    (hp : r.depth = p.depth) :
    depthsOf (Step.runAll steps r).events = (Step.pointsOfAll steps p).map Point.depth := by
  cases steps with
  | nil => rfl
  | cons s rest =>
    rw [Step.tidyAll] at ht
    simp only [Bool.and_eq_true, Bool.or_eq_true] at ht
    have hs := Step.depths_run s ht.1 hp
    have he : (Step.run s r).error = (s.meaning []).error :=
      (s.run_grows r).error.trans (s.growth_agrees []).error
    rw [Step.runAll, Step.pointsOfAll]
    simp only [he]
    cases hm : (s.meaning []).error with
    | some e => simpa using hs
    | none =>
      have hrest : Step.tidyAll rest := by simpa [hm] using ht.2
      have hnext := Step.depths_runAll rest hrest (Step.depth_run_of_point hp ht.1)
      rw [depthsOf_append, hs, hnext, List.map_append]

theorem Call.depths_run (call : Call) (h : Held) (ha : h.above = []) (ht : call.tidy h.state)
    {r : Registry} {p : Point} (hp : r.depth = p.depth) :
    depthsOf (Call.run call (r.hold h) ⟨r.depth + 1, h.closed⟩).events =
      (Call.points call h.state p).map Point.depth := by
  cases call with
  | narrow call =>
    rw [Call.run]
    cases call.conditions with
    | error e => rfl
    | ok conditions => rfl
  | body b => exact CallOutcome.depths_close _ _ _ _ _
  | bodies bs => exact CallOutcome.depths_close _ _ _ _ _
  | attempt call => exact Call.depths_run call h ha ht hp
  | nest steps =>
    rw [Call.run, Call.points]
    cases hc : h.closed with
    | true =>
      simp only [Held.state, hc, if_true]
      exact CallOutcome.depths_refuse _ _ _ _ _
    | false =>
      have hsteps : Step.tidyAll steps := by simpa [Call.tidy, Held.state, hc] using ht
      have henter := Registry.depth_hold_of_point hp hc ha
      have hrun := Step.depths_runAll steps hsteps henter
      simp only [Held.state, hc, Bool.false_eq_true, if_false, List.map_cons]
      cases he : (Step.runAll steps (r.hold h)).error with
      | some e =>
        simp only [CallOutcome.depths_refuse, depthsOf_entered, hrun, henter]
      | none =>
        simp only [CallOutcome.depths_close, depthsOf_entered, hrun, henter]

theorem Call.depths_runAll (calls : List Call) (h : Held) (hf : h.Fresh) (ha : h.above = [])
    (ht : Call.tidyAll calls h.state) {r : Registry} {p : Point} (hp : r.depth = p.depth) :
    depthsOf (Call.runAll calls (r.hold h) ⟨r.depth + 1, h.closed⟩).events =
      (Call.pointsOfAll calls h.state p).map Point.depth := by
  cases calls with
  | nil => rfl
  | cons call rest =>
    rw [Call.tidyAll] at ht
    simp only [Bool.and_eq_true, Bool.or_eq_true] at ht
    obtain ⟨htidy, hnext⟩ := ht
    have hcall := Call.depths_run call h ha htidy hp
    have hgrows := Call.run_grows call r h
    have hagrees := Call.growth_agrees [] call h
    have he : (call.growth h).error = (Call.meaning [] call h.state).1.error :=
      hagrees.growth.error
    rw [Call.runAll, Call.pointsOfAll]
    simp only [hgrows.error, he]
    cases hm : (Call.meaning [] call h.state).1.error with
    | some e => simpa using hcall
    | none =>
      simp only [hm, Option.isSome_none, Bool.false_eq_true, false_or] at hnext
      obtain ⟨hlast, hrest⟩ := hnext
      rw [depthsOf_append, hcall, List.map_append]
      refine congrArg (_ ++ ·) ?_
      cases rest with
      | nil => rfl
      | cons next rest =>
        -- calls follow, so the nest of this one has not failed and nothing stands above the chain
        have hno : call.nestFails h.state = false := by simpa using hlast
        have hclear := (Call.tidy_means [] call h hf ha htidy).2 hno
        rw [← hagrees.state] at hrest ⊢
        rw [hgrows.registry, hgrows.chain]
        exact Call.depths_runAll (next :: rest) _ (call.fresh_growth hf) hclear hrest
          (r := r.addInitializers (call.growth h).initializers) hp

end

/-- At every point between two steps, at the top level and in nests, the stack is as deep as there
are nests that run and closed scopes that wait for them. So its depth is the number of scopes that
are open exactly where none waits. -/
theorem Script.depths_eq_running_iff (s : Script) (ht : s.tidy) :
    depthsOf s.run.events = s.points.map Point.depth ∧
      (depthsOf s.run.events = s.points.map Point.running ↔ ∀ p ∈ s.points, p.waiting = 0) := by
  have hrun : depthsOf s.run.events = s.points.map Point.depth :=
    Step.depths_runAll s ht (rfl : ({} : Registry).depth = Point.start.depth)
  refine ⟨hrun, ?_⟩
  rw [hrun, List.map_inj_left]
  simp only [Point.depth, Nat.add_eq_left]

/-- Of the scopes nested in the first, two are closed, one of them by a nest of its own. Between
them one is given up, because its nest has failed. -/
def Script.shelf : Script :=
  [.chain (.block "shelf")
    [.nest
      [.chain (.elem "board") [.body (.value .null)],
        .attempt (.chain (.elem "gap")
          [.nest [.chain (.mode "tag") [.body (.value .null)], .fail .missingPredicate]]),
        .chain (.elem "box") [.nest [.look, .chain (.mode "js") [.body (.value .null)]]]]]]

theorem Script.depths_shelf :
    Script.shelf.tidy ∧ depthsOf Script.shelf.run.events = [1, 2, 3, 4, 4, 2, 3, 3, 3, 4, 3, 0] ∧
      Script.shelf.points.map Point.running = [1, 1, 2, 2, 2, 1, 2, 2, 2, 2, 1, 0] := by
  obtain ⟨hrun, -⟩ := Script.depths_eq_running_iff Script.shelf rfl
  exact ⟨rfl, hrun.trans rfl, rfl⟩

/-- A scope that is closed in a nest still counts behind its step, although it is open no more. -/
theorem Script.not_depths_eq_running :
    ¬ ∀ s : Script, s.tidy → depthsOf s.run.events = s.points.map Point.running := by
  intro h
  have hs : ([1, 2, 0] : List Nat) = [1, 1, 0] :=
    h [.chain (.block "b") [.nest [.chain (.elem "e") [.body (.value .null)]]]] rfl
  exact absurd hs (by decide)

end BemRules
