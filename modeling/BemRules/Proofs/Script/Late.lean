import BemRules.Script.Run

namespace BemRules

def CallOutcome.succeeded (o : CallOutcome) : Bool :=
  match o.events.getLast? with
  | some (.called _ none) => true
  | _ => false

namespace Call

def terminates : Call → Bool
  | .narrow _ => false
  | .body _ | .bodies _ | .nest _ => true
  | .attempt call => terminates call

/-- How many of the calls give the chain children. -/
def attachments : List Call → Registry → Chain → Nat
  | [], _, _ => 0
  | call :: rest, r, c =>
    let o := Call.run call r c
    (call.terminates && o.succeeded).toNat +
      match o.error with
      | some _ => 0
      | none => attachments rest o.registry o.chain

end Call

theorem Registry.closed_of_attach (r : Registry) {c : Chain} {entries : List Entry}
    {closed : Registry × Chain} (h : r.attach c entries = .ok closed) :
    c.closed = false ∧ closed.2.closed = true := by
  rw [attach] at h
  split at h
  · cases h
  · split at h
    · cases h
      exact ⟨Bool.eq_false_iff.mpr ‹_›, rfl⟩
    · cases h

namespace CallOutcome

variable (label : String) (events : List Event) (r : Registry) (c : Chain)

theorem succeeded_succeed : (succeed label events r c).succeeded = true := by
  simp [succeeded, succeed]

theorem succeeded_refuse (e : RegisterError) : (refuse label events r c e).succeeded = false := by
  simp [succeeded, refuse]

theorem closed_close (entries : List Entry) :
    (close label events r c entries).chain.closed.toNat =
      c.closed.toNat + (close label events r c entries).succeeded.toNat := by
  rw [close]
  cases h : r.attach c entries with
  | error e =>
    simp only [succeeded_refuse]
    rfl
  | ok closed =>
    obtain ⟨ho, hc⟩ := r.closed_of_attach h
    simp only [succeeded_succeed, ho]
    exact congrArg Bool.toNat hc

end CallOutcome

namespace Call

variable (r : Registry) {c : Chain}

theorem run_narrow_of_error {call : ConditionCall} {e : RegisterError}
    (h : call.conditions = .error e) (c : Chain) :
    run (.narrow call) r c = ⟨r, c, [.called call.label (some e)], some e⟩ := by
  rw [run, h]
  rfl

theorem run_narrow_of_closed (hc : c.closed) {call : ConditionCall} {ps : List Predicate}
    (h : call.conditions = .ok ps) :
    run (.narrow call) r c = ⟨r, c, [.called call.label none], none⟩ := by
  rw [run, h]
  simp only [r.narrow_of_closed hc]
  rfl

theorem close_of_closed (hc : c.closed) (label : String) (entries : List Entry) :
    CallOutcome.close label [] r c entries =
      ⟨r, c, [.called label (some .closedScope)], some .closedScope⟩ := by
  rw [CallOutcome.close, r.attach_of_closed hc]
  rfl

theorem run_nest_of_closed (hc : c.closed) (steps : List Step) :
    run (.nest steps) r c = ⟨r, c, [.called "nest" (some .closedScope)], some .closedScope⟩ := by
  rw [run, if_pos hc]
  rfl

theorem run_of_closed (hc : c.closed) (call : Call) :
    (run call r c).registry = r ∧ (run call r c).chain = c := by
  cases call with
  | narrow call =>
    cases h : call.conditions with
    | error e => rw [run_narrow_of_error r h]; exact ⟨rfl, rfl⟩
    | ok ps => rw [run_narrow_of_closed r hc h]; exact ⟨rfl, rfl⟩
  | body b => rw [run, close_of_closed r hc]; exact ⟨rfl, rfl⟩
  | bodies bs => rw [run, close_of_closed r hc]; exact ⟨rfl, rfl⟩
  | nest steps => rw [run_nest_of_closed r hc]; exact ⟨rfl, rfl⟩
  | attempt call => exact run_of_closed hc call

theorem runAll_of_closed (hc : c.closed) (calls : List Call) :
    (runAll calls r c).registry = r ∧ (runAll calls r c).chain = c := by
  induction calls with
  | nil => exact ⟨rfl, rfl⟩
  | cons call rest ih =>
    obtain ⟨hr, hchain⟩ := run_of_closed r hc call
    rw [runAll]
    cases (run call r c).error with
    | some e => exact ⟨hr, hchain⟩
    | none =>
      simp only [hr, hchain]
      exact ih

theorem runAll_append_registry (calls late : List Call) (c : Chain) :
    let o := runAll calls r c
    (runAll (calls ++ late) r c).registry =
      match o.error with
      | some _ => o.registry
      | none => (runAll late o.registry o.chain).registry := by
  induction calls generalizing r c with
  | nil => rfl
  | cons call rest ih =>
    rw [List.cons_append, runAll, runAll]
    cases he : (run call r c).error with
    | some e => simp only [he]
    | none => exact ih _ _

theorem closed_run (call : Call) (c : Chain) :
    (run call r c).chain.closed.toNat =
      c.closed.toNat + (call.terminates && (run call r c).succeeded).toNat := by
  cases call with
  | narrow call =>
    rw [run]
    cases call.conditions <;> rfl
  | body b => exact CallOutcome.closed_close _ _ r c _
  | bodies bs => exact CallOutcome.closed_close _ _ r c _
  | attempt call => exact closed_run call c
  | nest steps =>
    rw [run, terminates, Bool.true_and]
    split
    · rw [CallOutcome.succeeded_refuse]
      rfl
    · cases he : (Step.runAll steps r).error with
      | some e =>
        simp only [he, CallOutcome.succeeded_refuse]
        rfl
      | none =>
        simp only [he]
        exact CallOutcome.closed_close _ _ _ c _

/-- Every call that gives the chain children closes it, and nothing opens it again. -/
theorem closed_runAll (calls : List Call) (c : Chain) :
    (runAll calls r c).chain.closed.toNat = c.closed.toNat + attachments calls r c := by
  induction calls generalizing r c with
  | nil => rfl
  | cons call rest ih =>
    have hcall := closed_run r call c
    rw [runAll, attachments]
    cases (run call r c).error with
    | some e => exact hcall
    | none =>
      have hrest := ih (run call r c).registry (run call r c).chain
      simp only [hrest, hcall]
      omega

end Call

/-- A refused builder call changes nothing and opens no scope. On a closed chain no call changes
anything: the calls that would close it are refused, the steps of a nest do not run, and conditions
are checked and then ignored. So at most one call gives a chain its children, and what comes behind
that call leaves the registry alone, wherever the scope of the chain has gone. -/
theorem Registry.run_of_refused_or_late (r : Registry) :
    (∀ first calls e, first.conditions = .error e →
        Step.run (.chain first calls) r =
          ⟨r, [.called first.label (some e), .ended true r.depth r.templates.length], some e⟩) ∧
      (∀ call e c, call.conditions = .error e →
        Call.run (.narrow call) r c = ⟨r, c, [.called call.label (some e)], some e⟩) ∧
      (∀ c, c.closed = true →
        (∀ b, Call.run (.body b) r c =
          ⟨r, c, [.called "body" (some .closedScope)], some .closedScope⟩) ∧
        (∀ bs, Call.run (.bodies bs) r c =
          ⟨r, c, [.called "bodies" (some .closedScope)], some .closedScope⟩) ∧
        (∀ steps, Call.run (.nest steps) r c =
          ⟨r, c, [.called "nest" (some .closedScope)], some .closedScope⟩) ∧
        (∀ call ps, call.conditions = .ok ps →
          Call.run (.narrow call) r c = ⟨r, c, [.called call.label none], none⟩) ∧
        ∀ calls, (Call.runAll calls r c).registry = r) ∧
      ∀ conditions calls,
        let start := r.openScope conditions
        let o := Call.runAll calls start.1 start.2
        Call.attachments calls start.1 start.2 ≤ 1 ∧
          (Call.attachments calls start.1 start.2 = 1 ↔ o.chain.closed = true) ∧
          (o.chain.closed = true → ∀ late,
            (Call.runAll (calls ++ late) start.1 start.2).registry = o.registry) := by
  refine ⟨?_, fun call e c h => Call.run_narrow_of_error r h c, ?_, ?_⟩
  · intro first calls e h
    rw [Step.run, h]
    rfl
  · intro c hc
    exact ⟨fun b => Call.close_of_closed r hc _ _, fun bs => Call.close_of_closed r hc _ _,
      Call.run_nest_of_closed r hc, fun call ps h => Call.run_narrow_of_closed r hc h,
      fun calls => (Call.runAll_of_closed r hc calls).1⟩
  · intro conditions calls start o
    have hcount : o.chain.closed.toNat = 0 + Call.attachments calls start.1 start.2 :=
      Call.closed_runAll start.1 calls start.2
    rw [Nat.zero_add] at hcount
    refine ⟨?_, ?_, ?_⟩
    · rw [← hcount]
      exact o.chain.closed.toNat_le
    · rw [← hcount, Bool.toNat_eq_one]
    · intro hc late
      rw [Call.runAll_append_registry]
      cases o.error with
      | some e => rfl
      | none => exact (Call.runAll_of_closed _ hc late).1

end BemRules
