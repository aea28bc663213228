import BemRules.Proofs.Script.Depth
import BemRules.Proofs.Script.Sequence
import BemRules.Proofs.Script.Tidy

namespace BemRules

def Event.failed : Event → Bool
  | .called _ error => error.isSome
  | .entered _ => false
  | .looked _ _ => false
  | .ended failed _ _ => failed

/-- No call and no step of the run has failed, not even inside an attempt. -/
def Unfailing (events : List Event) : Bool := events.all fun e => !e.failed

@[simp] theorem unfailing_cons (e : Event) (events : List Event) :
    Unfailing (e :: events) ↔ e.failed = false ∧ Unfailing events := by
  simp [Unfailing]

@[simp] theorem unfailing_append (events later : List Event) :
    Unfailing (events ++ later) ↔ Unfailing events ∧ Unfailing later := by
  simp [Unfailing]

theorem Outcome.unfailing_ofStep {r : Registry} {events : List Event}
    {error : Option RegisterError} (h : Unfailing (ofStep r events error).events) :
    Unfailing events ∧ error = none := by
  obtain ⟨hevents, hended⟩ := (unfailing_append _ _).mp h
  exact ⟨hevents, by simpa [Unfailing, Event.failed] using hended⟩

theorem CallOutcome.not_unfailing_refuse (label : String) (events : List Event) (r : Registry)
    (c : Chain) (e : RegisterError) : ¬ Unfailing (refuse label events r c e).events := by
  simp [refuse, Event.failed]

theorem CallOutcome.unfailing_close {label : String} {events : List Event} {r : Registry}
    {c : Chain} {entries : List Entry} (h : Unfailing (close label events r c entries).events) :
    Unfailing events ∧ (close label events r c entries).error = none := by
  rw [close] at h ⊢
  cases ha : r.attach c entries with
  | error e =>
    rw [ha] at h
    exact absurd h (not_unfailing_refuse _ _ _ _ _)
  | ok p =>
    rw [ha] at h
    exact ⟨((unfailing_append _ _).mp h).1, rfl⟩

theorem Step.error_of_unfailing {s : Step} {r : Registry} (h : Unfailing (s.run r).events) :
    (s.run r).error = none := by
  cases s with
  | onInit i => rfl
  | look => rfl
  | fail e => exact (Outcome.unfailing_ofStep h).2
  | attempt s => rfl
  | chain first calls =>
    rw [run] at h ⊢
    cases hf : first.conditions with
    | error e =>
      rw [hf] at h
      exact (Outcome.unfailing_ofStep h).2
    | ok conditions =>
      rw [hf] at h
      exact (Outcome.unfailing_ofStep h).2

theorem Step.unfailing_runAll_cons {s : Step} {rest : List Step} {r : Registry}
    (h : Unfailing (Step.runAll (s :: rest) r).events) :
    Unfailing (s.run r).events ∧ Unfailing (Step.runAll rest (s.run r).registry).events := by
  rw [runAll] at h
  cases he : (s.run r).error with
  | some e =>
    simp only [he] at h
    rw [error_of_unfailing h] at he
    contradiction
  | none =>
    simp only [he] at h
    exact (unfailing_append _ _).mp h

theorem Step.error_runAll_of_unfailing {steps : List Step} {r : Registry}
    (h : Unfailing (Step.runAll steps r).events) : (Step.runAll steps r).error = none := by
  induction steps generalizing r with
  | nil => rfl
  | cons s rest ih =>
    obtain ⟨hs, hrest⟩ := unfailing_runAll_cons h
    rw [runAll]
    simp only [error_of_unfailing hs]
    exact ih hrest

theorem Call.unfailing_nest {steps : List Step} {r : Registry} {c : Chain}
    (h : Unfailing (Call.run (.nest steps) r c).events) :
    c.closed = false ∧ Unfailing (Step.runAll steps r).events := by
  rw [run] at h
  split at h
  next => exact absurd h (CallOutcome.not_unfailing_refuse _ _ _ _ _)
  next hc =>
    refine ⟨Bool.not_eq_true _ ▸ hc, ?_⟩
    cases he : (Step.runAll steps r).error with
    | some e =>
      simp only [he] at h
      exact absurd h (CallOutcome.not_unfailing_refuse _ _ _ _ _)
    | none =>
      simp only [he] at h
      exact ((unfailing_cons _ _).mp (CallOutcome.unfailing_close h).1).2

theorem Call.error_of_unfailing {call : Call} {r : Registry} {c : Chain}
    (h : Unfailing (call.run r c).events) : (call.run r c).error = none := by
  cases call with
  | attempt call => rfl
  | body b => exact (CallOutcome.unfailing_close h).2
  | bodies bs => exact (CallOutcome.unfailing_close h).2
  | narrow call =>
    rw [run] at h ⊢
    cases hc : call.conditions with
    | ok conditions => rfl
    | error e =>
      rw [hc] at h
      exact absurd h (CallOutcome.not_unfailing_refuse _ _ _ _ _)
  | nest steps =>
    obtain ⟨hc, hsteps⟩ := unfailing_nest h
    rw [run] at h ⊢
    simp only [hc, Bool.false_eq_true, if_false, Step.error_runAll_of_unfailing hsteps] at h ⊢
    exact (CallOutcome.unfailing_close h).2

theorem Call.unfailing_runAll_cons {call : Call} {rest : List Call} {r : Registry} {c : Chain}
    (h : Unfailing (Call.runAll (call :: rest) r c).events) :
    Unfailing (call.run r c).events ∧
      Unfailing (Call.runAll rest (call.run r c).registry (call.run r c).chain).events := by
  rw [runAll] at h
  cases he : (call.run r c).error with
  | some e =>
    simp only [he] at h
    rw [error_of_unfailing h] at he
    contradiction
  | none =>
    simp only [he] at h
    exact (unfailing_append _ _).mp h

mutual

theorem Step.tidy_of_unfailing (s : Step) (r : Registry) (h : Unfailing (s.run r).events) :
    s.tidy := by
  cases s with
  | onInit i => rfl
  | look => rfl
  | fail e => rfl
  | attempt s => exact Step.tidy_of_unfailing s r h
  | chain first calls =>
    rw [Step.run] at h
    rw [Step.tidy]
    cases hf : first.conditions with
    | error e => rfl
    | ok conditions =>
      have ho : r.openScope conditions = (r.hold (.opened conditions), ⟨r.depth + 1, false⟩) :=
        r.openScope_eq_hold conditions
      simp only [hf, ho] at h
      obtain ⟨hcalls, -⟩ := Outcome.unfailing_ofStep h
      exact Call.tidyAll_of_unfailing calls r (.opened conditions)
        ((unfailing_cons _ _).mp hcalls).2

theorem Step.tidyAll_of_unfailing (steps : List Step) (r : Registry)
    (h : Unfailing (Step.runAll steps r).events) : Step.tidyAll steps := by
  cases steps with
  | nil => rfl
  | cons s rest =>
    obtain ⟨hs, hrest⟩ := Step.unfailing_runAll_cons h
    have htidy := Step.tidy_of_unfailing s r hs
    have hall := Step.tidyAll_of_unfailing rest _ hrest
    simp [Step.tidyAll, htidy, hall]

theorem Call.tidy_of_unfailing (call : Call) (r : Registry) (h : Held)
    (hu : Unfailing (call.run (r.hold h) ⟨r.depth + 1, h.closed⟩).events) :
    call.tidy h.state ∧ call.nestFails h.state = false := by
  cases call with
  | narrow call => exact ⟨rfl, rfl⟩
  | body b => exact ⟨rfl, rfl⟩
  | bodies bs => exact ⟨rfl, rfl⟩
  | attempt call => exact Call.tidy_of_unfailing call r h hu
  | nest steps =>
    obtain ⟨hc, hsteps⟩ := Call.unfailing_nest hu
    have hd : 0 < (r.hold h).depth := by
      rw [r.depth_hold_of_open h hc]
      omega
    have hrun := (Step.runAll_grows steps (r.hold h) hd).error
    have hmeans := (Step.growthOfAll_agrees [] steps).error
    have he : (Step.meaningOfAll [] steps).error = none :=
      hmeans.symm.trans (hrun.symm.trans (Step.error_runAll_of_unfailing hsteps))
    have hall := Step.tidyAll_of_unfailing steps _ hsteps
    simp [Call.tidy, Call.nestFails, hall, he]

theorem Call.tidyAll_of_unfailing (calls : List Call) (r : Registry) (h : Held)
    (hu : Unfailing (Call.runAll calls (r.hold h) ⟨r.depth + 1, h.closed⟩).events) :
    Call.tidyAll calls h.state := by
  cases calls with
  | nil => rfl
  | cons call rest =>
    obtain ⟨hcall, hrest⟩ := Call.unfailing_runAll_cons hu
    obtain ⟨htidy, hnest⟩ := Call.tidy_of_unfailing call r h hcall
    have hgrows := Call.run_grows call r h
    rw [hgrows.registry, hgrows.chain] at hrest
    have hall := Call.tidyAll_of_unfailing rest (r.addInitializers (call.growth h).initializers)
      (call.growth h).held hrest
    rw [(call.growth_agrees [] h).state] at hall
    simp [Call.tidyAll, htidy, hnest, hall]

end

theorem Script.tidy_of_unfailing (s : Script) (h : Unfailing s.run.events) : s.tidy :=
  Step.tidyAll_of_unfailing s {} h

theorem Step.registers_of_unfailing (s : Step) (h : Unfailing (s.run {}).events) :
    s.Registers := by
  refine ⟨Step.error_of_unfailing h, ?_⟩
  have htidy := Step.tidy_of_unfailing s {} h
  rw [Registry.depth_run_of_empty s {} rfl, s.settled_iff]
  exact (s.tidy_means [] htidy).single

end BemRules
