import BemRules.Proofs.Script.Simulation
import BemRules.Script.Meaning

namespace BemRules

def Held.state (h : Held) : ChainState := ⟨h.scope.conditions, h.closed⟩

structure Growth.Agrees (g : Growth) (m : Meaning) : Prop where
  initializers : g.initializers = m.initializers
  error : g.error = m.error

structure CallGrowth.Agrees (g : CallGrowth) (m : Meaning × ChainState) : Prop where
  state : g.held.state = m.2
  growth : g.release.Agrees m.1

theorem CallGrowth.close_agrees (h : Held) (entries : List Entry) (ts : List Template) :
    (CallGrowth.close h entries).Agrees
      (if h.closed then (.failed .closedScope, h.state)
      else ({ templates := ts }, { h.state with closed := true })) := by
  cases hc : h.closed with
  | true => refine ⟨?_, ?_, ?_⟩ <;> simp [close, release, Meaning.failed, hc]
  | false => refine ⟨?_, ?_, ?_⟩ <;> simp [close, release, Held.close, Held.state, hc]

mutual

theorem Step.growth_agrees (above : List Predicate) (s : Step) :
    s.growth.Agrees (s.meaning above) := by
  cases s with
  | onInit i => exact ⟨rfl, rfl⟩
  | look => exact ⟨rfl, rfl⟩
  | fail e => exact ⟨rfl, rfl⟩
  | attempt s => exact ⟨(Step.growth_agrees above s).initializers, rfl⟩
  | chain first calls =>
    rw [Step.growth, Step.meaning]
    cases first.conditions with
    | error e => exact ⟨rfl, rfl⟩
    | ok conditions => exact Call.growthOfAll_agrees above calls (.opened conditions)

theorem Step.growthOfAll_agrees (above : List Predicate) (steps : List Step) :
    (Step.growthOfAll steps).Agrees (Step.meaningOfAll above steps) := by
  cases steps with
  | nil => exact ⟨rfl, rfl⟩
  | cons s rest =>
    have h := Step.growth_agrees above s
    have hrest := Step.growthOfAll_agrees above rest
    rw [Step.growthOfAll, Step.meaningOfAll]
    simp only [h.error]
    cases he : (s.meaning above).error with
    | some e => exact h
    | none =>
      refine ⟨?_, hrest.error⟩
      simp only [Growth.append, Meaning.append, h.initializers, hrest.initializers]

theorem Call.growth_agrees (above : List Predicate) (call : Call) (h : Held) :
    (call.growth h).Agrees (Call.meaning above call h.state) := by
  cases call with
  | narrow call =>
    rw [Call.growth, Call.meaning]
    cases call.conditions with
    | error e => exact ⟨rfl, rfl, rfl⟩
    | ok conditions =>
      cases hc : h.closed <;> refine ⟨?_, ?_, ?_⟩ <;>
        simp [Held.narrow, Held.state, CallGrowth.release, hc]
  | body b => exact CallGrowth.close_agrees h _ _
  | bodies bs => exact CallGrowth.close_agrees h _ _
  | attempt call =>
    have hcall := Call.growth_agrees above call h
    exact ⟨hcall.state, hcall.growth.initializers, rfl⟩
  | nest steps =>
    have hs := Step.growthOfAll_agrees (above ++ h.scope.conditions) steps
    rw [Call.growth, Call.meaning]
    cases hc : h.closed with
    | true => refine ⟨?_, ?_, ?_⟩ <;> simp [CallGrowth.release, Meaning.failed, Held.state, hc]
    | false =>
      simp only [Held.state, hc, Bool.false_eq_true, if_false, hs.error]
      cases he : (Step.meaningOfAll (above ++ h.scope.conditions) steps).error with
      | some e => exact ⟨by simp [Held.state, Held.cover, hc], hs.initializers, rfl⟩
      | none => exact ⟨rfl, hs.initializers, he.symm⟩

theorem Call.growthOfAll_agrees (above : List Predicate) (calls : List Call) (h : Held) :
    (Call.growthOfAll calls h).release.Agrees (Call.meaningOfAll above calls h.state) := by
  cases calls with
  | nil => exact ⟨rfl, rfl⟩
  | cons call rest =>
    have hcall := Call.growth_agrees above call h
    have hrest := Call.growthOfAll_agrees above rest (call.growth h).held
    rw [hcall.state] at hrest
    have he : (call.growth h).error = (Call.meaning above call h.state).1.error :=
      hcall.growth.error
    rw [Call.growthOfAll, Call.meaningOfAll]
    simp only [he]
    cases hm : (Call.meaning above call h.state).1.error with
    | some e => exact hcall.growth
    | none =>
      have hi : (call.growth h).initializers = (Call.meaning above call h.state).1.initializers :=
        hcall.growth.initializers
      refine ⟨?_, hrest.error⟩
      rw [Meaning.append, ← hi, ← hrest.initializers]
      rfl

end

end BemRules
