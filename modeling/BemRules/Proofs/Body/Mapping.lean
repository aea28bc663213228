import BemRules.Proofs.Body.Requests
import BemRules.Proofs.Value.Merge

namespace BemRules

/-- The object that entries make up in which a key may come again: its keys are in the order in
which they first come, and each holds what comes with it last. -/
structure Fields.Collected {α : Type} (entries : List (String × α)) (fields : Fields α) : Prop where
  keys : keys fields = (keys entries).eraseDups
  value : ∀ k, get? fields k = get? entries.reverse k

theorem Fields.collected_iff {α : Type} {entries : List (String × α)} {fields : Fields α} :
    Collected entries fields ↔ fields = ofEntries entries := by
  have hnil : Distinct ([] : Fields α) := List.nodup_nil
  have hkeys : keys (ofEntries entries) = (keys entries).eraseDups := keys_merge hnil entries
  constructor
  · intro h
    refine (eq_of_keys_of_get? (distinct_merge hnil entries) (hkeys.trans h.keys.symm) ?_).symm
    exact fun k => (get?_ofEntries entries k).trans (h.value k).symm
  · rintro rfl
    exact ⟨hkeys, get?_ofEntries entries⟩

namespace Renderer

variable {σ α β : Type} {h : Host σ}

/-- What a renderer gives, which requests it makes, and where it stops. -/
structure Renders (h : Host σ) (r : Renderer α) (start : Context × σ) (a : α)
    (requests : List (Request × Context)) (last : Context × σ) : Prop where
  run : (r start.1).run h start.2 = (a, last)
  requests : (r start.1).requests h start.2 = requests

theorem renders_pure (a : α) (start : Context × σ) : Renders h (pure a) start a [] start :=
  ⟨rfl, rfl⟩

theorem Renders.bind {r : Renderer α} {f : α → Renderer β} {start mid last : Context × σ} {a : α}
    {b : β} {before behind : List (Request × Context)} (hr : Renders h r start a before mid)
    (hf : Renders h (f a) mid b behind last) :
    Renders h (r >>= f) start b (before ++ behind) last where
  run := by
    refine (Render.run_bind h (r start.1) f start.2).trans ?_
    rw [hr.run]
    exact hf.run
  requests := by
    rw [requests_bind, hr.requests, hr.run]
    exact congrArg (before ++ ·) hf.requests

theorem Renders.map {r : Renderer α} {start last : Context × σ} {a : α}
    {requests : List (Request × Context)} (hr : Renders h r start a requests last) (g : α → β) :
    Renders h (r >>= fun a => pure (g a)) start (g a) requests last := by
  have hbind : Renders h (r >>= fun a => pure (g a)) start (g a) (requests ++ []) last :=
    hr.bind (renders_pure (g a) last)
  rwa [List.append_nil] at hbind

/-- Renderers called one after the other, each once and from where the one before it stopped: what
they give in turn, all the requests they make, and where the last one stops. -/
inductive InTurn (h : Host σ) : List (Renderer α) → Context × σ → List α →
    List (Request × Context) → Context × σ → Prop
  | nil (start : Context × σ) : InTurn h [] start [] [] start
  | cons {f : Renderer α} {fs : List (Renderer α)} {start next last : Context × σ} {a : α}
      {answers : List α} {before behind : List (Request × Context)}
      (hf : Renders h f start a before next) (hfs : InTurn h fs next answers behind last) :
      InTurn h (f :: fs) start (a :: answers) (before ++ behind) last

theorem InTurn.append {fs gs : List (Renderer α)} {start mid last : Context × σ}
    {as bs : List α} {before behind : List (Request × Context)}
    (hfs : InTurn h fs start as before mid) (hgs : InTurn h gs mid bs behind last) :
    InTurn h (fs ++ gs) start (as ++ bs) (before ++ behind) last := by
  induction hfs with
  | nil start => exact hgs
  | cons hf _ ih =>
    rw [List.append_assoc]
    exact .cons hf (ih hgs)

end Renderer

namespace Body

mutual

def callables : Body → List (Renderer Value)
  | .value _ => []
  | .func f => [f]
  | .mapping entries => callablesOf entries

def callablesOf : List (String × Body) → List (Renderer Value)
  | [] => []
  | (_, b) :: rest => callables b ++ callablesOf rest

end

mutual

/-- The value that a body denotes when its callables, depth first and from left to right, give the
answers. -/
inductive Denotes : Body → List Value → Value → Prop
  | value (v : Value) : Denotes (.value v) [] v
  | func (f : Renderer Value) (v : Value) : Denotes (.func f) [v] v
  | mapping {entries : List (String × Body)} {answers : List Value}
      {pairs : List (String × Value)} {fields : Object} (hentries : Each entries answers pairs)
      (hfields : Fields.Collected pairs fields) : Denotes (.mapping entries) answers (.obj fields)

inductive Each : List (String × Body) → List Value → List (String × Value) → Prop
  | nil : Each [] [] []
  | cons {k : String} {b : Body} {entries : List (String × Body)} {here behind : List Value}
      {v : Value} {pairs : List (String × Value)} (hb : Denotes b here v)
      (hentries : Each entries behind pairs) :
      Each ((k, b) :: entries) (here ++ behind) ((k, v) :: pairs)

end

mutual

theorem Denotes.length_eq {b : Body} {answers : List Value} {v : Value} (h : Denotes b answers v) :
    answers.length = b.callables.length := by
  cases h with
  | value v => rfl
  | func f v => rfl
  | mapping hentries _ => exact hentries.length_eq

theorem Each.length_eq {entries : List (String × Body)} {answers : List Value}
    {pairs : List (String × Value)} (h : Each entries answers pairs) :
    answers.length = (callablesOf entries).length := by
  cases h with
  | nil => rfl
  | cons hb hentries =>
    rw [callablesOf, List.length_append, List.length_append, hb.length_eq, hentries.length_eq]

end

mutual

theorem Denotes.unique {b : Body} {answers : List Value} {v w : Value} (h : Denotes b answers v)
    (h' : Denotes b answers w) : v = w := by
  cases h with
  | value v =>
    cases h'
    rfl
  | func f v =>
    cases h'
    rfl
  | mapping hentries hfields =>
    cases h' with
    | mapping hentries' hfields' =>
      obtain rfl := hentries.unique hentries' rfl
      rw [Fields.collected_iff.mp hfields, Fields.collected_iff.mp hfields']

theorem Each.unique {entries : List (String × Body)} {answers answers' : List Value}
    {pairs pairs' : List (String × Value)} (h : Each entries answers pairs)
    (h' : Each entries answers' pairs') (heq : answers = answers') : pairs = pairs' := by
  cases h with
  | nil =>
    cases h'
    rfl
  | cons hb hentries =>
    cases h' with
    | cons hb' hentries' =>
      -- An entry takes as many answers as it has callables, so both take the same ones.
      obtain ⟨rfl, rfl⟩ := List.append_inj heq (hb.length_eq.trans hb'.length_eq.symm)
      rw [hb.unique hb', hentries.unique hentries' rfl]

end

end Body

theorem Render.eq_done_of_requests {σ α : Type} (h : Host σ) {r : Render α} {s : σ}
    (hr : r.requests h s = []) : r = .done (r.run h s).1 (r.run h s).2.1 := by
  cases r with
  | done a c => rfl
  | ask request c next => cases hr

namespace CompiledBody

open Renderer

variable {σ : Type} (h : Host σ)

mutual

theorem renders_ofBody (b : Body) (start : Context × σ) :
    ∃ answers requests last v, InTurn h b.callables start answers requests last ∧
      b.Denotes answers v ∧ Renders h (ofBody b).render start v requests last := by
  cases b with
  | value v => exact ⟨[], [], start, v, .nil start, .value v, renders_pure v start⟩
  | func f =>
    have hf : Renders h f start _ _ _ := ⟨rfl, rfl⟩
    refine ⟨_, _, _, _, .cons hf (.nil _), .func f _, ?_⟩
    rw [List.append_nil]
    exact hf
  | mapping entries =>
    obtain ⟨answers, requests, last, pairs, hturn, heach, hpairs⟩ := renders_ofEntries entries start
    exact ⟨answers, requests, last, _, hturn, .mapping heach (Fields.collected_iff.mpr rfl),
      hpairs.map fun pairs => Value.obj (Fields.ofEntries pairs)⟩

theorem renders_ofEntries (entries : List (String × Body)) (start : Context × σ) :
    ∃ answers requests last pairs, InTurn h (Body.callablesOf entries) start answers requests last ∧
      Body.Each entries answers pairs ∧
      Renders h (renderEntries (ofEntries entries)) start pairs requests last := by
  cases entries with
  | nil => exact ⟨[], [], start, [], .nil start, .nil, renders_pure [] start⟩
  | cons e rest =>
    obtain ⟨k, b⟩ := e
    obtain ⟨here, before, mid, v, hturn, hdenotes, hv⟩ := renders_ofBody b start
    obtain ⟨others, behind, last, pairs, hturns, heach, hpairs⟩ := renders_ofEntries rest mid
    exact ⟨_, _, last, _, hturn.append hturns, .cons hdenotes heach,
      hv.bind (hpairs.map fun pairs => (k, v) :: pairs)⟩

end

/-- A body that stays whole renders to the value it denotes, with what its callables answer in their
places. They are called one after the other, each once, those under a key that comes again as well,
and the requests made are theirs. Without callables the value is there at once: nothing is asked and
the context is as it was. -/
theorem outcome_mapping (b : Body) (start : Context × σ) :
    (∃ answers requests last v, InTurn h b.callables start answers requests last ∧
        b.Denotes answers v ∧ (∀ w, b.Denotes answers w → w = v) ∧
        outcome h (ofBody b) start = (v, last) ∧ requestsFrom h (ofBody b) start = requests) ∧
      (b.callables = [] → ∃ v, b.Denotes [] v ∧ (∀ w, b.Denotes [] w → w = v) ∧
        (ofBody b).render start.1 = .done v start.1) := by
  obtain ⟨answers, requests, last, v, hturn, hv, hrender⟩ := renders_ofBody h b start
  refine ⟨⟨answers, requests, last, v, hturn, hv, fun w hw => hw.unique hv, hrender.run,
    hrender.requests⟩, ?_⟩
  intro hnone
  rw [hnone] at hturn
  cases hturn with
  | nil start =>
    have hdone := Render.eq_done_of_requests h hrender.requests
    rw [hrender.run] at hdone
    exact ⟨v, hv, fun w hw => hw.unique hv, hdone⟩

example (c : Context) :
    let inner : Body := .mapping [("x", .value (.int 1)), ("x", .value (.int 2))]
    (ofBody (.mapping [("a", .value .null), ("b", inner), ("a", .value (.bool true))])).render c =
      .done (.obj [("a", .bool true), ("b", .obj [("x", .int 2)])]) c :=
  rfl

end CompiledBody

end BemRules
