import Mathlib.Data.List.Induction
import Mathlib.Data.List.Basic
import BemRules.Body

namespace List

theorem concat_eq_append_cons {α : Type} {xs inner outer : List α} {x y : α}
    (h : xs ++ [y] = inner ++ x :: outer) :
    (xs = inner ∧ y = x ∧ outer = []) ∨ ∃ rest, outer = rest ++ [y] ∧ xs = inner ++ x :: rest := by
  rcases List.eq_nil_or_concat' outer with rfl | ⟨rest, last, rfl⟩
  · obtain ⟨hxs, hy⟩ := List.append_inj' h rfl
    exact .inl ⟨hxs, List.singleton_inj.mp hy, rfl⟩
  · rw [← List.cons_append, ← List.append_assoc] at h
    obtain ⟨hxs, hy⟩ := List.append_inj' h rfl
    exact .inr ⟨rest, by rw [List.singleton_inj.mp hy], hxs⟩

end List

namespace BemRules

namespace Aspect

def asksFirst : Aspect → Bool
  | .add .prependContent => false
  | .add _ => true
  | .wrap | .replace | .extend => false

/-- The request of an aspect over a part that left a value and a context. Positions are capped at
the greatest number that a signed word holds. -/
def request (v : Value) (c : Context) : Aspect → Request
  | .wrap => .renderWrapped v
  | .replace =>
    .renderNode v (some [("position", .int ((min c.position.toNat 9223372036854775807 : Nat) - 1))])
  | .extend => .renderNode c.node (some (match v with | .obj fields => fields | _ => []))
  | .add mode => .apply mode.baseMode

end Aspect

namespace Renderer

variable {σ α β : Type} (h : Host σ)

theorem requests_request_bind (r : Request) (f : Value → Renderer β) (c : Context) (s : σ) :
    ((request r >>= f) c).requests h s =
      (r, c) :: (f (h.answer r c s).1 (h.answer r c s).2.1).requests h (h.answer r c s).2.2 :=
  rfl

theorem requests_bind (r : Renderer α) (f : α → Renderer β) (c : Context) (s : σ) :
    ((r >>= f) c).requests h s =
      (r c).requests h s ++
        (f ((r c).run h s).1 ((r c).run h s).2.1).requests h ((r c).run h s).2.2 :=
  Render.requests_bind h (r c) f s

theorem requests_bind_of_silent (r : Renderer α) (f : α → Renderer β)
    (hf : ∀ a c s, (f a c).requests h s = []) (c : Context) (s : σ) :
    ((r >>= f) c).requests h s = (r c).requests h s := by
  rw [requests_bind, hf, List.append_nil]

end Renderer

namespace CompiledBody

/-- A body under aspects, the innermost aspect first. -/
def stack (ds : List Aspect) (b : CompiledBody) : CompiledBody :=
  ds.foldl (fun b d => b.decorate (.aspect d)) b

theorem stack_concat (ds : List Aspect) (d : Aspect) (b : CompiledBody) :
    stack (ds ++ [d]) b = .decorated d (stack ds b) := by
  rw [stack, stack, List.foldl_append]
  rfl

variable {σ : Type} (h : Host σ)

def enter (d : Aspect) (start : Context × σ) : Context × σ :=
  if d.asksFirst then (h.apply d.baseMode start.1 start.2).2 else start

def enterAll (ds : List Aspect) (start : Context × σ) : Context × σ := ds.foldr (enter h) start

theorem enterAll_concat (ds : List Aspect) (d : Aspect) (start : Context × σ) :
    enterAll h (ds ++ [d]) start = enterAll h ds (enter h d start) := by
  rw [enterAll, enterAll, List.foldr_append]
  rfl

def outcome (b : CompiledBody) (start : Context × σ) : Value × Context × σ :=
  (b.render start.1).run h start.2

def requestsFrom (b : CompiledBody) (start : Context × σ) : List (Request × Context) :=
  (b.render start.1).requests h start.2

def requestBehind (d : Aspect) (b : CompiledBody) (start : Context × σ) : Request × Context :=
  let last := outcome h b start
  (d.request last.1 last.2.1, last.2.1)

variable {d : Aspect}

theorem requestsFrom_of_asksFirst (hd : d.asksFirst = true) (b : CompiledBody)
    (start : Context × σ) :
    requestsFrom h (.decorated d b) start =
      (.apply d.baseMode, start.1) :: requestsFrom h b (enter h d start) := by
  rw [requestsFrom, requestsFrom, enter, if_pos hd, render]
  cases d with
  | add mode =>
    cases mode with
    | prependContent => cases hd
    | _ =>
      rw [under, addTo]
      refine (Renderer.requests_request_bind h _ _ _ _).trans (congrArg _ ?_)
      exact Renderer.requests_bind_of_silent h _ _ (fun _ _ _ => rfl) _ _
  | _ => cases hd

theorem requestsFrom_of_not_asksFirst (hd : d.asksFirst = false) (b : CompiledBody)
    (start : Context × σ) :
    requestsFrom h (.decorated d b) start =
      requestsFrom h b start ++ [requestBehind h d b start] := by
  rw [requestsFrom, requestsFrom, render]
  cases d with
  | wrap => exact Renderer.requests_bind h _ _ _ _
  | replace => exact Renderer.requests_bind h _ _ _ _
  | extend => exact Renderer.requests_bind h _ _ _ _
  | add mode =>
    cases mode with
    | prependContent => exact Renderer.requests_bind h _ _ _ _
    | _ => cases hd

theorem enter_of_not_asksFirst (hd : d.asksFirst = false) (start : Context × σ) :
    enter h d start = start :=
  if_neg (by rw [hd]; exact Bool.false_ne_true)

/-- The requests of the aspects over a body: `opening` before it, `closing` behind it. In the list
the aspects inside another one stand before it, those outside behind it. -/
structure Surrounds (ds : List Aspect) (b : CompiledBody) (start : Context × σ)
    (opening closing : List (Request × Context)) : Prop where
  requests : requestsFrom h (stack ds b) start =
    opening ++ requestsFrom h b (enterAll h ds start) ++ closing
  modes : opening.map Prod.fst =
    (ds.reverse.filter Aspect.asksFirst).map fun d => .apply d.baseMode
  length_closing : closing.length = ds.countP fun d => !d.asksFirst
  opened : ∀ inner d outer, ds = inner ++ d :: outer → d.asksFirst = true →
    opening[outer.countP Aspect.asksFirst]? = some (.apply d.baseMode, (enterAll h outer start).1)
  closed : ∀ inner d outer, ds = inner ++ d :: outer → d.asksFirst = false →
    closing[inner.countP fun d => !d.asksFirst]? =
      some (requestBehind h d (stack inner b) (enterAll h outer start))

variable {h} {ds : List Aspect} {b : CompiledBody} {start : Context × σ}
  {opening closing : List (Request × Context)}

theorem Surrounds.concat_of_asksFirst (hd : d.asksFirst = true)
    (hs : Surrounds h ds b (enter h d start) opening closing) :
    Surrounds h (ds ++ [d]) b start ((.apply d.baseMode, start.1) :: opening) closing where
  requests := by
    rw [stack_concat, requestsFrom_of_asksFirst h hd, hs.requests, enterAll_concat]
    rfl
  modes := by simp [hs.modes, hd]
  length_closing := by simp [hs.length_closing, hd]
  opened := by
    intro inner e outer heq he
    obtain ⟨rfl, rfl, rfl⟩ | ⟨rest, rfl, hds⟩ := List.concat_eq_append_cons heq
    · rfl
    · rw [List.countP_append, enterAll_concat, List.countP_singleton, if_pos hd]
      exact hs.opened inner e rest hds he
  closed := by
    intro inner e outer heq he
    obtain ⟨rfl, rfl, rfl⟩ | ⟨rest, rfl, hds⟩ := List.concat_eq_append_cons heq
    · rw [hd] at he
      cases he
    · rw [enterAll_concat]
      exact hs.closed inner e rest hds he

theorem Surrounds.concat_of_not_asksFirst (hd : d.asksFirst = false)
    (hs : Surrounds h ds b start opening closing) :
    Surrounds h (ds ++ [d]) b start opening
      (closing ++ [requestBehind h d (stack ds b) start]) where
  requests := by
    rw [stack_concat, requestsFrom_of_not_asksFirst h hd, hs.requests, enterAll_concat,
      enter_of_not_asksFirst h hd, List.append_assoc]
  modes := by simp [hs.modes, hd]
  length_closing := by simp [hs.length_closing, hd]
  opened := by
    intro inner e outer heq he
    obtain ⟨rfl, rfl, rfl⟩ | ⟨rest, rfl, hds⟩ := List.concat_eq_append_cons heq
    · rw [hd] at he
      cases he
    · rw [List.countP_append, enterAll_concat, enter_of_not_asksFirst h hd, List.countP_singleton,
        hd]
      exact hs.opened inner e rest hds he
  closed := by
    intro inner e outer heq he
    obtain ⟨rfl, rfl, rfl⟩ | ⟨rest, rfl, hds⟩ := List.concat_eq_append_cons heq
    · rw [← hs.length_closing, List.getElem?_concat_length]
      rfl
    · have hat := hs.closed inner e rest hds he
      rw [enterAll_concat, enter_of_not_asksFirst h hd,
        List.getElem?_append_left (List.getElem?_eq_some_iff.mp hat).1]
      exact hat

/-- The aspects over a body ask in two groups, and what the body itself asks comes between them:
first those that ask first, from the outside in, then the others from the inside out, each of them
about what the part under it left. A plain value asks nothing, so there each request is that of one
aspect. -/
theorem requests_stack (h : Host σ) (ds : List Aspect) (b : CompiledBody)
    (start : Context × σ) :
    (∃ opening closing, Surrounds h ds b start opening closing) ∧
      ∀ v, b = .literal v → (requestsFrom h (stack ds b) start).length = ds.length := by
  have surrounds : ∃ opening closing, Surrounds h ds b start opening closing := by
    -- From the outermost aspect inwards: it decides where the part under it starts.
    induction ds using List.reverseRecOn generalizing start with
    | nil => exact ⟨[], [], by simp [stack, enterAll], rfl, rfl, by simp, by simp⟩
    | append_singleton ds d ih =>
      cases hd : d.asksFirst with
      | true =>
        obtain ⟨opening, closing, hs⟩ := ih (enter h d start)
        exact ⟨_, _, hs.concat_of_asksFirst hd⟩
      | false =>
        obtain ⟨opening, closing, hs⟩ := ih start
        exact ⟨_, _, hs.concat_of_not_asksFirst hd⟩
  refine ⟨surrounds, ?_⟩
  rintro v rfl
  obtain ⟨opening, closing, hs⟩ := surrounds
  have hopening : opening.length = ds.countP Aspect.asksFirst := by
    have hlen := congrArg List.length hs.modes
    simpa [List.countP_eq_length_filter] using hlen
  have hcount : ds.length = ds.countP Aspect.asksFirst + ds.countP fun d => !d.asksFirst := by
    simpa using List.length_eq_countP_add_countP Aspect.asksFirst (l := ds)
  have hcore : requestsFrom h (.literal v) (enterAll h ds start) = [] := rfl
  rw [hs.requests, hcore, List.append_nil, List.length_append, hopening, hs.length_closing, hcount]

end CompiledBody

end BemRules
