import BemRules.Context

namespace BemRules

inductive Request where
  | apply (mode : String)
  | renderNode (node : Value) (overrides : Option Object)
  /-- Renders the node that a wrapping rule made around the entity. -/
  | renderWrapped (node : Value)
deriving DecidableEq, Repr

/-- Either a result, or a request and what follows its answer. -/
inductive Render (α : Type) : Type where
  | done (result : α) (c : Context)
  | ask (request : Request) (c : Context) (next : Value → Context → Render α)

namespace Render

variable {α β : Type}

def bind : Render α → (α → Context → Render β) → Render β
  | .done a c, f => f a c
  | .ask request c next, f => .ask request c fun v c => (next v c).bind f

end Render

def Renderer (α : Type) : Type := Context → Render α

namespace Renderer

variable {α β : Type}

protected def pure (a : α) : Renderer α := fun c => .done a c

protected def bind (r : Renderer α) (f : α → Renderer β) : Renderer β := fun c => (r c).bind f

instance : Monad Renderer where
  pure := Renderer.pure
  bind := Renderer.bind

def request (r : Request) : Renderer Value := fun c => .ask r c .done

def context : Renderer Context := fun c => .done c c

def modify (f : Context → Context) : Renderer Unit := fun c => .done () (f c)

end Renderer

/-- Answers requests. Unless it guards against wrapping rules that match their own result, a host
renders a wrapped node like any other. -/
structure Host (σ : Type) where
  apply : String → Context → σ → Value × Context × σ
  renderNode : Value → Option Object → Context → σ → Value × Context × σ
  renderWrapped : Value → Context → σ → Value × Context × σ :=
    fun node => renderNode node none

namespace Host

variable {σ α : Type}

def answer (h : Host σ) : Request → Context → σ → Value × Context × σ
  | .apply mode => h.apply mode
  | .renderNode node overrides => h.renderNode node overrides
  | .renderWrapped node => h.renderWrapped node

end Host

namespace Render

variable {σ α : Type}

def run (h : Host σ) : Render α → σ → α × Context × σ
  | .done a c, s => (a, c, s)
  | .ask request c next, s =>
    let (v, c, s) := h.answer request c s
    (next v c).run h s

theorem run_bind {β : Type} (h : Host σ) (r : Render α) (f : α → Context → Render β) (s : σ) :
    (r.bind f).run h s = (f (r.run h s).1 (r.run h s).2.1).run h (r.run h s).2.2 := by
  induction r generalizing s with
  | done a c => rfl
  | ask request c next ih => exact ih _ _ _

def requests (h : Host σ) : Render α → σ → List (Request × Context)
  | .done _ _, _ => []
  | .ask request c next, s =>
    let (v, c', s) := h.answer request c s
    (request, c) :: (next v c').requests h s

theorem requests_bind {β : Type} (h : Host σ) (r : Render α) (f : α → Context → Render β)
    (s : σ) :
    (r.bind f).requests h s =
      r.requests h s ++ (f (r.run h s).1 (r.run h s).2.1).requests h (r.run h s).2.2 := by
  induction r generalizing s with
  | done a c => rfl
  | ask request c next ih => exact congrArg _ (ih _ _ _)

end Render

end BemRules
