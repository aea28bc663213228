import BemRules.Script.Run

namespace BemRules

/-- The scope of a chain, what failed nests left above it, and whether the chain is closed. -/
structure Held where
  scope : Scope
  above : List Scope
  closed : Bool

namespace Held

variable (h : Held)

def opened (conditions : List Predicate) : Held := ⟨⟨conditions, []⟩, [], false⟩

def scopes : List Scope := h.scope :: h.above

def narrow (conditions : List Predicate) : Held :=
  if h.closed then h
  else { h with scope := { h.scope with conditions := h.scope.conditions ++ conditions } }

def close (entries : List Entry) : Held :=
  { h with scope := { h.scope with children := h.scope.children ++ entries }, closed := true }

/-- Takes in the scopes of a nest, and with them all that stands above the chain already. -/
def adopt (nested : List Scope) : Held :=
  ({ h with above := [] } : Held).close ((h.above ++ nested).map Scope.toEntry)

def cover (nested : List Scope) : Held := { h with above := h.above ++ nested }

def remains : List Scope := if h.closed then h.scopes else []

end Held

structure Growth where
  scopes : List Scope := []
  initializers : List Initializer := []
  error : Option RegisterError := none

namespace Growth

def attempted (g : Growth) : Growth := { g with error := none }

def append (g k : Growth) : Growth :=
  ⟨g.scopes ++ k.scopes, g.initializers ++ k.initializers, k.error⟩

end Growth

structure CallGrowth where
  held : Held
  initializers : List Initializer := []
  error : Option RegisterError := none

namespace CallGrowth

def attempted (g : CallGrowth) : CallGrowth := { g with error := none }

def append (g k : CallGrowth) : CallGrowth :=
  { k with initializers := g.initializers ++ k.initializers }

def release (g : CallGrowth) : Growth := ⟨g.held.remains, g.initializers, g.error⟩

def close (h : Held) (entries : List Entry) : CallGrowth :=
  if h.closed then { held := h, error := some .closedScope } else { held := h.close entries }

end CallGrowth

mutual

def Step.growth : Step → Growth
  | .onInit i => { initializers := [i] }
  | .look => {}
  | .fail e => { error := some e }
  | .chain first calls =>
    match first.conditions with
    | .error e => { error := some e }
    | .ok conditions => (Call.growthOfAll calls (.opened conditions)).release
  | .attempt s => (Step.growth s).attempted

def Step.growthOfAll : List Step → Growth
  | [] => {}
  | s :: rest =>
    let g := Step.growth s
    match g.error with
    | some _ => g
    | none => g.append (Step.growthOfAll rest)

def Call.growth : Call → Held → CallGrowth
  | .narrow call, h =>
    match call.conditions with
    | .error e => { held := h, error := some e }
    | .ok conditions => { held := h.narrow conditions }
  | .body b, h => .close h [.body b]
  | .bodies bs, h => .close h (bs.map .body)
  | .nest steps, h =>
    if h.closed then { held := h, error := some .closedScope }
    else
      let g := Step.growthOfAll steps
      match g.error with
      | some e => ⟨h.cover g.scopes, g.initializers, some e⟩
      | none => ⟨h.adopt g.scopes, g.initializers, none⟩
  | .attempt call, h => (Call.growth call h).attempted

def Call.growthOfAll : List Call → Held → CallGrowth
  | [], h => { held := h }
  | call :: rest, h =>
    let g := Call.growth call h
    match g.error with
    | some _ => g
    | none => g.append (Call.growthOfAll rest g.held)

end

namespace Held

def Fresh (h : Held) : Prop := h.closed = false → h.scope.children = []

theorem fresh_opened (conditions : List Predicate) : (opened conditions).Fresh := fun _ => rfl

theorem fresh_of_closed {h : Held} (hc : h.closed) : h.Fresh := by
  intro ho
  rw [hc] at ho
  contradiction

theorem Fresh.narrow {h : Held} (hf : h.Fresh) (conditions : List Predicate) :
    (h.narrow conditions).Fresh := by
  cases hc : h.closed with
  | true => simpa [Held.narrow, hc] using hf
  | false =>
    intro _
    simpa [Held.narrow, hc] using hf hc

end Held

theorem CallGrowth.fresh_close {h : Held} (hf : h.Fresh) (entries : List Entry) :
    (CallGrowth.close h entries).held.Fresh := by
  rw [close]
  split
  next => exact hf
  next => exact Held.fresh_of_closed rfl

theorem Call.fresh_growth (call : Call) {h : Held} (hf : h.Fresh) :
    (call.growth h).held.Fresh := by
  cases call with
  | narrow call =>
    rw [growth]
    cases call.conditions with
    | error e => exact hf
    | ok conditions => exact hf.narrow conditions
  | body b => exact CallGrowth.fresh_close hf _
  | bodies bs => exact CallGrowth.fresh_close hf _
  | attempt call => exact Call.fresh_growth call hf
  | nest steps =>
    rw [growth]
    split
    next => exact hf
    next =>
      cases he : (Step.growthOfAll steps).error with
      | some e =>
        simp only [he]
        exact hf
      | none =>
        simp only [he]
        exact Held.fresh_of_closed rfl

theorem Call.fresh_growthOfAll (calls : List Call) {h : Held} (hf : h.Fresh) :
    (Call.growthOfAll calls h).held.Fresh := by
  induction calls generalizing h with
  | nil => exact hf
  | cons call rest ih =>
    have hc := call.fresh_growth hf
    rw [growthOfAll]
    cases (call.growth h).error with
    | some e => exact hc
    | none => exact ih hc

namespace Registry

def addInitializers (r : Registry) (is : List Initializer) : Registry :=
  { r with initializers := r.initializers ++ is }

/-- The registry while a chain is held that was opened on `r`. Once a chain at depth one is
closed, the topmost scope has been turned into templates. -/
def hold (r : Registry) (h : Held) : Registry :=
  let s : Registry := { r with stack := r.stack ++ h.scopes }
  if r.depth = 0 ∧ h.closed then s.flushTop else s

def grow (r : Registry) (g : Growth) : Registry :=
  let s : Registry := { r.addInitializers g.initializers with stack := r.stack ++ g.scopes }
  if r.depth = 0 then s.flushTop else s

end Registry

end BemRules
