import BemRules.Template

namespace BemRules

inductive Entry where
  | scope (conditions : List Predicate) (children : List Entry)
  | body (b : Body)

mutual

def Entry.templates (above : List Predicate) : Entry → List Template
  | .scope conditions children => Entry.templatesOf (above ++ conditions) children
  | .body b => Template.ofScope above b

def Entry.templatesOf (above : List Predicate) : List Entry → List Template
  | [] => []
  | e :: rest => Entry.templates above e ++ Entry.templatesOf above rest

end

structure Scope where
  conditions : List Predicate
  children : List Entry

def Scope.toEntry (s : Scope) : Entry := .scope s.conditions s.children

/-- A scope of the stack, by its place counted from one. The chain is closed once its scope has
received a body, several bodies or nested scopes. -/
structure Chain where
  depth : Nat
  closed : Bool
deriving DecidableEq, Repr

def Chain.index (c : Chain) : Nat := c.depth - 1

/-- The scopes opened so far and not yet flattened, lowest first, and what has been registered, in
order. A scope that got its body waits above its parent until the parent takes it in. -/
structure Registry where
  stack : List Scope := []
  templates : List Template := []
  initializers : List Initializer := []

namespace Registry

def depth (r : Registry) : Nat := r.stack.length

def addInitializer (r : Registry) (i : Initializer) : Registry :=
  { r with initializers := r.initializers ++ [i] }

def openScope (r : Registry) (conditions : List Predicate) : Registry × Chain :=
  ({ r with stack := r.stack ++ [⟨conditions, []⟩] }, ⟨r.depth + 1, false⟩)

def narrow (r : Registry) (c : Chain) (conditions : List Predicate) : Registry :=
  if c.closed then r
  else
    let add (s : Scope) : Scope := { s with conditions := s.conditions ++ conditions }
    { r with stack := r.stack.modify c.index add }

theorem narrow_of_closed (r : Registry) {c : Chain} (h : c.closed) (conditions : List Predicate) :
    r.narrow c conditions = r := by
  simp [narrow, h]

def flushTop (r : Registry) : Registry :=
  match r.stack.getLast? with
  | some top =>
    { r with
      stack := r.stack.dropLast
      templates := r.templates ++ top.toEntry.templates [] }
  | none => r

/-- Closes a chain with the given entries. Closing a chain at depth one flattens the scope that is
on top of the stack. -/
def attach (r : Registry) (c : Chain) (entries : List Entry) :
    Except RegisterError (Registry × Chain) :=
  if c.closed then .error .closedScope
  else if c.index < r.stack.length then
    let add (s : Scope) : Scope := { s with children := s.children ++ entries }
    let r := { r with stack := r.stack.modify c.index add }
    .ok (if c.depth = 1 then r.flushTop else r, { c with closed := true })
  else .error .closedScope

theorem attach_of_closed (r : Registry) {c : Chain} (h : c.closed) (entries : List Entry) :
    r.attach c entries = .error .closedScope := by
  simp [attach, h]

def takeNested (r : Registry) (c : Chain) : Registry × List Entry :=
  ({ r with stack := r.stack.take c.depth }, (r.stack.drop c.depth).map Scope.toEntry)

/-- Ends the use of a chain. A scope that was never closed is given up, with all above it. -/
def release (r : Registry) (c : Chain) : Registry :=
  if c.closed then r else { r with stack := r.stack.take c.index }

def finish (r : Registry) : Compiled := ⟨r.templates.reverse, r.initializers⟩

end Registry

end BemRules
