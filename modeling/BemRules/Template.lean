import BemRules.Body

namespace BemRules

structure Template where
  predicates : List Predicate
  body : CompiledBody

namespace Template

/-- Aspects decorate the body from the inside out; the other predicates are kept. -/
def build (predicates : List Predicate) (body : Body) : Template where
  predicates := predicates.filter fun p => !p.isAspect
  body := predicates.foldl CompiledBody.decorate (.ofBody body)

def mode? (t : Template) : Option String := t.predicates.reverse.findSome? Predicate.modeName?

def check (t : Template) (c : Context) : Verdict Bool := Predicate.check c t.predicates

def holds (t : Template) (c : Context) : Bool := (t.check c).answer

theorem holds_eq (t : Template) (c : Context) : t.holds c = t.predicates.all (Predicate.holds c) :=
  Predicate.answer_check c t.predicates

def markers (t : Template) : List Object := t.predicates.filterMap Predicate.marker?

/-- A body that spreads gives a template for each of its entries, whose own bodies do not spread
again; any other body gives one template. -/
def ofScope (scope : List Predicate) (body : Body) : List Template :=
  if scope.all Predicate.allowsShortcut then
    match body.entries? with
    | some entries =>
      entries.map fun (key, b) => build (scope ++ Method.shortcutConditions key) b
    | none => [build scope body]
  else [build scope body]

def inspect (t : Template) : String :=
  "Template \x7b predicates: " ++ inspectList (t.predicates.map Predicate.inspect) ++
    ", body: " ++ t.body.inspect ++ " \x7d"

end Template

abbrev Initializer := Render Unit

/-- The templates, the latest first, and the initializers in order. -/
structure Compiled where
  templates : List Template
  initializers : List Initializer

namespace Compiled

/-- The first of the templates that hold. Those behind it are not tried. -/
def search (c : Context) : List Template → Verdict (Option Template)
  | [] => ⟨none, []⟩
  | t :: rest =>
    let v := t.check c
    if v.answer then ⟨some t, v.asked⟩
    else
      let r := search c rest
      ⟨r.answer, v.asked ++ r.asked⟩

theorem answer_search (c : Context) (ts : List Template) :
    (search c ts).answer = ts.find? fun t => t.holds c := by
  induction ts with
  | nil => rfl
  | cons t rest ih => by_cases h : t.holds c <;> simp_all [search, Template.holds]

def firstMatch (x : Compiled) (c : Context) : Option Template := (search c x.templates).answer

/-- All markers, in the order of registration, each written over those before. -/
def compilerOptions (x : Compiled) : Object :=
  (x.templates.reverse.flatMap Template.markers).foldl Fields.merge []

def options (x : Compiled) (base : Options) : Options := base.applyOverrides x.compilerOptions

def inspect (x : Compiled) : String :=
  "Compiled \x7b templates: " ++ inspectList (x.templates.map Template.inspect) ++
    ", initializers: " ++ toString x.initializers.length ++ " \x7d"

end Compiled

end BemRules
