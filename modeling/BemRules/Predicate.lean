import BemRules.Context

namespace BemRules

inductive MatchValue where
  | present
  | exact (text : String)
deriving DecidableEq, Repr, Inhabited

namespace MatchValue

def ofBool (b : Bool) : MatchValue := .exact (if b then "true" else "false")

def ofInt (n : Int) : MatchValue := .exact (toString n)

/-- A null expects the word for it, although its plain form is empty: only the absence of a value
asks for presence. -/
def ofValue : Value → MatchValue
  | .null => .exact "null"
  | v => .exact v.plain

def holds : MatchValue → Option Value → Bool
  | .present, found => found.any Value.truthy
  | .exact text, found => found.any fun v => v.plain == text

end MatchValue

inductive AddMode where
  | appendContent
  | prependContent
  | attrs
  | js
  | mix
  | mods
  | elemMods
deriving DecidableEq, Repr, Inhabited

def AddMode.baseMode : AddMode → String
  | .appendContent => "content"
  | .prependContent => "content"
  | .attrs => "attrs"
  | .js => "js"
  | .mix => "mix"
  | .mods => "mods"
  | .elemMods => "elemMods"

inductive Aspect where
  | wrap
  | replace
  | extend
  | add (mode : AddMode)
deriving DecidableEq, Repr, Inhabited

def Aspect.baseMode : Aspect → String
  | .wrap => "default"
  | .replace => "default"
  | .extend => "default"
  | .add mode => mode.baseMode

/-- A test given by the caller. Tests are told apart by name: a name stands for one test. -/
structure Test where
  name : String
  holds : Context → Bool

inductive Predicate where
  | property (key : KeyPath) (value : MatchValue)
  | custom (test : Test)
  | options (marker : Object)
  | aspect (a : Aspect)

namespace Predicate

def block (name : String) : Predicate := .property (.field "block") (.exact name)

def elem (name : String) : Predicate := .property (.field "elem") (.exact name)

def mode (name : String) : Predicate := .property (.field "_mode") (.exact name)

def mod (name : String) (value : MatchValue) : Predicate := .property (.mods name) value

def elemMod (name : String) (value : MatchValue) : Predicate := .property (.elemMods name) value

def aspect? : Predicate → Option Aspect
  | .aspect a => some a
  | _ => none

def isAspect (p : Predicate) : Bool := p.aspect?.isSome

def marker? : Predicate → Option Object
  | .options marker => some marker
  | _ => none

def modeName? : Predicate → Option String
  | .property (.field "_mode") (.exact mode) => some mode
  | _ => none

/-- A mapping body spreads into one rule per key only below predicates that narrow down the
entity, and below tests, whatever they look at. -/
def allowsShortcut : Predicate → Bool
  | .property (.field name) _ => name == "block" || name == "elem"
  | .property key _ => key.isModsPath
  | .custom _ => true
  | .options _ => false
  | .aspect _ => false

/-- Markers are compared up to the order of their keys. -/
def same : Predicate → Predicate → Bool
  | .property k v, .property l w => k == l && v == w
  | .custom s, .custom t => s.name == t.name
  | .options a, .options b => (Value.obj a).same (.obj b)
  | .aspect a, .aspect b => a == b
  | _, _ => false

def holds (c : Context) : Predicate → Bool
  | .property key value => value.holds (c.property key)
  | .custom test => test.holds c
  | .options _ => false
  | .aspect _ => true

def asked : Predicate → List String
  | .custom test => [test.name]
  | _ => []

end Predicate

/-- The answer to a question about a context, and the tests called to find it, in order. -/
structure Verdict (α : Type) where
  answer : α
  asked : List String
deriving DecidableEq, Repr

def Predicate.check (c : Context) : List Predicate → Verdict Bool
  | [] => ⟨true, []⟩
  | p :: rest =>
    if p.holds c then
      let v := check c rest
      ⟨v.answer, p.asked ++ v.asked⟩
    else ⟨false, p.asked⟩

theorem Predicate.answer_check (c : Context) (ps : List Predicate) :
    (Predicate.check c ps).answer = ps.all (Predicate.holds c) := by
  induction ps with
  | nil => rfl
  | cons p rest ih => by_cases h : p.holds c <;> simp [Predicate.check, h, ih]

end BemRules
