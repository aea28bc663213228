import BemRules.Predicate

namespace BemRules

inductive RegisterError where
  | missingPredicate
  | invalidPredicate (argument : String)
  | unexpectedArguments (method arguments : String)
  | unknownMethod (name : String)
  | invalidArgument (method message : String)
  | closedScope
deriving DecidableEq, Repr, Inhabited

namespace RegisterError

def kind : RegisterError → String
  | .missingPredicate => "MissingPredicate"
  | .invalidPredicate _ => "InvalidPredicate"
  | .unexpectedArguments _ _ => "UnexpectedArguments"
  | .unknownMethod _ => "UnknownMethod"
  | .invalidArgument _ _ => "InvalidArgument"
  | .closedScope => "ClosedScope"

def message : RegisterError → String
  | .missingPredicate => ".match() must have argument"
  | .invalidPredicate argument => "Wrong .match() argument: " ++ argument
  | .unexpectedArguments method arguments =>
    "Predicate ." ++ method ++ "() should not have arguments but " ++ arguments ++ " passed"
  | .unknownMethod name => "Unknown builder method: " ++ name
  | .invalidArgument method message => "Invalid argument to ." ++ method ++ "(): " ++ message
  | .closedScope => "Scope already received its body"

end RegisterError

inductive OutputMode where
  | content
  | attrs
  | js
  | mix
  | mods
  | elemMods
  | tag
  | cls
  | bem
deriving DecidableEq, Repr, Inhabited

def OutputMode.name : OutputMode → String
  | .content => "content"
  | .attrs => "attrs"
  | .js => "js"
  | .mix => "mix"
  | .mods => "mods"
  | .elemMods => "elemMods"
  | .tag => "tag"
  | .cls => "cls"
  | .bem => "bem"

def Aspect.methodName : Aspect → String
  | .wrap => "wrap"
  | .replace => "replace"
  | .extend => "extend"
  | .add .appendContent => "appendContent"
  | .add .prependContent => "prependContent"
  | .add .attrs => "addAttrs"
  | .add .js => "addJs"
  | .add .mix => "addMix"
  | .add .mods => "addMods"
  | .add .elemMods => "addElemMods"

inductive Setter where
  | default
  | output (mode : OutputMode)
  | aspect (a : Aspect)
deriving DecidableEq, Repr, Inhabited

namespace Setter

def name : Setter → String
  | .default => "def"
  | .output mode => mode.name
  | .aspect a => a.methodName

/-- An aspect narrows the mode it belongs to before it changes the body. -/
def conditions : Setter → List Predicate
  | .default => [.mode "default"]
  | .output mode => [.mode mode.name]
  | .aspect a => [.mode a.baseMode, .aspect a]

end Setter

inductive Method where
  | matching
  | block
  | elem
  | mod
  | elemMod
  | options
  | mode
  | setter (s : Setter)
deriving DecidableEq, Repr, Inhabited

namespace Method

def name : Method → String
  | .matching => "match"
  | .block => "block"
  | .elem => "elem"
  | .mod => "mod"
  | .elemMod => "elemMod"
  | .options => "xjstOptions"
  | .mode => "mode"
  | .setter s => s.name

def all : List Method :=
  [.matching, .block, .elem, .mod, .elemMod, .options,
    .setter (.aspect .wrap), .setter (.aspect .replace), .setter (.aspect .extend),
    .mode, .setter .default,
    .setter (.output .content), .setter (.aspect (.add .appendContent)),
    .setter (.aspect (.add .prependContent)),
    .setter (.output .attrs), .setter (.aspect (.add .attrs)),
    .setter (.output .js), .setter (.aspect (.add .js)),
    .setter (.output .mix), .setter (.aspect (.add .mix)),
    .setter (.output .mods), .setter (.aspect (.add .mods)),
    .setter (.output .elemMods), .setter (.aspect (.add .elemMods)),
    .setter (.output .tag), .setter (.output .cls), .setter (.output .bem)]

def ofName? (name : String) : Option Method := all.find? fun m => m.name == name

theorem ofName?_name (m : Method) : ofName? m.name = some m := by
  rcases m with _ | _ | _ | _ | _ | _ | _ | (_ | m | a)
  case setter.output => cases m <;> rfl
  case setter.aspect =>
    rcases a with _ | _ | _ | m
    case add => cases m <;> rfl
    all_goals rfl
  all_goals rfl

def ofName (name : String) : Except RegisterError Method :=
  match ofName? name with
  | some m => .ok m
  | none => .error (.unknownMethod name)

def addMode? : Method → Option AddMode
  | .setter (.aspect (.add m)) => some m
  | _ => none

def fixedConditions? : Method → Option (List Predicate)
  | .setter s => some s.conditions
  | _ => none

/-- The predicates of one key of a spread mapping. The three aspects that render again stand
alone, additive aspects keep the mode they belong to, and any other key is a mode. -/
def shortcutConditions (key : String) : List Predicate :=
  match ofName? key with
  | some (.setter .default) => [.mode "default"]
  | some (.setter (.aspect (.add m))) => (Setter.aspect (.add m)).conditions
  | some (.setter (.aspect a)) => [.aspect a]
  | _ => [.mode key]

end Method

end BemRules
