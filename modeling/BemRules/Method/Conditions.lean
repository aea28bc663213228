import BemRules.Inspect

namespace BemRules

inductive Arg where
  | value (v : Value)
  | predicate (p : Predicate)
  | test (t : Test)

namespace Arg

def inspect : Arg → String
  | .value v => v.text
  | .predicate p => p.inspect
  | .test t => t.inspect

def toPredicate : Arg → Except RegisterError Predicate
  | .value v => .error (.invalidPredicate v.text)
  | .predicate p => .ok p
  | .test t => .ok (.custom t)

def toPredicates : List Arg → Except RegisterError (List Predicate)
  | [] => .ok []
  | a :: rest =>
    match a.toPredicate with
    | .error e => .error e
    | .ok p =>
      match toPredicates rest with
      | .error e => .error e
      | .ok ps => .ok (p :: ps)

end Arg

namespace Method

def refuse {α : Type} (m : Method) (message : String) : Except RegisterError α :=
  .error (.invalidArgument m.name message)

def single (m : Method) : List Arg → Except RegisterError Arg
  | [a] => .ok a
  | args => m.refuse ("expected 1 argument(s), got " ++ toString args.length)

def textArg (m : Method) : Arg → Except RegisterError String
  | .value (.str s) => .ok s
  | a => m.refuse ("expected a string, got " ++ a.inspect)

def nameArg (m : Method) (args : List Arg) : Except RegisterError String :=
  match m.single args with
  | .ok a => m.textArg a
  | .error e => .error e

/-- Without a second argument a modifier has to be present. -/
def valueArg (m : Method) : Option Arg → Except RegisterError MatchValue
  | none => .ok .present
  | some (.value v) => .ok (.ofValue v)
  | some a => m.refuse ("modifier value must be a plain value, got " ++ a.inspect)

def modifierWith (m : Method) (name : Arg) (value : Option Arg) :
    Except RegisterError (String × MatchValue) :=
  match m.textArg name with
  | .error e => .error e
  | .ok name =>
    match m.valueArg value with
    | .error e => .error e
    | .ok value => .ok (name, value)

def modifierArgs (m : Method) : List Arg → Except RegisterError (String × MatchValue)
  | [name] => m.modifierWith name none
  | [name, value] => m.modifierWith name (some value)
  | _ => m.refuse "expected a name and an optional value"

def optionsArg (m : Method) (args : List Arg) : Except RegisterError Object :=
  match m.single args with
  | .ok (.value (.obj marker)) => .ok marker
  | .ok a => m.refuse ("expected an options object, got " ++ a.inspect)
  | .error e => .error e

def inspectArgs (args : List Arg) : String := "[" ++ ",".intercalate (args.map Arg.inspect) ++ "]"

/-- The predicates that a call contributes to its scope. The arguments of a match are taken from
the last to the first. -/
def conditions (m : Method) (args : List Arg) : Except RegisterError (List Predicate) :=
  match m with
  | .matching =>
    match args with
    | [] => .error .missingPredicate
    | args => Arg.toPredicates args.reverse
  | .block => (m.nameArg args).map fun name => [.block name]
  | .elem => (m.nameArg args).map fun name => [.elem name]
  | .mode => (m.nameArg args).map fun name => [.mode name]
  | .mod => (m.modifierArgs args).map fun (name, value) => [.mod name value]
  | .elemMod => (m.modifierArgs args).map fun (name, value) => [.elemMod name value]
  | .options => (m.optionsArg args).map fun marker => [.options marker]
  | .setter s =>
    match args with
    | [] => .ok s.conditions
    | args => .error (.unexpectedArguments s.name (inspectArgs args))

end Method

end BemRules
