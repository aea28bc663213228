import BemRules.Method.Conditions
import BemRules.Registry

namespace BemRules

inductive ConditionCall where
  | block (name : String)
  | elem (name : String)
  | mode (name : String)
  | mod (name : String) (value : MatchValue)
  | elemMod (name : String) (value : MatchValue)
  | options (marker : Object)
  | setter (s : Setter)
  | matching (args : List Arg)
  | invoke (m : Method) (args : List Arg)
  | named (name : String) (args : List Arg)

namespace ConditionCall

def label : ConditionCall → String
  | .block _ => "block"
  | .elem _ => "elem"
  | .mode _ => "mode"
  | .mod _ _ => "mod"
  | .elemMod _ _ => "elemMod"
  | .options _ => "xjstOptions"
  | .setter s => s.name
  | .matching _ => "match"
  | .invoke m _ => m.name
  | .named name _ => name

def conditions : ConditionCall → Except RegisterError (List Predicate)
  | .block name => .ok [.block name]
  | .elem name => .ok [.elem name]
  | .mode name => .ok [.mode name]
  | .mod name value => .ok [.mod name value]
  | .elemMod name value => .ok [.elemMod name value]
  | .options marker => .ok [.options marker]
  | .setter s => .ok s.conditions
  | .matching args => Method.matching.conditions args
  | .invoke m args => m.conditions args
  | .named name args =>
    match Method.ofName name with
    | .ok m => m.conditions args
    | .error e => .error e

end ConditionCall

mutual

/-- A step that fails ends what it belongs to, unless it is an attempt. -/
inductive Step where
  | onInit (i : Initializer)
  | look
  | fail (e : RegisterError)
  /-- Opens a scope, makes calls on it, and gives the chain up. -/
  | chain (first : ConditionCall) (calls : List Call)
  | attempt (s : Step)

inductive Call where
  | narrow (call : ConditionCall)
  | body (b : Body)
  | bodies (bs : List Body)
  | nest (steps : List Step)
  | attempt (c : Call)

end

abbrev Script := List Step

end BemRules
