import BemRules.Inspect
import BemRules.Render

namespace BemRules

/-- A mapping may repeat a key. -/
inductive Body where
  | value (v : Value)
  | func (f : Renderer Value)
  | mapping (entries : List (String × Body))

namespace Body

def entries? : Body → Option (List (String × Body))
  | .value (.obj fields) => some (fields.map fun (key, v) => (key, .value v))
  | .value _ => none
  | .func _ => none
  | .mapping entries => some entries

mutual

def inspect : Body → String
  | .value v => v.text
  | .func _ => "Func(fn)"
  | .mapping entries => inspectMapping (inspectEntries entries)

def inspectEntries : List (String × Body) → List (String × String)
  | [] => []
  | (k, b) :: rest => (k, inspect b) :: inspectEntries rest

end

end Body

inductive CompiledBody where
  | literal (v : Value)
  | call (f : Renderer Value)
  /-- A mapping that did not spread; every entry is rendered. -/
  | object (entries : List (String × CompiledBody))
  | decorated (a : Aspect) (inner : CompiledBody)

namespace CompiledBody

mutual

def ofBody : Body → CompiledBody
  | .value v => .literal v
  | .func f => .call f
  | .mapping entries => .object (ofEntries entries)

def ofEntries : List (String × Body) → List (String × CompiledBody)
  | [] => []
  | (k, b) :: rest => (k, ofBody b) :: ofEntries rest

end

def literal? : CompiledBody → Option Value
  | .literal v => some v
  | _ => none

def isDecorated : CompiledBody → Bool
  | .decorated _ _ => true
  | _ => false

def decorate (b : CompiledBody) : Predicate → CompiledBody
  | .aspect a => .decorated a b
  | _ => b

def maxPosition : Nat := 0x7FFFFFFFFFFFFFFF

/-- A replacement is rendered one place before the entity. -/
def replacement (c : Context) : Object :=
  [("position", .int ((min c.position.toNat maxPosition : Nat) - 1 : Int))]

def mixBase : Value → List Value
  | .arr items => items
  | .null => []
  | v => [v]

def mixAdded : Value → List Value
  | .arr items => items
  | v => [v]

/-- A base that counts as nothing is replaced by an empty object. -/
def mergeBase (v : Value) : Value := if v.truthy then v else .obj []

open Renderer in
def mergeInto (field : String) (inner : Renderer Value) : Renderer Value := do
  let base ← request (.apply field)
  let added ← inner
  let merged := Value.extend (some (mergeBase base)) (some added)
  modify fun c => c.setField field merged
  return merged

open Renderer in
def addTo (mode : AddMode) (inner : Renderer Value) : Renderer Value :=
  match mode with
  | .appendContent => do
    let content ← request (.apply mode.baseMode)
    let added ← inner
    return .arr [content, added]
  | .prependContent => do
    let added ← inner
    let content ← request (.apply mode.baseMode)
    return .arr [added, content]
  | .mix => do
    let base ← request (.apply mode.baseMode)
    let added ← inner
    return .arr (mixBase base ++ mixAdded added)
  | .attrs => mergeInto mode.baseMode inner
  | .js => mergeInto mode.baseMode inner
  | .mods => mergeInto mode.baseMode inner
  | .elemMods => mergeInto mode.baseMode inner

open Renderer in
def under (a : Aspect) (inner : Renderer Value) : Renderer Value :=
  match a with
  | .wrap => do
    let v ← inner
    request (.renderWrapped v)
  | .replace => do
    let v ← inner
    let c ← context
    request (.renderNode v (some (replacement c)))
  | .extend => do
    let v ← inner
    let c ← context
    request (.renderNode c.node (some v.fieldsOf))
  | .add mode => addTo mode inner

mutual

def render : CompiledBody → Renderer Value
  | .literal v => pure v
  | .call f => f
  | .object entries => do
    let fields ← renderEntries entries
    return .obj (Fields.ofEntries fields)
  | .decorated a inner => under a (render inner)

/-- Entries render in order, also those whose key comes again. -/
def renderEntries : List (String × CompiledBody) → Renderer (List (String × Value))
  | [] => pure []
  | (k, b) :: rest => do
    let v ← render b
    let fields ← renderEntries rest
    return (k, v) :: fields

end

mutual

def inspect : CompiledBody → String
  | .literal v => v.text
  | .call _ => "Call(fn)"
  | .object entries => inspectMapping (inspectEntries entries)
  | .decorated .wrap inner => "Wrap(" ++ inspect inner ++ ")"
  | .decorated .replace inner => "Replace(" ++ inspect inner ++ ")"
  | .decorated .extend inner => "Extend(" ++ inspect inner ++ ")"
  | .decorated (.add mode) inner => "Add(" ++ mode.inspect ++ ", " ++ inspect inner ++ ")"

def inspectEntries : List (String × CompiledBody) → List (String × String)
  | [] => []
  | (k, b) :: rest => (k, inspect b) :: inspectEntries rest

end

end CompiledBody

end BemRules
