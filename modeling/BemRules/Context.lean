import BemRules.Ident
import BemRules.Options
import BemRules.Value.Coercion

namespace BemRules

inductive KeyPath where
  | field (name : String)
  | path (outer name : String)
deriving DecidableEq, Repr, Inhabited

namespace KeyPath

def mods (name : String) : KeyPath := .path "mods" name

def elemMods (name : String) : KeyPath := .path "elemMods" name

def asField? : KeyPath → Option String
  | .field name => some name
  | .path _ _ => none

def head : KeyPath → String
  | .field name => name
  | .path outer _ => outer

def isModsPath : KeyPath → Bool
  | .field _ => false
  | .path outer _ => outer == "mods" || outer == "elemMods"

def text : KeyPath → String
  | .field name => name
  | .path outer name => outer ++ "." ++ name

end KeyPath

structure Context where
  node : Value := .null
  block : String := ""
  elem : Option String := none
  mods : Object := []
  elemMods : Object := []
  mode : String := ""
  /-- Counted from one. -/
  position : UInt64 := 0
  listLength : UInt64 := 0
  escapeContent : Bool := true
  naming : Naming := {}
  fields : Object := []
deriving DecidableEq, Repr, Inhabited

namespace Context

def ofOptions (o : Options) : Context :=
  { escapeContent := o.escapeContent, naming := o.naming }

def field? (c : Context) (name : String) : Option Value := Fields.get? c.fields name

/-- Six names read the entity itself, all others the stored fields. A stored field is found under
one of the six only by a path into it. -/
def property (c : Context) : KeyPath → Option Value
  | .field name =>
    if name = "block" then some (.str c.block)
    else if name = "elem" then c.elem.map .str
    else if name = "_mode" then some (.str c.mode)
    else if name = "position" then some (.int c.position.toNat)
    else if name = "mods" then some (.obj c.mods)
    else if name = "elemMods" then some (.obj c.elemMods)
    else c.field? name
  | .path outer name =>
    if outer = "mods" then Fields.get? c.mods name
    else if outer = "elemMods" then Fields.get? c.elemMods name
    else (c.field? outer).bind (Value.entry? · name)

/-- Stores a result. The two modifier fields replace the modifiers, and clear them when the result
is no object. -/
def setField (c : Context) (name : String) (v : Value) : Context :=
  if name = "mods" then { c with mods := v.fieldsOf }
  else if name = "elemMods" then { c with elemMods := v.fieldsOf }
  else { c with fields := Fields.insert c.fields name v }

def isFirst (c : Context) : Bool := c.position == 1

def isLast (c : Context) : Bool := c.position == c.listLength

def generateId (c : Context) (g : IdSource) : Option String × Context × IdSource :=
  let (id, node, g) := g.identify c.node false
  (id, { c with node := node }, g)

end Context

end BemRules
