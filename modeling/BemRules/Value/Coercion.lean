import BemRules.Markup.Word
import BemRules.Value.Basic

namespace BemRules.Value

def truthy : Value → Bool
  | .null => false
  | .bool b => b
  | .num n => !n.isZero
  | .str s => !s.isEmpty
  | .arr _ => true
  | .obj _ => true

mutual

/-- The plain form: strings as they are, null as nothing, arrays joined by commas at every level,
and one fixed word for all objects. -/
def plain : Value → String
  | .null => ""
  | .bool b => if b then "true" else "false"
  | .num n => n.text
  | .str s => s
  | .arr items => ",".intercalate (plainItems items)
  | .obj _ => "[object Object]"

def plainItems : List Value → List String
  | [] => []
  | v :: rest => plain v :: plainItems rest

end

def escaped (t : Escape.Table) (v : Value) : String := Escape.encode t v.plain

def nodeKeys : List String := ["block", "elem", "tag", "cls", "attrs"]

def isNode (fields : Object) : Bool :=
  nodeKeys.any fun key => (Fields.get? fields key).any truthy

mutual

/-- Primitives, and objects that are no node and hold a simple value as raw markup. -/
def isSimple : Value → Bool
  | .null => true
  | .bool _ => true
  | .num _ => true
  | .str _ => true
  | .arr _ => false
  | .obj fields => !isNode fields && hasSimpleMarkup fields

def hasSimpleMarkup : List (String × Value) → Bool
  | [] => false
  | (k, v) :: rest => if k = "html" then isSimple v else hasSimpleMarkup rest

end

/-- Two objects are merged, the right one over the left one. Otherwise a truthy left side wins
over the right side, and the right side over what is left of the left one. -/
def extend : Option Value → Option Value → Value
  | some (.obj a), some (.obj b) => .obj (Fields.merge a b)
  | some v, none => v
  | some v, some w => if v.truthy then v else w
  | none, some w => w
  | none, none => .null

def escapeOf (c : Char) : Option (List Char) :=
  match c with
  | '"' => some ['\\', '"']
  | '\\' => some ['\\', '\\']
  | '\x08' => some ['\\', 'b']
  | '\x09' => some ['\\', 't']
  | '\x0a' => some ['\\', 'n']
  | '\x0c' => some ['\\', 'f']
  | '\x0d' => some ['\\', 'r']
  | c =>
    if c.toNat < 32 then
      some ['\\', 'u', '0', '0', Nat.digitChar (c.toNat / 16), Nat.digitChar (c.toNat % 16)]
    else none

def stringText (s : String) : String :=
  String.ofList ('"' :: (s.toList.flatMap fun c => (escapeOf c).getD [c]) ++ ['"'])

mutual

def text : Value → String
  | .null => "null"
  | .bool b => if b then "true" else "false"
  | .num n => n.text
  | .str s => stringText s
  | .arr items => "[" ++ ",".intercalate (itemTexts items) ++ "]"
  | .obj fields => "\x7b" ++ ",".intercalate (fieldTexts fields) ++ "\x7d"

def itemTexts : List Value → List String
  | [] => []
  | v :: rest => text v :: itemTexts rest

def fieldTexts : List (String × Value) → List String
  | [] => []
  | (k, v) :: rest => (stringText k ++ ":" ++ text v) :: fieldTexts rest

end

end BemRules.Value
