import BemRules.Method.Basic
import BemRules.Text.CharClass

namespace BemRules

namespace Text

def hexEscape (c : Char) : List Char :=
  ['\\', 'u', '{'] ++ Nat.toDigits 16 c.toNat ++ ['}']

/-- Characters that cannot be seen, or would merge with the one before, are written by number. -/
def visible (c : Char) : List Char :=
  match c with
  | '\x00' => ['\\', '0']
  | '\t' => ['\\', 't']
  | '\r' => ['\\', 'r']
  | '\n' => ['\\', 'n']
  | '"' => ['\\', '"']
  | '\\' => ['\\', '\\']
  | c => if isUnprintable c || isCombining c then hexEscape c else [c]

def quoted (s : String) : String := String.ofList ('"' :: s.toList.flatMap visible ++ ['"'])

end Text

def inspectMapping (entries : List (String × String)) : String :=
  "\x7b" ++ ", ".intercalate (entries.map fun (k, v) => Text.quoted k ++ ": " ++ v) ++ "\x7d"

def inspectList (items : List String) : String := "[" ++ ", ".intercalate items ++ "]"

namespace Value

mutual

def inspect : Value → String
  | .null => "Null"
  | .bool b => if b then "Bool(true)" else "Bool(false)"
  | .num n => "Number(" ++ n.text ++ ")"
  | .str s => "String(" ++ Text.quoted s ++ ")"
  | .arr items => "Array " ++ inspectList (inspectItems items)
  | .obj fields => "Object " ++ inspectMapping (inspectFields fields)

def inspectItems : List Value → List String
  | [] => []
  | v :: rest => inspect v :: inspectItems rest

def inspectFields : List (String × Value) → List (String × String)
  | [] => []
  | (k, v) :: rest => (k, inspect v) :: inspectFields rest

end

end Value

def AddMode.inspect : AddMode → String
  | .appendContent => "AppendContent"
  | .prependContent => "PrependContent"
  | .attrs => "Attrs"
  | .js => "Js"
  | .mix => "Mix"
  | .mods => "Mods"
  | .elemMods => "ElemMods"

def Aspect.inspect : Aspect → String
  | .wrap => "Wrap"
  | .replace => "Replace"
  | .extend => "Extend"
  | .add mode => "Add(" ++ mode.inspect ++ ")"

def Test.inspect (_ : Test) : String := "Custom(fn)"

def Predicate.inspect : Predicate → String
  | .property key .present => key.text
  | .property key (.exact text) => key.text ++ " == " ++ Text.quoted text
  | .custom test => test.inspect
  | .options marker => "CompilerOptions(" ++ inspectMapping (Value.inspectFields marker) ++ ")"
  | .aspect a => a.inspect

def inspectRecord (name : String) (fields : List (String × String)) : String :=
  name ++ " \x7b " ++ ", ".intercalate (fields.map fun (k, v) => k ++ ": " ++ v) ++ " \x7d"

def inspectTuple (name : String) (items : List String) : String :=
  name ++ "(" ++ ", ".intercalate items ++ ")"

def Naming.inspect (n : Naming) : String :=
  inspectRecord "Naming" [("elem", Text.quoted n.elem), ("mod_name", Text.quoted n.modName),
    ("mod_val", Text.quoted n.modVal)]

def Options.inspect (o : Options) : String :=
  inspectRecord "Options" [("escape_content", if o.escapeContent then "true" else "false"),
    ("naming", o.naming.inspect)]

def KeyPath.inspect : KeyPath → String
  | .field name => inspectTuple "Field" [Text.quoted name]
  | .path outer name => inspectTuple "Path" [Text.quoted outer, Text.quoted name]

def MatchValue.inspect : MatchValue → String
  | .present => "Present"
  | .exact text => inspectTuple "Exact" [Text.quoted text]

def RegisterError.inspect (e : RegisterError) : String :=
  match e with
  | .missingPredicate => e.kind
  | .invalidPredicate argument => inspectRecord e.kind [("argument", Text.quoted argument)]
  | .unexpectedArguments method arguments =>
    inspectRecord e.kind [("method", Text.quoted method), ("arguments", Text.quoted arguments)]
  | .unknownMethod name => inspectRecord e.kind [("name", Text.quoted name)]
  | .invalidArgument method message =>
    inspectRecord e.kind [("method", Text.quoted method), ("message", Text.quoted message)]
  | .closedScope => e.kind

end BemRules
