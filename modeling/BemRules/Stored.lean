import BemRules.Method.Basic

namespace BemRules

/-- Records stand as objects and are read from lists of their fields too. Alternatives stand as
their name, or as an object with their name over their content. Fields that are not known are
ignored. -/
class Stored (α : Type) where
  write : α → Value
  read? : Value → Option α

namespace Stored

instance : Stored Bool where
  write := .bool
  read? := Value.asBool?

instance : Stored String where
  write := .str
  read? := Value.asStr?

/-- What is given for the fields of a record, by name or by place. -/
def given? (names : List String) : Value → Option (String → Option Value)
  | .obj fields => some (Fields.get? fields)
  | .arr items =>
    if items.length ≤ names.length then some (Fields.get? (names.zip items)) else none
  | _ => none

variable {α : Type} [Stored α]

/-- A field that is left out keeps its default; null is no way to leave it out. -/
def readOr (default : α) : Option Value → Option α
  | some v => read? v
  | none => some default

def required (name : String) (content : Value) : Option α := (content.entry? name).bind read?

def alternative? : Value → Option (String × Option Value)
  | .str name => some (name, none)
  | .obj [(name, content)] => some (name, some content)
  | _ => none

def isBare : Option Value → Bool
  | none => true
  | some .null => true
  | _ => false

def bare? {α : Type} (x : α) (content : Option Value) : Option α :=
  if isBare content then some x else none

def record (name : String) (fields : List (String × String)) : Value :=
  .obj [(name, .obj (fields.map fun (k, s) => (k, .str s)))]

end Stored

open Stored

instance : Stored Naming where
  write n := .obj [("elem", write n.elem), ("modName", write n.modName), ("modVal", write n.modVal)]
  read? v := do
    let given ← given? ["elem", "modName", "modVal"] v
    let d : Naming := {}
    return {
      elem := ← readOr d.elem (given "elem")
      modName := ← readOr d.modName (given "modName")
      modVal := ← readOr d.modVal (given "modVal") }

instance : Stored Options where
  write o := .obj [("escapeContent", write o.escapeContent), ("naming", write o.naming)]
  read? v := do
    let given ← given? ["escapeContent", "naming"] v
    let d : Options := {}
    return {
      escapeContent := ← readOr d.escapeContent (given "escapeContent")
      naming := ← readOr d.naming (given "naming") }

instance : Stored KeyPath where
  write
    | .field name => .obj [("Field", .str name)]
    | .path outer name => .obj [("Path", .arr [.str outer, .str name])]
  read? v := do
    match ← alternative? v with
    | ("Field", some (.str name)) => some (.field name)
    | ("Path", some (.arr [.str outer, .str name])) => some (.path outer name)
    | _ => none

instance : Stored MatchValue where
  write
    | .present => .str "Present"
    | .exact text => .obj [("Exact", .str text)]
  read? v := do
    match ← alternative? v with
    | ("Present", content) => bare? .present content
    | ("Exact", some (.str text)) => some (.exact text)
    | _ => none

instance : Stored AddMode where
  write
    | .appendContent => .str "AppendContent"
    | .prependContent => .str "PrependContent"
    | .attrs => .str "Attrs"
    | .js => .str "Js"
    | .mix => .str "Mix"
    | .mods => .str "Mods"
    | .elemMods => .str "ElemMods"
  read? v := do
    match ← alternative? v with
    | ("AppendContent", content) => bare? .appendContent content
    | ("PrependContent", content) => bare? .prependContent content
    | ("Attrs", content) => bare? .attrs content
    | ("Js", content) => bare? .js content
    | ("Mix", content) => bare? .mix content
    | ("Mods", content) => bare? .mods content
    | ("ElemMods", content) => bare? .elemMods content
    | _ => none

instance : Stored RegisterError where
  write e :=
    match e with
    | .missingPredicate => .str e.kind
    | .invalidPredicate argument => record e.kind [("argument", argument)]
    | .unexpectedArguments method arguments =>
      record e.kind [("method", method), ("arguments", arguments)]
    | .unknownMethod name => record e.kind [("name", name)]
    | .invalidArgument method message => record e.kind [("method", method), ("message", message)]
    | .closedScope => .str e.kind
  read? v := do
    match ← alternative? v with
    | ("MissingPredicate", content) => bare? .missingPredicate content
    | ("InvalidPredicate", some content) =>
      return .invalidPredicate (← required "argument" content)
    | ("UnexpectedArguments", some content) =>
      return .unexpectedArguments (← required "method" content) (← required "arguments" content)
    | ("UnknownMethod", some content) =>
      return .unknownMethod (← required "name" content)
    | ("InvalidArgument", some content) =>
      return .invalidArgument (← required "method" content) (← required "message" content)
    | ("ClosedScope", content) => bare? .closedScope content
    | _ => none

end BemRules
