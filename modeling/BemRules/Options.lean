import BemRules.Value.Basic

namespace BemRules

/-- The separators between block and element, before a modifier's name and before its value. -/
structure Naming where
  elem : String := "__"
  modName : String := "_"
  modVal : String := "_"
deriving DecidableEq, Repr, Inhabited

inductive ModValue where
  | flag
  | value (v : String)
  | off
deriving DecidableEq, Repr, Inhabited

def ModValue.isSet : ModValue → Bool
  | .flag => true
  | .value v => !v.isEmpty
  | .off => false

namespace Naming

def build (n : Naming) (block : String) : Option String → String
  | some elem => if elem.isEmpty then block else block ++ n.elem ++ elem
  | none => block

def modifier (n : Naming) (name : String) : ModValue → String
  | .flag => n.modName ++ name
  | .value v => n.modName ++ name ++ n.modVal ++ v
  | .off => n.modName ++ name ++ n.modVal ++ "false"

/-- A modifier that is not set leaves the class of the block bare. -/
def blockClass (n : Naming) (block : String) : Option (String × ModValue) → String
  | some (name, value) => if value.isSet then block ++ n.modifier name value else block
  | none => block

/-- The class of an element carries its modifier whether it is set or not. -/
def elemClass (n : Naming) (block elem name : String) (value : ModValue) : String :=
  block ++ n.elem ++ elem ++ n.modifier name value

/-- What stands before and behind the first occurrence of a word, the empty word occurring at
the start. -/
def splitAtFirst? (word : List Char) : List Char → Option (List Char × List Char)
  | [] => if word.isEmpty then some ([], []) else none
  | c :: cs =>
    if word.isPrefixOf (c :: cs) then some ([], (c :: cs).drop word.length)
    else (splitAtFirst? word cs).map fun (before, behind) => (c :: before, behind)

theorem append_of_splitAtFirst? {word cs before behind : List Char}
    (h : splitAtFirst? word cs = some (before, behind)) : before ++ word ++ behind = cs := by
  induction cs generalizing before behind with
  | nil =>
    rw [splitAtFirst?] at h
    split at h
    · next hw =>
      obtain ⟨rfl, rfl⟩ := Prod.mk.inj (Option.some.inj h)
      rw [List.isEmpty_iff.1 hw]
      rfl
    · contradiction
  | cons c cs ih =>
    rw [splitAtFirst?] at h
    split at h
    · next hw =>
      obtain ⟨rfl, rfl⟩ := Prod.mk.inj (Option.some.inj h)
      exact List.prefix_iff_eq_append.1 (List.isPrefixOf_iff_prefix.1 hw)
    · obtain ⟨⟨b, r⟩, hs, he⟩ := Option.map_eq_some_iff.1 h
      obtain ⟨rfl, rfl⟩ := Prod.mk.inj he
      rw [← ih hs]
      rfl

def split (n : Naming) (key : String) : List String :=
  match splitAtFirst? n.elem.toList key.toList with
  | some (before, behind) => [String.ofList before, String.ofList behind]
  | none => [key]

end Naming

structure Options where
  escapeContent : Bool := true
  naming : Naming := {}
deriving DecidableEq, Repr, Inhabited

namespace Options

/-- One text sets both modifier separators, an object sets each by its own name. A setting of the
wrong kind is ignored. -/
def overrideModifiers (n : Naming) : Option Value → Naming
  | some (.str s) => { n with modName := s, modVal := s }
  | some (.obj delims) =>
    { n with
      modName := ((Fields.get? delims "name").bind Value.asStr?).getD n.modName
      modVal := ((Fields.get? delims "val").bind Value.asStr?).getD n.modVal }
  | _ => n

def overrideNaming (n : Naming) (settings : Object) : Naming :=
  let n := { n with elem := ((Fields.get? settings "elem").bind Value.asStr?).getD n.elem }
  overrideModifiers n (Fields.get? settings "mod")

def applyOverrides (o : Options) (overrides : Object) : Options where
  escapeContent :=
    ((Fields.get? overrides "escapeContent").bind Value.asBool?).getD o.escapeContent
  naming :=
    match (Fields.get? overrides "naming").bind Value.asObj? with
    | some settings => overrideNaming o.naming settings
    | none => o.naming

end Options

end BemRules
