import BemRules.Number.Basic
import BemRules.Value.Fields

namespace BemRules

inductive Value where
  | null
  | bool (b : Bool)
  | num (n : Number)
  | str (s : String)
  | arr (items : List Value)
  | obj (fields : List (String × Value))
deriving Repr, Inhabited

abbrev Object := Fields Value

namespace Value

def int (n : Int) : Value := .num (.int n)

mutual

def decEq : (a b : Value) → Decidable (a = b)
  | .null, b =>
    match b with
    | .null => isTrue rfl
    | .bool _ | .num _ | .str _ | .arr _ | .obj _ => isFalse (by simp)
  | .bool x, b =>
    match b with
    | .bool y => decidable_of_iff (x = y) (by simp)
    | .null | .num _ | .str _ | .arr _ | .obj _ => isFalse (by simp)
  | .num x, b =>
    match b with
    | .num y => decidable_of_iff (x = y) (by simp)
    | .null | .bool _ | .str _ | .arr _ | .obj _ => isFalse (by simp)
  | .str x, b =>
    match b with
    | .str y => decidable_of_iff (x = y) (by simp)
    | .null | .bool _ | .num _ | .arr _ | .obj _ => isFalse (by simp)
  | .arr x, b =>
    match b with
    | .arr y => have := decEqItems x y; decidable_of_iff (x = y) (by simp)
    | .null | .bool _ | .num _ | .str _ | .obj _ => isFalse (by simp)
  | .obj x, b =>
    match b with
    | .obj y => have := decEqFields x y; decidable_of_iff (x = y) (by simp)
    | .null | .bool _ | .num _ | .str _ | .arr _ => isFalse (by simp)

def decEqItems : (a b : List Value) → Decidable (a = b)
  | [], b =>
    match b with
    | [] => isTrue rfl
    | _ :: _ => isFalse (by simp)
  | v :: a, b =>
    match b with
    | [] => isFalse (by simp)
    | w :: b =>
      have := decEq v w
      have := decEqItems a b
      decidable_of_iff (v = w ∧ a = b) (by simp)

def decEqFields : (a b : List (String × Value)) → Decidable (a = b)
  | [], b =>
    match b with
    | [] => isTrue rfl
    | _ :: _ => isFalse (by simp)
  | (k, v) :: a, b =>
    match b with
    | [] => isFalse (by simp)
    | (l, w) :: b =>
      have := decEq v w
      have := decEqFields a b
      decidable_of_iff (k = l ∧ v = w ∧ a = b) (by simp [and_assoc])

end

instance : DecidableEq Value := decEq

mutual

/-- Equality up to the order of keys, at every level. -/
def same : Value → Value → Bool
  | .null, .null => true
  | .bool a, .bool b => a == b
  | .num a, .num b => a.same b
  | .str a, .str b => a == b
  | .arr a, .arr b => sameItems a b
  | .obj a, .obj b => a.length == b.length && sameFields a b
  | _, _ => false

def sameItems : List Value → List Value → Bool
  | [], [] => true
  | v :: a, w :: b => same v w && sameItems a b
  | _, _ => false

def sameFields : List (String × Value) → List (String × Value) → Bool
  | [], _ => true
  | (k, v) :: a, b =>
    (match Fields.get? b k with
      | some w => same v w
      | none => false) && sameFields a b

end

def isObj : Value → Bool
  | .obj _ => true
  | _ => false

theorem exists_of_isObj {v : Value} (h : v.isObj) : ∃ fields, v = .obj fields := by
  cases v with
  | obj fields => exact ⟨fields, rfl⟩
  | _ => cases h

def asBool? : Value → Option Bool
  | .bool b => some b
  | _ => none

def asStr? : Value → Option String
  | .str s => some s
  | _ => none

def asObj? : Value → Option Object
  | .obj fields => some fields
  | _ => none

def entry? (v : Value) (key : String) : Option Value := v.asObj?.bind (Fields.get? · key)

def fieldsOf : Value → Object
  | .obj fields => fields
  | _ => []

end Value

end BemRules
