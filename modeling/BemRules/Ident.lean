import BemRules.Value.Basic

namespace BemRules

/-- The identifiers drawn so far are numbered from one; the number wraps around at 64 bits. -/
structure IdSource where
  seed : Nat
  count : UInt64 := 0
deriving DecidableEq, Repr

namespace IdSource

def stem (g : IdSource) : String := "uniq" ++ toString g.seed

def expando (g : IdSource) : String := "__" ++ toString g.seed

def draw (g : IdSource) : String × IdSource :=
  let n := g.count + 1
  (g.stem ++ toString n.toNat, { g with count := n })

/-- The identifier an object keeps; the object gets a fresh one when it has none, unless it is
only looked at. A value that is no object cannot keep one and gets a fresh one each time. -/
def identify (g : IdSource) (v : Value) (onlyGet : Bool) : Option String × Value × IdSource :=
  match v with
  | .obj fields =>
    match Fields.get? fields g.expando with
    | some kept => (kept.asStr?, v, g)
    | none =>
      if onlyGet then (none, v, g)
      else
        let (id, g') := g.draw
        (some id, .obj (Fields.insert fields g.expando (.str id)), g')
  | _ =>
    let (id, g') := g.draw
    (some id, v, g')

end IdSource

end BemRules
