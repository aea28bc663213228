import BemRules.Script.Basic

namespace BemRules

structure Meaning where
  templates : List Template := []
  initializers : List Initializer := []
  error : Option RegisterError := none

namespace Meaning

def failed (e : RegisterError) : Meaning := { error := some e }

def attempted (m : Meaning) : Meaning := { m with error := none }

def append (m n : Meaning) : Meaning :=
  ⟨m.templates ++ n.templates, m.initializers ++ n.initializers, n.error⟩

end Meaning

structure ChainState where
  conditions : List Predicate
  closed : Bool

mutual

/-- A chain stands for the templates of what it was closed with, under the conditions it had by
then, and an abandoned chain stands for none. No stack is involved. -/
def Step.meaning (above : List Predicate) : Step → Meaning
  | .onInit i => { initializers := [i] }
  | .look => {}
  | .fail e => .failed e
  | .chain first calls =>
    match first.conditions with
    | .error e => .failed e
    | .ok conditions => Call.meaningOfAll above calls ⟨conditions, false⟩
  | .attempt s => (Step.meaning above s).attempted

def Step.meaningOfAll (above : List Predicate) : List Step → Meaning
  | [] => {}
  | s :: rest =>
    let m := Step.meaning above s
    match m.error with
    | some _ => m
    | none => m.append (Step.meaningOfAll above rest)

def Call.meaning (above : List Predicate) : Call → ChainState → Meaning × ChainState
  | .narrow call, c =>
    match call.conditions with
    | .error e => (.failed e, c)
    | .ok conditions =>
      if c.closed then ({}, c) else ({}, { c with conditions := c.conditions ++ conditions })
  | .body b, c =>
    if c.closed then (.failed .closedScope, c)
    else ({ templates := Template.ofScope (above ++ c.conditions) b }, { c with closed := true })
  | .bodies bs, c =>
    if c.closed then (.failed .closedScope, c)
    else ({ templates := bs.flatMap (Template.ofScope (above ++ c.conditions)) },
      { c with closed := true })
  | .nest steps, c =>
    if c.closed then (.failed .closedScope, c)
    else
      let m := Step.meaningOfAll (above ++ c.conditions) steps
      match m.error with
      | some _ => ({ m with templates := [] }, c)
      | none => (m, { c with closed := true })
  | .attempt call, c =>
    let (m, c) := Call.meaning above call c
    (m.attempted, c)

def Call.meaningOfAll (above : List Predicate) : List Call → ChainState → Meaning
  | [], _ => {}
  | call :: rest, c =>
    let (m, c) := Call.meaning above call c
    match m.error with
    | some _ => m
    | none => m.append (Call.meaningOfAll above rest c)

end

def Script.meaning (s : Script) : Meaning := Step.meaningOfAll [] s

end BemRules
