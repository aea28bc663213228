import BemRules.Script.Basic

namespace BemRules

inductive Event where
  | called (label : String) (error : Option RegisterError)
  | entered (depth : Nat)
  | looked (depth : Nat) (templates : List Template)
  | ended (failed : Bool) (depth count : Nat)

structure Outcome where
  registry : Registry
  events : List Event
  error : Option RegisterError

structure CallOutcome where
  registry : Registry
  chain : Chain
  events : List Event
  error : Option RegisterError

namespace Outcome

def ofStep (r : Registry) (events : List Event) (error : Option RegisterError) : Outcome :=
  ⟨r, events ++ [.ended error.isSome r.depth r.templates.length], error⟩

def attempted (o : Outcome) : Outcome := { o with error := none }

def compiled (o : Outcome) : Except RegisterError Compiled :=
  match o.error with
  | some e => .error e
  | none => .ok o.registry.finish

end Outcome

namespace CallOutcome

def succeed (label : String) (events : List Event) (r : Registry) (c : Chain) : CallOutcome :=
  ⟨r, c, events ++ [.called label none], none⟩

def refuse (label : String) (events : List Event) (r : Registry) (c : Chain) (e : RegisterError) :
    CallOutcome :=
  ⟨r, c, events ++ [.called label (some e)], some e⟩

def attempted (o : CallOutcome) : CallOutcome := { o with error := none }

def close (label : String) (events : List Event) (r : Registry) (c : Chain) (entries : List Entry) :
    CallOutcome :=
  match r.attach c entries with
  | .ok (r, c) => succeed label events r c
  | .error e => refuse label events r c e

end CallOutcome

mutual

def Step.run : Step → Registry → Outcome
  | .onInit i, r => .ofStep (r.addInitializer i) [] none
  | .look, r => .ofStep r [.looked r.depth r.templates] none
  | .fail e, r => .ofStep r [] (some e)
  | .chain first calls, r =>
    match first.conditions with
    | .error e => .ofStep r [.called first.label (some e)] (some e)
    | .ok conditions =>
      let (r, c) := r.openScope conditions
      let o := Call.runAll calls r c
      .ofStep (o.registry.release o.chain) (.called first.label none :: o.events) o.error
  | .attempt s, r => (Step.run s r).attempted

def Step.runAll : List Step → Registry → Outcome
  | [], r => ⟨r, [], none⟩
  | s :: rest, r =>
    let o := Step.run s r
    match o.error with
    | some _ => o
    | none =>
      let p := Step.runAll rest o.registry
      { p with events := o.events ++ p.events }

def Call.run : Call → Registry → Chain → CallOutcome
  | .narrow call, r, c =>
    match call.conditions with
    | .ok conditions => .succeed call.label [] (r.narrow c conditions) c
    | .error e => .refuse call.label [] r c e
  | .body b, r, c => .close "body" [] r c [.body b]
  | .bodies bs, r, c => .close "bodies" [] r c (bs.map .body)
  | .nest steps, r, c =>
    if c.closed then .refuse "nest" [] r c .closedScope
    else
      let o := Step.runAll steps r
      let events := .entered r.depth :: o.events
      match o.error with
      | some e => .refuse "nest" events o.registry c e
      | none =>
        let (r, entries) := o.registry.takeNested c
        .close "nest" events r c entries
  | .attempt call, r, c => (Call.run call r c).attempted

def Call.runAll : List Call → Registry → Chain → CallOutcome
  | [], r, c => ⟨r, c, [], none⟩
  | call :: rest, r, c =>
    let o := Call.run call r c
    match o.error with
    | some _ => o
    | none =>
      let p := Call.runAll rest o.registry o.chain
      { p with events := o.events ++ p.events }

end

def Script.run (s : Script) : Outcome := Step.runAll s {}

def Script.compile (s : Script) : Except RegisterError Compiled := s.run.compiled

end BemRules
