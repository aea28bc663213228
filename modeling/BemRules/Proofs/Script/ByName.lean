import BemRules.Proofs.Method.Grammar
import BemRules.Script.Run

namespace BemRules

/-- What a typed call takes for the value of a modifier. -/
inductive Operand where
  | pattern (p : MatchValue)
  | value (v : Value)
  | text (s : String)
  | truth (b : Bool)
  | number (n : Int64)
  | missing
  | given (x : Operand)

namespace Operand

def matchValue : Operand → MatchValue
  | .pattern p => p
  | .value v => .ofValue v
  | .text s => .exact s
  | .truth b => .ofBool b
  | .number n => .ofInt n.toInt
  | .missing => .present
  | .given x => x.matchValue

def plain? : Operand → Option Value
  | .pattern .present => none
  | .pattern (.exact s) => some (.str s)
  | .value v => some v
  | .text s => some (.str s)
  | .truth b => some (.bool b)
  | .number n => some (.int n.toInt)
  | .missing => none
  | .given x => x.plain?

def args (x : Operand) (name : String) : List Arg :=
  .value (.str name) :: x.plain?.toList.map .value

theorem matchValue_eq (x : Operand) :
    x.matchValue = (x.plain?.map MatchValue.ofValue).getD .present := by
  induction x with
  | pattern p => cases p <;> rfl
  | value v => rfl
  | text s => rfl
  | truth b => rfl
  | number n => rfl
  | missing => rfl
  | given x ih => exact ih

theorem modifierArgs (m : Method) (x : Operand) (name : String) :
    m.modifierArgs (x.args name) = .ok (name, x.matchValue) := by
  rw [x.matchValue_eq, args]
  cases x.plain? <;> rfl

end Operand

/-- A typed call, with the method and the arguments that say the same. -/
inductive ConditionCall.SpelledBy : ConditionCall → Method → List Arg → Prop
  | block (name : String) : SpelledBy (.block name) .block [.value (.str name)]
  | elem (name : String) : SpelledBy (.elem name) .elem [.value (.str name)]
  | mode (name : String) : SpelledBy (.mode name) .mode [.value (.str name)]
  | mod (name : String) (x : Operand) : SpelledBy (.mod name x.matchValue) .mod (x.args name)
  | elemMod (name : String) (x : Operand) :
      SpelledBy (.elemMod name x.matchValue) .elemMod (x.args name)
  | options (marker : Object) : SpelledBy (.options marker) .options [.value (.obj marker)]
  | setter (s : Setter) : SpelledBy (.setter s) (.setter s) []
  | matching (args : List Arg) : SpelledBy (.matching args) .matching args

inductive ConditionCall.Restated : ConditionCall → ConditionCall → Prop
  | same (call : ConditionCall) : Restated call call
  | named {call : ConditionCall} {m : Method} {args : List Arg} (h : call.SpelledBy m args) :
      Restated call (.named m.name args)
  | invoke {call : ConditionCall} {m : Method} {args : List Arg} (h : call.SpelledBy m args) :
      Restated call (.invoke m args)

mutual

inductive Step.Restated : Step → Step → Prop
  | same (s : Step) : Step.Restated s s
  | chain {first first' : ConditionCall} {calls calls' : List Call} (hf : first.Restated first')
      (hc : Call.AllRestated calls calls') :
      Step.Restated (.chain first calls) (.chain first' calls')
  | attempt {s t : Step} (h : Step.Restated s t) : Step.Restated (.attempt s) (.attempt t)

inductive Step.AllRestated : List Step → List Step → Prop
  | nil : Step.AllRestated [] []
  | cons {s t : Step} {rest rest' : List Step} (h : Step.Restated s t)
      (hr : Step.AllRestated rest rest') : Step.AllRestated (s :: rest) (t :: rest')

inductive Call.Restated : Call → Call → Prop
  | same (call : Call) : Call.Restated call call
  | narrow {call call' : ConditionCall} (h : call.Restated call') :
      Call.Restated (.narrow call) (.narrow call')
  | nest {steps steps' : List Step} (h : Step.AllRestated steps steps') :
      Call.Restated (.nest steps) (.nest steps')
  | attempt {call call' : Call} (h : Call.Restated call call') :
      Call.Restated (.attempt call) (.attempt call')

inductive Call.AllRestated : List Call → List Call → Prop
  | nil : Call.AllRestated [] []
  | cons {call call' : Call} {rest rest' : List Call} (h : Call.Restated call call')
      (hr : Call.AllRestated rest rest') : Call.AllRestated (call :: rest) (call' :: rest')

end

namespace ConditionCall

theorem SpelledBy.label_eq {call : ConditionCall} {m : Method} {args : List Arg}
    (h : call.SpelledBy m args) : m.name = call.label := by
  cases h <;> rfl

theorem SpelledBy.conditions_eq {call : ConditionCall} {m : Method} {args : List Arg}
    (h : call.SpelledBy m args) : m.conditions args = call.conditions := by
  cases h with
  | mod name x => rw [Method.conditions, x.modifierArgs]; rfl
  | elemMod name x => rw [Method.conditions, x.modifierArgs]; rfl
  | _ => rfl

/-- A call counts by its name and by what it adds or is refused for. -/
structure Alike (call call' : ConditionCall) : Prop where
  label : call'.label = call.label
  conditions : call'.conditions = call.conditions

theorem Restated.alike {call call' : ConditionCall} (h : call.Restated call') :
    call.Alike call' := by
  cases h with
  | same => exact ⟨rfl, rfl⟩
  | named h => exact ⟨h.label_eq, (Method.conditions_named _ _).trans h.conditions_eq⟩
  | invoke h => exact ⟨h.label_eq, h.conditions_eq⟩

end ConditionCall

mutual

theorem Step.Restated.run_eq {s t : Step} (h : s.Restated t) (r : Registry) :
    t.run r = s.run r := by
  cases h with
  | same => rfl
  | attempt h => exact congrArg Outcome.attempted (h.run_eq r)
  | chain hf hc =>
    obtain ⟨hlabel, hconditions⟩ := hf.alike
    rw [Step.run, Step.run, hlabel, hconditions]
    simp only [hc.runAll_eq]

theorem Step.AllRestated.runAll_eq {steps steps' : List Step} (h : Step.AllRestated steps steps')
    (r : Registry) : Step.runAll steps' r = Step.runAll steps r := by
  cases h with
  | nil => rfl
  | cons h hr =>
    rw [Step.runAll, Step.runAll, h.run_eq r]
    simp only [hr.runAll_eq]

theorem Call.Restated.run_eq {call call' : Call} (h : call.Restated call') (r : Registry)
    (c : Chain) : call'.run r c = call.run r c := by
  cases h with
  | same => rfl
  | attempt h => exact congrArg CallOutcome.attempted (h.run_eq r c)
  | narrow h =>
    obtain ⟨hlabel, hconditions⟩ := h.alike
    rw [Call.run, Call.run, hlabel, hconditions]
  | nest h =>
    rw [Call.run, Call.run, h.runAll_eq r]

theorem Call.AllRestated.runAll_eq {calls calls' : List Call} (h : Call.AllRestated calls calls')
    (r : Registry) (c : Chain) : Call.runAll calls' r c = Call.runAll calls r c := by
  cases h with
  | nil => rfl
  | cons h hr =>
    rw [Call.runAll, Call.runAll, h.run_eq r c]
    simp only [hr.runAll_eq]

end

namespace Script

/-- Whichever typed calls of a script are made by name or by method instead, on the registry or on
a chain at any depth, the run is the same: the outcome of every call, the depth and the number of
templates after every step, the error in the end, and all that has been registered. -/
theorem run_eq_of_restated {s t : Script} (h : Step.AllRestated s t) : t.run = s.run :=
  h.runAll_eq {}

def menuTyped : Script :=
  [.attempt (.chain (.block "menu")
    [.narrow (.mod "open" (.ofBool true)),
      .nest
        [.chain (.elem "item")
          [.narrow (.elemMod "level" (.ofInt (-2))), .narrow (.mod "size" .present),
            .narrow (.setter (.aspect (.add .mix))), .attempt (.narrow (.matching [])),
            .body (.value .null)],
          .chain (.options [("escapeContent", .bool false)]) [.body (.value (.str "x"))]]])]

def menuByName : Script :=
  [.attempt (.chain (.named "block" [.value (.str "menu")])
    [.narrow (.named "mod" [.value (.str "open"), .value (.bool true)]),
      .nest
        [.chain (.elem "item")
          [.narrow (.invoke .elemMod [.value (.str "level"), .value (.int (-2))]),
            .narrow (.named "mod" [.value (.str "size")]), .narrow (.named "addMix" []),
            .attempt (.narrow (.named "match" [])), .body (.value .null)],
          .chain (.named "xjstOptions" [.value (.obj [("escapeContent", .bool false)])])
            [.body (.value (.str "x"))]]])]

theorem run_menuByName :
    Step.AllRestated menuTyped menuByName ∧ menuByName.run = menuTyped.run := by
  have hopen : ConditionCall.Restated (.mod "open" (.ofBool true))
      (.named "mod" [.value (.str "open"), .value (.bool true)]) :=
    .named (.mod "open" (.truth true))
  have hlevel : ConditionCall.Restated (.elemMod "level" (.ofInt (-2)))
      (.invoke .elemMod [.value (.str "level"), .value (.int (-2))]) :=
    .invoke (.elemMod "level" (.number (-2)))
  have hsize : ConditionCall.Restated (.mod "size" .present)
      (.named "mod" [.value (.str "size")]) := .named (.mod "size" .missing)
  have hmatch : Call.Restated (.attempt (.narrow (.matching [])))
      (.attempt (.narrow (.named "match" []))) := .attempt (.narrow (.named (.matching [])))
  have hitem := Step.Restated.chain (.same (.elem "item")) (.cons (.narrow hlevel)
    (.cons (.narrow hsize) (.cons (.narrow (.named (.setter (.aspect (.add .mix)))))
      (.cons hmatch (.cons (.same (.body (.value .null))) .nil)))))
  have hoptions := Step.Restated.chain (.named (.options [("escapeContent", .bool false)]))
    (.cons (.same (.body (.value (.str "x")))) .nil)
  have h : Step.AllRestated menuTyped menuByName :=
    .cons (.attempt (.chain (.named (.block "menu"))
      (.cons (.narrow hopen) (.cons (.nest (.cons hitem (.cons hoptions .nil))) .nil)))) .nil
  exact ⟨h, run_eq_of_restated h⟩

end Script

end BemRules
