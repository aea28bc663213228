import Mathlib.Data.List.Forall2
import BemRules.Script.Basic

namespace BemRules

namespace Arg

inductive Denotes : Arg → Predicate → Prop where
  | predicate (p : Predicate) : Denotes (.predicate p) p
  | test (t : Test) : Denotes (.test t) (.custom t)

theorem toPredicates_of_denotes {args : List Arg} {ps : List Predicate}
    (h : List.Forall₂ Denotes args ps) : toPredicates args = .ok ps := by
  induction h with
  | nil => rfl
  | cons ha _ ih =>
    cases ha with
    | predicate p => rw [toPredicates, ih]; rfl
    | test t => rw [toPredicates, ih]; rfl

theorem toPredicates_of_value {before : List Arg} (v : Value) (after : List Arg)
    (h : ∀ a ∈ before, ∀ w, a ≠ .value w) :
    toPredicates (before ++ .value v :: after) = .error (.invalidPredicate v.text) := by
  induction before with
  | nil => rfl
  | cons a before ih =>
    obtain ⟨ha, hbefore⟩ := List.forall_mem_cons.mp h
    rw [List.cons_append, toPredicates, ih hbefore]
    cases a with
    | value w => exact absurd rfl (ha w)
    | predicate p | test t => rfl

theorem ne_value_of_denotes {args : List Arg} {ps : List Predicate}
    (h : List.Forall₂ Denotes args ps) : ∀ a ∈ args, ∀ w, a ≠ .value w := by
  induction h with
  | nil => exact List.forall_mem_nil _
  | cons ha _ ih =>
    refine List.forall_mem_cons.mpr ⟨?_, ih⟩
    rintro w rfl
    cases ha

theorem denotes_or_value (args : List Arg) :
    (∃ ps, List.Forall₂ Denotes args ps) ∨ ∃ before v after,
      args = before ++ .value v :: after ∧ ∀ a ∈ after, ∀ w, a ≠ .value w := by
  induction args with
  | nil => exact .inl ⟨[], .nil⟩
  | cons a rest ih =>
    rcases ih with ⟨ps, hps⟩ | ⟨before, v, after, rfl, hafter⟩
    · cases a with
      | value v => exact .inr ⟨[], v, rest, rfl, ne_value_of_denotes hps⟩
      | predicate p => exact .inl ⟨p :: ps, .cons (.predicate p) hps⟩
      | test t => exact .inl ⟨.custom t :: ps, .cons (.test t) hps⟩
    · exact .inr ⟨a :: before, v, after, rfl, hafter⟩

end Arg

namespace Method

def fieldMethods : List (String × String) :=
  [("block", "block"), ("elem", "elem"), ("mode", "_mode")]

def modifierMethods : List (String × String) := [("mod", "mods"), ("elemMod", "elemMods")]

/-- The methods without arguments, the mode each one matches, and the aspect it attaches. -/
def fixedMethods : List (String × String × Option Aspect) :=
  [("wrap", "default", some .wrap), ("replace", "default", some .replace),
    ("extend", "default", some .extend), ("def", "default", none),
    ("content", "content", none), ("appendContent", "content", some (.add .appendContent)),
    ("prependContent", "content", some (.add .prependContent)),
    ("attrs", "attrs", none), ("addAttrs", "attrs", some (.add .attrs)),
    ("js", "js", none), ("addJs", "js", some (.add .js)),
    ("mix", "mix", none), ("addMix", "mix", some (.add .mix)),
    ("mods", "mods", none), ("addMods", "mods", some (.add .mods)),
    ("elemMods", "elemMods", none), ("addElemMods", "elemMods", some (.add .elemMods)),
    ("tag", "tag", none), ("cls", "cls", none), ("bem", "bem", none)]

def names : List String :=
  ["match", "xjstOptions"] ++ fieldMethods.map Prod.fst ++ modifierMethods.map Prod.fst ++
    fixedMethods.map Prod.fst

/-- The calls that are accepted, and the predicates they contribute. -/
inductive Accepts : String → List Arg → List Predicate → Prop where
  | matching {args : List Arg} {ps : List Predicate} (hargs : args ≠ [])
      (h : List.Forall₂ Arg.Denotes args ps) : Accepts "match" args ps.reverse
  | field {name field : String} (text : String) (h : (name, field) ∈ fieldMethods) :
      Accepts name [.value (.str text)] [.property (.field field) (.exact text)]
  | present {name outer : String} (text : String) (h : (name, outer) ∈ modifierMethods) :
      Accepts name [.value (.str text)] [.property (.path outer text) .present]
  | null {name outer : String} (text : String) (h : (name, outer) ∈ modifierMethods) :
      Accepts name [.value (.str text), .value .null] [.property (.path outer text) (.exact "null")]
  | modifier {name outer : String} (text : String) {v : Value} (hv : v ≠ .null)
      (h : (name, outer) ∈ modifierMethods) :
      Accepts name [.value (.str text), .value v] [.property (.path outer text) (.exact v.plain)]
  | options (marker : Object) : Accepts "xjstOptions" [.value (.obj marker)] [.options marker]
  | fixed {name mode : String} {aspect : Option Aspect} (h : (name, mode, aspect) ∈ fixedMethods) :
      Accepts name []
        (.property (.field "_mode") (.exact mode) :: aspect.toList.map .aspect)

/-- Arguments that do not fit a method which takes some, and what is said about them: their number
comes first, then the first of them, then the second. -/
inductive Misfit : String → List Arg → String → Prop where
  | notOne {name : String} {args : List Arg}
      (hn : name ∈ "xjstOptions" :: fieldMethods.map Prod.fst) (hargs : args.length ≠ 1) :
      Misfit name args ("expected 1 argument(s), got " ++ toString args.length)
  | notOneOrTwo {name : String} {args : List Arg} (hn : name ∈ modifierMethods.map Prod.fst)
      (hargs : args.length ≠ 1 ∧ args.length ≠ 2) :
      Misfit name args "expected a name and an optional value"
  | fieldText {name : String} {a : Arg} (hn : name ∈ fieldMethods.map Prod.fst)
      (ha : ∀ s, a ≠ .value (.str s)) : Misfit name [a] ("expected a string, got " ++ a.inspect)
  | modifierText {name : String} {a : Arg} {rest : List Arg}
      (hn : name ∈ modifierMethods.map Prod.fst) (hrest : rest.length ≤ 1)
      (ha : ∀ s, a ≠ .value (.str s)) :
      Misfit name (a :: rest) ("expected a string, got " ++ a.inspect)
  | modifierValue {name text : String} {a : Arg} (hn : name ∈ modifierMethods.map Prod.fst)
      (ha : ∀ v, a ≠ .value v) :
      Misfit name [.value (.str text), a]
        ("modifier value must be a plain value, got " ++ a.inspect)
  | options {a : Arg} (ha : ∀ marker, a ≠ .value (.obj marker)) :
      Misfit "xjstOptions" [a] ("expected an options object, got " ++ a.inspect)

/-- The calls that are refused, and what for. -/
inductive Refuses : String → List Arg → RegisterError → Prop where
  | unknown {name : String} {args : List Arg} (h : name ∉ names) :
      Refuses name args (.unknownMethod name)
  | nothing : Refuses "match" [] .missingPredicate
  | plain {before : List Arg} {v : Value} {after : List Arg} (h : ∀ a ∈ after, ∀ w, a ≠ .value w) :
      Refuses "match" (before ++ .value v :: after) (.invalidPredicate v.text)
  | unexpected {name : String} {args : List Arg} (hn : name ∈ fixedMethods.map Prod.fst)
      (hargs : args ≠ []) :
      Refuses name args
        (.unexpectedArguments name ("[" ++ ",".intercalate (args.map Arg.inspect) ++ "]"))
  | misfit {name message : String} {args : List Arg} (h : Misfit name args message) :
      Refuses name args (.invalidArgument name message)

theorem mem_all (m : Method) : m ∈ all := List.mem_of_find?_eq_some (ofName?_name m)

def fixedRow : Setter → String × String × Option Aspect
  | .default => ("def", "default", none)
  | .output m => (m.name, m.name, none)
  | .aspect a => (a.methodName, a.baseMode, some a)

def setter? : Method → Option Setter
  | .setter s => some s
  | _ => none

theorem mem_fixedMethods_iff (row : String × String × Option Aspect) :
    row ∈ fixedMethods ↔ ∃ s, fixedRow s = row := by
  have hrows : fixedMethods = (all.filterMap setter?).map fixedRow := rfl
  rw [hrows, List.mem_map]
  constructor
  · rintro ⟨s, -, hs⟩
    exact ⟨s, hs⟩
  · rintro ⟨s, hs⟩
    exact ⟨s, List.mem_filterMap.mpr ⟨.setter s, mem_all _, rfl⟩, hs⟩

theorem name_mem_names (m : Method) : m.name ∈ names := by
  cases m with
  | setter s =>
    have hrow : fixedRow s ∈ fixedMethods := (mem_fixedMethods_iff _).mpr ⟨s, rfl⟩
    have hname : s.name = (fixedRow s).1 := by cases s <;> rfl
    exact List.mem_append_right _ (List.mem_map.mpr ⟨_, hrow, hname.symm⟩)
  | _ => decide

theorem exists_fieldMethod {name field : String} (h : (name, field) ∈ fieldMethods) :
    ∃ m : Method, m.name = name ∧ ∀ args, m.conditions args =
      (m.nameArg args).map fun text => [.property (.field field) (.exact text)] := by
  simp only [fieldMethods, List.mem_cons, Prod.mk.injEq, List.not_mem_nil, or_false] at h
  rcases h with ⟨rfl, rfl⟩ | ⟨rfl, rfl⟩ | ⟨rfl, rfl⟩
  · exact ⟨.block, rfl, fun _ => rfl⟩
  · exact ⟨.elem, rfl, fun _ => rfl⟩
  · exact ⟨.mode, rfl, fun _ => rfl⟩

theorem exists_modifierMethod {name outer : String} (h : (name, outer) ∈ modifierMethods) :
    ∃ m : Method, m.name = name ∧ ∀ args, m.conditions args =
      (m.modifierArgs args).map fun (text, value) => [.property (.path outer text) value] := by
  simp only [modifierMethods, List.mem_cons, Prod.mk.injEq, List.not_mem_nil, or_false] at h
  rcases h with ⟨rfl, rfl⟩ | ⟨rfl, rfl⟩
  · exact ⟨.mod, rfl, fun _ => rfl⟩
  · exact ⟨.elemMod, rfl, fun _ => rfl⟩

theorem exists_setter {name mode : String} {aspect : Option Aspect}
    (h : (name, mode, aspect) ∈ fixedMethods) : ∃ s : Setter, s.name = name ∧
      s.conditions = .property (.field "_mode") (.exact mode) :: aspect.toList.map .aspect := by
  obtain ⟨s, hs⟩ := (mem_fixedMethods_iff _).mp h
  refine ⟨s, ?_⟩
  cases s <;> cases hs <;> exact ⟨rfl, rfl⟩

theorem conditions_matching {args : List Arg} (h : args ≠ []) :
    matching.conditions args = Arg.toPredicates args.reverse := by
  cases args with
  | nil => exact absurd rfl h
  | cons a rest => rfl

theorem single_of_length (m : Method) {args : List Arg} (h : args.length ≠ 1) :
    m.single args = m.refuse ("expected 1 argument(s), got " ++ toString args.length) := by
  match args with
  | [] => rfl
  | [a] => exact absurd rfl h
  | a :: b :: rest => rfl

theorem textArg_of_ne (m : Method) {a : Arg} (h : ∀ s, a ≠ .value (.str s)) :
    m.textArg a = m.refuse ("expected a string, got " ++ a.inspect) := by
  cases a with
  | value v =>
    cases v with
    | str s => exact absurd rfl (h s)
    | _ => rfl
  | _ => rfl

theorem nameArg_singleton (m : Method) (a : Arg) : m.nameArg [a] = m.textArg a := rfl

theorem valueArg_of_ne (m : Method) {a : Arg} (h : ∀ v, a ≠ .value v) :
    m.valueArg (some a) =
      m.refuse ("modifier value must be a plain value, got " ++ a.inspect) := by
  cases a with
  | value v => exact absurd rfl (h v)
  | _ => rfl

theorem optionsArg_of_ne (m : Method) {a : Arg} (h : ∀ marker, a ≠ .value (.obj marker)) :
    m.optionsArg [a] = m.refuse ("expected an options object, got " ++ a.inspect) := by
  cases a with
  | value v =>
    cases v with
    | obj marker => exact absurd rfl (h marker)
    | _ => rfl
  | _ => rfl

theorem modifierArgs_of_length (m : Method) {args : List Arg}
    (h : args.length ≠ 1 ∧ args.length ≠ 2) :
    m.modifierArgs args = m.refuse "expected a name and an optional value" := by
  match args with
  | [] => rfl
  | [a] => exact absurd rfl h.1
  | [a, b] => exact absurd rfl h.2
  | a :: b :: c :: rest => rfl

theorem modifierArgs_cons (m : Method) (a : Arg) {rest : List Arg} (h : rest.length ≤ 1) :
    m.modifierArgs (a :: rest) = m.modifierWith a rest.head? := by
  match rest with
  | [] => rfl
  | [b] => rfl
  | b :: c :: rest => simp at h

theorem conditions_named (m : Method) (args : List Arg) :
    (ConditionCall.named m.name args).conditions = m.conditions args := by
  rw [ConditionCall.conditions, ofName, ofName?_name]

theorem conditions_unknown {name : String} (h : name ∉ names) (args : List Arg) :
    (ConditionCall.named name args).conditions = .error (.unknownMethod name) := by
  have hnone : ofName? name = none := by
    rw [ofName?, List.find?_eq_none]
    intro m _ hm
    exact h (beq_iff_eq.mp hm ▸ m.name_mem_names)
  rw [ConditionCall.conditions, ofName, hnone]

variable {name : String} {args : List Arg}

theorem Accepts.conditions_eq {ps : List Predicate} (h : Accepts name args ps) :
    (ConditionCall.named name args).conditions = .ok ps := by
  cases h with
  | matching hargs hps =>
    refine (conditions_named .matching args).trans ?_
    rw [conditions_matching hargs, Arg.toPredicates_of_denotes (List.rel_reverse hps)]
  | field text hn =>
    obtain ⟨m, rfl, hm⟩ := exists_fieldMethod hn
    rw [conditions_named, hm]
    rfl
  | present text hn | null text hn =>
    obtain ⟨m, rfl, hm⟩ := exists_modifierMethod hn
    rw [conditions_named, hm]
    rfl
  | @modifier _ _ text v hv hn =>
    obtain ⟨m, rfl, hm⟩ := exists_modifierMethod hn
    rw [conditions_named, hm]
    cases v with
    | null => exact absurd rfl hv
    | _ => rfl
  | options marker => exact conditions_named .options _
  | fixed hn =>
    obtain ⟨s, rfl, hs⟩ := exists_setter hn
    rw [← hs]
    exact conditions_named (.setter s) []

theorem conditions_of_nameArg {message : String} (hn : name ∈ fieldMethods.map Prod.fst)
    (h : ∀ m, nameArg m args = m.refuse message) :
    (ConditionCall.named name args).conditions = .error (.invalidArgument name message) := by
  obtain ⟨⟨_, field⟩, hrow, rfl⟩ := List.mem_map.mp hn
  obtain ⟨m, rfl, hm⟩ := exists_fieldMethod hrow
  rw [conditions_named, hm, h m]
  rfl

theorem conditions_of_modifierArgs {message : String} (hn : name ∈ modifierMethods.map Prod.fst)
    (h : ∀ m, modifierArgs m args = m.refuse message) :
    (ConditionCall.named name args).conditions = .error (.invalidArgument name message) := by
  obtain ⟨⟨_, outer⟩, hrow, rfl⟩ := List.mem_map.mp hn
  obtain ⟨m, rfl, hm⟩ := exists_modifierMethod hrow
  rw [conditions_named, hm, h m]
  rfl

theorem Misfit.conditions_eq {message : String} (h : Misfit name args message) :
    (ConditionCall.named name args).conditions = .error (.invalidArgument name message) := by
  cases h with
  | notOne hn hargs =>
    rcases List.mem_cons.mp hn with rfl | hfield
    · refine (conditions_named .options args).trans ?_
      rw [conditions, optionsArg, single_of_length _ hargs]
      rfl
    · refine conditions_of_nameArg hfield fun m => ?_
      rw [nameArg, single_of_length m hargs]
      rfl
  | notOneOrTwo hn hargs =>
    exact conditions_of_modifierArgs hn fun m => modifierArgs_of_length m hargs
  | fieldText hn ha =>
    refine conditions_of_nameArg hn fun m => ?_
    rw [nameArg_singleton, textArg_of_ne m ha]
  | modifierText hn hrest ha =>
    refine conditions_of_modifierArgs hn fun m => ?_
    rw [modifierArgs_cons m _ hrest, modifierWith, textArg_of_ne m ha]
    rfl
  | modifierValue hn ha =>
    refine conditions_of_modifierArgs hn fun m => ?_
    rw [modifierArgs, modifierWith, textArg, valueArg_of_ne m ha]
    rfl
  | options ha =>
    refine (conditions_named .options _).trans ?_
    rw [conditions, optionsArg_of_ne _ ha]
    rfl

theorem Refuses.conditions_eq {e : RegisterError} (h : Refuses name args e) :
    (ConditionCall.named name args).conditions = .error e := by
  cases h with
  | unknown hn => exact conditions_unknown hn args
  | nothing => exact conditions_named .matching []
  | @plain before v after hafter =>
    have hargs : before ++ .value v :: after ≠ [] := by simp
    refine (conditions_named .matching _).trans ?_
    rw [conditions_matching hargs, List.reverse_append, List.reverse_cons, List.append_assoc]
    refine Arg.toPredicates_of_value v before.reverse ?_
    intro a ha
    exact hafter a (List.mem_reverse.mp ha)
  | unexpected hn hargs =>
    obtain ⟨⟨_, mode, aspect⟩, hrow, rfl⟩ := List.mem_map.mp hn
    obtain ⟨s, rfl, -⟩ := exists_setter hrow
    refine (conditions_named (.setter s) args).trans ?_
    cases args with
    | nil => exact absurd rfl hargs
    | cons a rest => rfl
  | misfit hm => exact hm.conditions_eq

def Decided (name : String) (args : List Arg) : Prop :=
  (∃ ps, Accepts name args ps) ∨ ∃ e, Refuses name args e

theorem Misfit.decided {message : String} (h : Misfit name args message) : Decided name args :=
  .inr ⟨_, .misfit h⟩

theorem decided_matching (args : List Arg) : Decided "match" args := by
  rcases Arg.denotes_or_value args with ⟨ps, hps⟩ | ⟨before, v, after, rfl, hafter⟩
  · by_cases hargs : args = []
    · subst hargs
      exact .inr ⟨_, .nothing⟩
    · exact .inl ⟨_, .matching hargs hps⟩
  · exact .inr ⟨_, .plain hafter⟩

theorem decided_options (args : List Arg) : Decided "xjstOptions" args := by
  by_cases hargs : args.length = 1
  · obtain ⟨a, rfl⟩ := List.length_eq_one_iff.mp hargs
    by_cases ha : ∃ marker, a = .value (.obj marker)
    · obtain ⟨marker, rfl⟩ := ha
      exact .inl ⟨_, .options marker⟩
    · exact (Misfit.options (not_exists.mp ha)).decided
  · exact (Misfit.notOne List.mem_cons_self hargs).decided

theorem decided_field {field : String} (h : (name, field) ∈ fieldMethods) (args : List Arg) :
    Decided name args := by
  have hname : name ∈ fieldMethods.map Prod.fst := List.mem_map_of_mem h
  by_cases hargs : args.length = 1
  · obtain ⟨a, rfl⟩ := List.length_eq_one_iff.mp hargs
    by_cases ha : ∃ s, a = .value (.str s)
    · obtain ⟨s, rfl⟩ := ha
      exact .inl ⟨_, .field s h⟩
    · exact (Misfit.fieldText hname (not_exists.mp ha)).decided
  · exact (Misfit.notOne (List.mem_cons_of_mem _ hname) hargs).decided

theorem decided_modifier {outer : String} (h : (name, outer) ∈ modifierMethods)
    (args : List Arg) : Decided name args := by
  have hname : name ∈ modifierMethods.map Prod.fst := List.mem_map_of_mem h
  by_cases hargs : args.length ≠ 1 ∧ args.length ≠ 2
  · exact (Misfit.notOneOrTwo hname hargs).decided
  obtain ⟨a, rest, rfl⟩ : ∃ a rest, args = a :: rest := by
    cases args with
    | nil => simp at hargs
    | cons a rest => exact ⟨a, rest, rfl⟩
  have hrest : rest.length ≤ 1 := by
    rw [List.length_cons] at hargs
    omega
  by_cases ha : ∃ s, a = .value (.str s)
  · obtain ⟨s, rfl⟩ := ha
    match rest with
    | [] => exact .inl ⟨_, .present s h⟩
    | [b] =>
      by_cases hb : ∃ v, b = .value v
      · obtain ⟨v, rfl⟩ := hb
        by_cases hv : v = .null
        · subst hv
          exact .inl ⟨_, .null s h⟩
        · exact .inl ⟨_, .modifier s hv h⟩
      · exact (Misfit.modifierValue hname (not_exists.mp hb)).decided
    | _ :: _ :: _ => simp at hrest
  · exact (Misfit.modifierText hname hrest (not_exists.mp ha)).decided

theorem decided_fixed {mode : String} {aspect : Option Aspect}
    (h : (name, mode, aspect) ∈ fixedMethods) (args : List Arg) : Decided name args := by
  by_cases hargs : args = []
  · subst hargs
    exact .inl ⟨_, .fixed h⟩
  · exact .inr ⟨_, .unexpected (List.mem_map_of_mem h) hargs⟩

theorem decided (name : String) (args : List Arg) : Decided name args := by
  by_cases hn : name ∈ names
  -- One case for each table and for the two methods that stand in none.
  · simp only [names, List.mem_append, List.mem_map, List.mem_cons, List.not_mem_nil,
      or_false] at hn
    rcases hn with (((rfl | rfl) | ⟨⟨_, field⟩, h, rfl⟩) | ⟨⟨_, outer⟩, h, rfl⟩) |
      ⟨⟨_, mode, aspect⟩, h, rfl⟩
    · exact decided_matching args
    · exact decided_options args
    · exact decided_field h args
    · exact decided_modifier h args
    · exact decided_fixed h args
  · exact .inr ⟨_, .unknown hn⟩

theorem named_conditions_eq_ok_iff (ps : List Predicate) :
    (ConditionCall.named name args).conditions = .ok ps ↔ Accepts name args ps := by
  refine ⟨?_, Accepts.conditions_eq⟩
  intro h
  rcases decided name args with ⟨ps', haccepts⟩ | ⟨e, hrefuses⟩
  · obtain rfl : ps' = ps := Except.ok.inj (haccepts.conditions_eq.symm.trans h)
    exact haccepts
  · exact nomatch hrefuses.conditions_eq.symm.trans h

theorem named_conditions_eq_error_iff (e : RegisterError) :
    (ConditionCall.named name args).conditions = .error e ↔ Refuses name args e := by
  refine ⟨?_, Refuses.conditions_eq⟩
  intro h
  rcases decided name args with ⟨ps, haccepts⟩ | ⟨e', hrefuses⟩
  · exact nomatch haccepts.conditions_eq.symm.trans h
  · obtain rfl : e' = e := Except.error.inj (hrefuses.conditions_eq.symm.trans h)
    exact hrefuses

/-- A call by name contributes exactly what the grammar says, and each kind of error is for exactly
one kind of call: an unknown name, a match of nothing, a plain value in a match, of which the last
is reported, arguments where there should be none, and arguments that do not fit. -/
theorem named_conditions_iff (name : String) (args : List Arg) :
    let answer := (ConditionCall.named name args).conditions
    (∀ ps, answer = .ok ps ↔ Accepts name args ps) ∧
      (∀ n, answer = .error (.unknownMethod n) ↔ n = name ∧ name ∉ names) ∧
      (answer = .error .missingPredicate ↔ name = "match" ∧ args = []) ∧
      (∀ text, answer = .error (.invalidPredicate text) ↔ name = "match" ∧ ∃ before v after,
        args = before ++ .value v :: after ∧ (∀ a ∈ after, ∀ w, a ≠ .value w) ∧ text = v.text) ∧
      (∀ n text, answer = .error (.unexpectedArguments n text) ↔ n = name ∧
        name ∈ fixedMethods.map Prod.fst ∧ args ≠ [] ∧
          text = "[" ++ ",".intercalate (args.map Arg.inspect) ++ "]") ∧
      (∀ n message, answer = .error (.invalidArgument n message) ↔
        n = name ∧ Misfit name args message) ∧
      answer ≠ .error .closedScope := by
  intro answer
  simp only [answer, ne_eq, named_conditions_eq_error_iff]
  refine ⟨named_conditions_eq_ok_iff, ?_, ?_, ?_, ?_, ?_, ?_⟩
  · intro n
    constructor
    · intro h
      cases h with
      | unknown hn => exact ⟨rfl, hn⟩
    · rintro ⟨rfl, hn⟩
      exact .unknown hn
  · constructor
    · intro h
      cases h with
      | nothing => exact ⟨rfl, rfl⟩
    · rintro ⟨rfl, rfl⟩
      exact .nothing
  · intro text
    constructor
    · intro h
      cases h with
      | plain hafter => exact ⟨rfl, _, _, _, rfl, hafter, rfl⟩
    · rintro ⟨rfl, before, v, after, rfl, hafter, rfl⟩
      exact .plain hafter
  · intro n text
    constructor
    · intro h
      cases h with
      | unexpected hn hargs => exact ⟨rfl, hn, hargs, rfl⟩
    · rintro ⟨rfl, hn, hargs, rfl⟩
      exact .unexpected hn hargs
  · intro n message
    constructor
    · intro h
      cases h with
      | misfit hm => exact ⟨rfl, hm⟩
    · rintro ⟨rfl, hm⟩
      exact .misfit hm
  · exact nofun

end Method

end BemRules
