import BemRules.Proofs.Registry.Entries
import BemRules.Proofs.Script.Simulation

namespace BemRules

inductive Predicate.OfEntity : Predicate → Prop where
  | block (value : MatchValue) : OfEntity (.property (.field "block") value)
  | elem (value : MatchValue) : OfEntity (.property (.field "elem") value)
  | mod (name : String) (value : MatchValue) : OfEntity (.mod name value)
  | elemMod (name : String) (value : MatchValue) : OfEntity (.elemMod name value)
  | custom (test : Test) : OfEntity (.custom test)

theorem Predicate.allowsShortcut_iff (p : Predicate) : p.allowsShortcut ↔ p.OfEntity := by
  constructor
  · intro h
    cases p with
    | property key value =>
      cases key with
      | field name =>
        have hname : name = "block" ∨ name = "elem" := by simpa [allowsShortcut] using h
        rcases hname with rfl | rfl
        · exact .block value
        · exact .elem value
      | path outer name =>
        have houter : outer = "mods" ∨ outer = "elemMods" := by
          simpa [allowsShortcut, KeyPath.isModsPath] using h
        rcases houter with rfl | rfl
        · exact .mod name value
        · exact .elemMod name value
    | custom test => exact .custom test
    | options marker => cases h
    | aspect a => cases h
  · rintro (_ | _ | _ | _ | _) <;> rfl

/-- Every key, known or not, adds a predicate below which no mapping spreads. -/
theorem Method.not_allowsShortcut_shortcutConditions (key : String) :
    ∃ p ∈ shortcutConditions key, p.allowsShortcut = false := by
  have hmode : ∃ p ∈ [Predicate.mode key], p.allowsShortcut = false :=
    ⟨_, List.mem_singleton_self _, rfl⟩
  rw [shortcutConditions]
  split
  · exact ⟨_, List.mem_singleton_self _, rfl⟩
  · exact ⟨_, List.mem_cons_self, rfl⟩
  · exact ⟨_, List.mem_singleton_self _, rfl⟩
  · exact hmode

inductive Body.HasEntries : Body → List (String × Body) → Prop where
  | mapping (entries : List (String × Body)) : HasEntries (.mapping entries) entries
  | object (fields : Object) :
      HasEntries (.value (.obj fields)) (fields.map fun (key, v) => (key, .value v))

theorem Body.entries?_eq_some_iff (b : Body) (entries : List (String × Body)) :
    b.entries? = some entries ↔ b.HasEntries entries := by
  constructor
  · intro h
    cases b with
    | mapping own =>
      obtain rfl : own = entries := by simpa [entries?] using h
      exact .mapping own
    | func f => cases h
    | value v =>
      cases v with
      | obj fields =>
        obtain rfl : fields.map (fun (key, v) => (key, Body.value v)) = entries := by
          simpa [entries?] using h
        exact .object fields
      | _ => cases h
  · rintro (_ | _) <;> rfl

namespace Template

variable (scope : List Predicate) (b : Body)

theorem ofScope_of_entries {entries : List (String × Body)} (hs : ∀ p ∈ scope, p.OfEntity)
    (hb : b.HasEntries entries) :
    ofScope scope b = entries.map fun e => build (scope ++ Method.shortcutConditions e.1) e.2 := by
  have hall : scope.all Predicate.allowsShortcut := by
    rw [List.all_eq_true]
    intro p hp
    exact p.allowsShortcut_iff.mpr (hs p hp)
  rw [ofScope, if_pos hall, (b.entries?_eq_some_iff entries).mpr hb]

theorem ofScope_of_not_all (hs : scope.all Predicate.allowsShortcut = false) :
    ofScope scope b = [build scope b] := by
  rw [ofScope, hs]
  rfl

theorem ofScope_of_not_entries
    (h : ¬ ((∀ p ∈ scope, p.OfEntity) ∧ ∃ entries, b.HasEntries entries)) :
    ofScope scope b = [build scope b] := by
  cases hs : scope.all Predicate.allowsShortcut with
  | false => exact ofScope_of_not_all scope b hs
  | true =>
    have hscope : ∀ p ∈ scope, p.OfEntity := by
      intro p hp
      exact p.allowsShortcut_iff.mp (List.all_eq_true.mp hs p hp)
    cases he : b.entries? with
    | none => rw [ofScope, if_pos hs, he]
    | some entries => exact absurd ⟨hscope, entries, (b.entries?_eq_some_iff entries).mp he⟩ h

theorem ofScope_shortcutConditions (key : String) :
    ofScope (scope ++ Method.shortcutConditions key) b =
      [build (scope ++ Method.shortcutConditions key) b] := by
  obtain ⟨p, hp, hblocks⟩ := Method.not_allowsShortcut_shortcutConditions key
  apply ofScope_of_not_all
  rw [List.all_eq_false]
  refine ⟨p, List.mem_append_right _ hp, ?_⟩
  rw [hblocks]
  exact Bool.false_ne_true

end Template

def Scope.ofEntry (e : String × Body) : Scope := ⟨Method.shortcutConditions e.1, [.body e.2]⟩

theorem Entry.templatesOf_ofEntry (above : List Predicate) (entries : List (String × Body)) :
    templatesOf above ((entries.map Scope.ofEntry).map Scope.toEntry) =
      entries.map fun e => .build (above ++ Method.shortcutConditions e.1) e.2 := by
  induction entries with
  | nil => rfl
  | cons e rest ih =>
    simp only [List.map_cons, templatesOf, ih, Scope.toEntry, Scope.ofEntry, templates,
      Template.ofScope_shortcutConditions, List.append_nil, List.singleton_append]

theorem Arg.toPredicates_predicates (ps : List Predicate) :
    toPredicates (ps.map .predicate) = .ok ps := by
  induction ps with
  | nil => rfl
  | cons p rest ih => simp only [List.map_cons, toPredicates, toPredicate, ih]

def ConditionCall.matchingAll (ps : List Predicate) : ConditionCall :=
  .matching (ps.reverse.map .predicate)

theorem ConditionCall.conditions_matchingAll {ps : List Predicate} (hps : ps ≠ []) :
    (matchingAll ps).conditions = .ok ps := by
  have hargs : ps.reverse.map Arg.predicate ≠ [] := by simpa using hps
  have hconditions : (matchingAll ps).conditions =
      Arg.toPredicates (ps.reverse.map Arg.predicate).reverse := by
    cases h : ps.reverse.map Arg.predicate with
    | nil => exact absurd h hargs
    | cons a args => simp only [matchingAll, conditions, Method.conditions, h]
  rw [hconditions, ← List.map_reverse, List.reverse_reverse, Arg.toPredicates_predicates]

namespace Step

def ofEntry (e : String × Body) : Step :=
  .chain (.matchingAll (Method.shortcutConditions e.1)) [.body e.2]

theorem growth_ofEntry (e : String × Body) : (ofEntry e).growth = { scopes := [.ofEntry e] } := by
  have hkey : Method.shortcutConditions e.1 ≠ [] := by
    obtain ⟨p, hp, -⟩ := Method.not_allowsShortcut_shortcutConditions e.1
    exact List.ne_nil_of_mem hp
  rw [ofEntry, growth, ConditionCall.conditions_matchingAll hkey]
  rfl

theorem growthOfAll_ofEntry (entries : List (String × Body)) :
    growthOfAll (entries.map ofEntry) = { scopes := entries.map .ofEntry } := by
  induction entries with
  | nil => rfl
  | cons e rest ih =>
    rw [List.map_cons, growthOfAll, growth_ofEntry, ih]
    rfl

end Step

/-- The call closes a scope that was opened on a registry, and below the given predicates the
scope turns into the given templates. -/
structure CallOutcome.Adds (o : CallOutcome) (r : Registry) (above : List Predicate)
    (ts : List Template) : Prop where
  error : o.error = none
  chain : o.chain = ⟨r.depth + 1, true⟩
  /-- At depth one nothing stands above the scope, and it is flattened at once. -/
  flattened : r.depth = 0 → above = [] → o.registry = { r with templates := r.templates ++ ts }
  waiting : 0 < r.depth → ∃ scope : Scope, o.registry = { r with stack := r.stack ++ [scope] } ∧
    scope.toEntry.templates above = ts

theorem CallOutcome.Grows.adds {o : CallOutcome} {r : Registry} {conditions : List Predicate}
    {entries : List Entry} (h : o.Grows r { held := (Held.opened conditions).close entries })
    (above : List Predicate) :
    o.Adds r above (Entry.templatesOf (above ++ conditions) entries) := by
  have hr := h.registry
  rw [r.addInitializers_nil, Registry.hold_of_alone _ _ rfl rfl] at hr
  refine ⟨h.error, h.chain, ?_, ?_⟩
  · rintro hd rfl
    have hs : r.stack = [] := List.length_eq_zero_iff.mp hd
    simp [hr, hd, hs, Held.close, Held.opened, Scope.toEntry, Entry.templates]
  · intro hd
    refine ⟨((Held.opened conditions).close entries).scope, ?_, rfl⟩
    simp [hr, Nat.ne_of_gt hd]

/-- A mapping below predicates that narrow down the entity is sugar for a nest with one scope for
each entry, in order and repeated keys included, none of whose bodies spreads again. Any other
body, and a mapping below any other predicate, gives one template with the body as it is. -/
theorem Registry.mapping_adds_nest (r : Registry) (above conditions : List Predicate) (m : Body) :
    let scope := above ++ conditions
    let q := (r.openScope conditions).1
    let c := (r.openScope conditions).2
    (∀ entries, (∀ p ∈ scope, p.OfEntity) → m.HasEntries entries →
      ∃ ts, ts = entries.map (fun e => .build (scope ++ Method.shortcutConditions e.1) e.2) ∧
        (Call.run (.body m) q c).Adds r above ts ∧
        (Call.run (.nest (entries.map .ofEntry)) q c).Adds r above ts) ∧
      (¬ ((∀ p ∈ scope, p.OfEntity) ∧ ∃ entries, m.HasEntries entries) →
        (Call.run (.body m) q c).Adds r above [.build scope m]) := by
  intro scope q c
  have hbody : (Call.run (.body m) q c).Adds r above (Template.ofScope scope m) := by
    have h := (Call.run_openScope_grows (.body m) r conditions).adds above
    rwa [Entry.templatesOf, Entry.templatesOf, List.append_nil, Entry.templates] at h
  refine ⟨?_, ?_⟩
  · intro entries hs hm
    refine ⟨_, rfl, ?_, ?_⟩
    · rwa [Template.ofScope_of_entries scope m hs hm] at hbody
    · have h := Call.run_openScope_grows (.nest (entries.map .ofEntry)) r conditions
      rw [Call.growth, Step.growthOfAll_ofEntry] at h
      rw [← Entry.templatesOf_ofEntry]
      exact CallOutcome.Grows.adds h above
  · intro h
    rwa [Template.ofScope_of_not_entries scope m h] at hbody

end BemRules
