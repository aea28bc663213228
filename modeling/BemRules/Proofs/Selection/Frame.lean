import BemRules.Proofs.Context.Lookup
import BemRules.Template

namespace BemRules

/-- The predicate looks at no field of that name, and calls no test. -/
inductive Predicate.Avoids (name : String) : Predicate → Prop
  | property {key : KeyPath} (value : MatchValue) (h : key.head ≠ name) :
      Avoids name (.property key value)
  | options (marker : Object) : Avoids name (.options marker)
  | aspect (a : Aspect) : Avoids name (.aspect a)

theorem Predicate.Avoids.holds_setField {name : String} {p : Predicate} (h : p.Avoids name)
    (c : Context) (v : Value) : p.holds (c.setField name v) = p.holds c := by
  cases h with
  | property value h => rw [holds, holds, c.property_setField_of_ne v h]
  | options marker => rfl
  | aspect a => rfl

variable {c d : Context}

theorem Predicate.check_congr {ps : List Predicate} (h : ∀ p ∈ ps, p.holds d = p.holds c) :
    check d ps = check c ps := by
  induction ps with
  | nil => rfl
  | cons p rest ih =>
    obtain ⟨hp, hrest⟩ := List.forall_mem_cons.mp h
    rw [check, check, hp, ih hrest]

theorem Compiled.search_congr {ts : List Template}
    (h : ∀ t ∈ ts, ∀ p ∈ t.predicates, p.holds d = p.holds c) : search d ts = search c ts := by
  induction ts with
  | nil => rfl
  | cons t rest ih =>
    obtain ⟨ht, hrest⟩ := List.forall_mem_cons.mp h
    have hcheck : t.check d = t.check c := Predicate.check_congr ht
    rw [search, search, hcheck, ih hrest]

/-- A stored result is read back under its name, but for the four names that read the entity, and a
modifier field holds an object whatever was stored. It is seen under no other name, so that rules
which avoid its name are selected as before. -/
theorem Context.lookup_setField (c : Context) (name : String) (v : Value) :
    let d := c.setField name v
    (name ∈ ["mods", "elemMods"] →
        d.property (.field name) = some (if v.isObj then v else .obj [])) ∧
      (name ∈ ["block", "elem", "_mode", "position"] →
        d.property (.field name) = c.property (.field name)) ∧
      (name ∉ ["mods", "elemMods"] → name ∉ ["block", "elem", "_mode", "position"] →
        d.property (.field name) = some v) ∧
      (∀ key, d.property (.path name key) = v.entry? key) ∧
      (∀ key : KeyPath, key.head ≠ name → d.property key = c.property key) ∧
      ∀ x : Compiled, (∀ t ∈ x.templates, ∀ p ∈ t.predicates, p.Avoids name) →
        x.firstMatch d = x.firstMatch c := by
  intro d
  refine ⟨?_, c.property_field_setField_of_entity v, ?_, ?_,
    fun key h => c.property_setField_of_ne v h, ?_⟩
  · intro hn
    have hentity : name ∉ ["block", "elem", "_mode", "position"] := by
      simp only [List.mem_cons, List.not_mem_nil, or_false] at hn
      obtain rfl | rfl := hn <;> decide
    rw [c.property_field_setField v hentity, heldAs, if_pos (by simpa using hn)]
    cases v <;> rfl
  · intro hmodifiers hentity
    rw [c.property_field_setField v hentity, heldAs, if_neg (by simpa using hmodifiers)]
  · intro key
    rw [c.property_path_setField, entry?_heldAs]
  · intro x h
    have hsearch : Compiled.search d x.templates = Compiled.search c x.templates :=
      Compiled.search_congr fun t ht p hp => (h t ht p hp).holds_setField c v
    rw [Compiled.firstMatch, Compiled.firstMatch, hsearch]

end BemRules
