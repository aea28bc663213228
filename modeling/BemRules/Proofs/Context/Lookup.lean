import BemRules.Context

namespace BemRules.Context

/-- What a field holds of a result: a modifier field holds an object, whatever was stored. -/
def heldAs (name : String) (v : Value) : Value :=
  if name = "mods" ∨ name = "elemMods" then .obj v.fieldsOf else v

theorem heldAs_obj (name : String) (fields : Object) : heldAs name (.obj fields) = .obj fields := by
  rw [heldAs]
  split <;> rfl

theorem heldAs_of_stored {name : String} (hmods : name ≠ "mods") (helemMods : name ≠ "elemMods")
    (v : Value) : heldAs name v = v :=
  if_neg (not_or.mpr ⟨hmods, helemMods⟩)

theorem field?_setField_of_stored (c : Context) {name : String} (hmods : name ≠ "mods")
    (helemMods : name ≠ "elemMods") (v : Value) : (c.setField name v).field? name = some v := by
  rw [setField, if_neg hmods, if_neg helemMods, field?, Fields.get?_insert, if_pos rfl]

theorem entry?_heldAs (name key : String) (v : Value) :
    Value.entry? (heldAs name v) key = v.entry? key := by
  rw [heldAs]
  split
  · cases v <;> rfl
  · rfl

theorem entry?_heldAs_of_not_isObj {v : Value} (h : v.isObj = false) (name key : String) :
    Value.entry? (heldAs name v) key = none := by
  rw [entry?_heldAs]
  cases v with
  | obj fields => cases h
  | null | bool b | num n | str s | arr items => rfl

theorem property_field_setField (c : Context) {name : String} (v : Value)
    (hn : name ∉ ["block", "elem", "_mode", "position"]) :
    (c.setField name v).property (.field name) = some (heldAs name v) := by
  simp only [List.mem_cons, List.not_mem_nil, or_false, not_or] at hn
  obtain ⟨hblock, helem, hmode, hposition⟩ := hn
  by_cases hmods : name = "mods"
  · subst hmods
    rfl
  by_cases helemMods : name = "elemMods"
  · subst helemMods
    rfl
  · rw [property, if_neg hblock, if_neg helem, if_neg hmode, if_neg hposition, if_neg hmods,
      if_neg helemMods, field?_setField_of_stored c hmods helemMods,
      heldAs_of_stored hmods helemMods]

theorem property_path_setField (c : Context) (name key : String) (v : Value) :
    (c.setField name v).property (.path name key) = Value.entry? (heldAs name v) key := by
  by_cases hmods : name = "mods"
  · subst hmods
    rfl
  by_cases helemMods : name = "elemMods"
  · subst helemMods
    rfl
  · rw [property, if_neg hmods, if_neg helemMods, field?_setField_of_stored c hmods helemMods,
      heldAs_of_stored hmods helemMods]
    rfl

theorem property_field_setField_of_entity (c : Context) {name : String} (v : Value)
    (hn : name ∈ ["block", "elem", "_mode", "position"]) :
    (c.setField name v).property (.field name) = c.property (.field name) := by
  simp only [List.mem_cons, List.not_mem_nil, or_false] at hn
  obtain rfl | rfl | rfl | rfl := hn <;> rfl

/-- Two contexts agree on what a lookup under the name can see. -/
structure Agree (name : String) (d c : Context) : Prop where
  block : d.block = c.block
  elem : d.elem = c.elem
  mode : d.mode = c.mode
  position : d.position = c.position
  mods : name = "mods" → d.mods = c.mods
  elemMods : name = "elemMods" → d.elemMods = c.elemMods
  field : d.field? name = c.field? name

theorem Agree.property_eq {c d : Context} {key : KeyPath} (h : Agree key.head d c) :
    d.property key = c.property key := by
  have hfield : d.field? key.head = c.field? key.head := h.field
  by_cases hmods : key.head = "mods"
  · have hm := h.mods hmods
    cases key with
    | field name => cases hmods; exact congrArg (fun m => some (Value.obj m)) hm
    | path outer name => cases hmods; exact congrArg (Fields.get? · name) hm
  by_cases helemMods : key.head = "elemMods"
  · have hm := h.elemMods helemMods
    cases key with
    | field name => cases helemMods; exact congrArg (fun m => some (Value.obj m)) hm
    | path outer name => cases helemMods; exact congrArg (Fields.get? · name) hm
  · cases key with
    | field name =>
      rw [KeyPath.head] at hmods helemMods hfield
      simp only [property, h.block, h.elem, h.mode, h.position, hfield, if_neg hmods,
        if_neg helemMods]
    | path outer name =>
      rw [KeyPath.head] at hmods helemMods hfield
      simp only [property, hfield, if_neg hmods, if_neg helemMods]

theorem agree_setField (c : Context) {name other : String} (h : other ≠ name) (v : Value) :
    Agree other (c.setField name v) c := by
  by_cases hmods : name = "mods"
  · subst hmods
    exact ⟨rfl, rfl, rfl, rfl, fun ho => absurd ho h, fun _ => rfl, rfl⟩
  by_cases helemMods : name = "elemMods"
  · subst helemMods
    exact ⟨rfl, rfl, rfl, rfl, fun _ => rfl, fun ho => absurd ho h, rfl⟩
  · rw [setField, if_neg hmods, if_neg helemMods]
    refine ⟨rfl, rfl, rfl, rfl, fun _ => rfl, fun _ => rfl, ?_⟩
    rw [field?, Fields.get?_insert, if_neg (Ne.symm h)]
    rfl

theorem property_setField_of_ne (c : Context) {name : String} (v : Value) {key : KeyPath}
    (h : key.head ≠ name) : (c.setField name v).property key = c.property key :=
  (c.agree_setField h v).property_eq

end BemRules.Context
