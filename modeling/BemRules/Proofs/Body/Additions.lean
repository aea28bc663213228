import BemRules.Proofs.Body.Requests
import BemRules.Proofs.Context.Lookup

namespace BemRules

namespace Fields

variable {α : Type}

/-- The fields hold every entry that was added, under any other key what the base holds there, and
no further keys. -/
structure LaidOver (added base fields : Fields α) : Prop where
  gained : ∀ e ∈ added, get? fields e.1 = some e.2
  kept : ∀ key, key ∉ keys added → get? fields key = get? base key
  mem_keys : ∀ key, key ∈ keys fields ↔ key ∈ keys added ∨ key ∈ keys base

theorem laidOver_merge (base : Fields α) {added : Fields α} (h : Distinct added) :
    LaidOver added base (merge base added) where
  gained := by
    intro e he
    rw [get?_merge base h, get?_of_mem h he]
    rfl
  kept := by
    intro key hkey
    rw [get?_merge base h, (get?_eq_none_iff added key).mpr hkey, Option.none_or]
  mem_keys := by
    intro key
    have hnone := get?_eq_none_iff (merge base added) key
    rw [get?_merge base h, Option.or_eq_none_iff, get?_eq_none_iff, get?_eq_none_iff] at hnone
    rw [← not_iff_not, ← hnone, not_or]

end Fields

namespace CompiledBody

theorem mergeBase_eq_obj {base : Value} (h : base.isObj = true ∨ base.truthy = false) :
    mergeBase base = .obj base.fieldsOf := by
  cases h with
  | inl ho =>
    cases base with
    | obj fields => rfl
    | _ => cases ho
  | inr hf =>
    rw [mergeBase, hf]
    cases base with
    | obj fields => cases hf
    | _ => rfl

theorem extend_of_not_isObj {base : Value} (ho : base.isObj = false) (ht : base.truthy = true)
    (added : Value) : Value.extend (some (mergeBase base)) (some added) = base := by
  rw [mergeBase, if_pos ht]
  cases base with
  | obj fields => cases ho
  | null => cases ht
  | bool b | num n | str s | arr items => simp only [Value.extend, ht, if_true]

variable {σ : Type} (h : Host σ)

theorem outcome_add {mode : AddMode} (hm : mode ∈ [AddMode.attrs, .js, .mods, .elemMods])
    (inner : CompiledBody) (start : Context × σ) :
    outcome h (.decorated (.add mode) inner) start =
      let base := (h.apply mode.baseMode start.1 start.2).1
      let part := outcome h inner (enter h (.add mode) start)
      let merged := Value.extend (some (mergeBase base)) (some part.1)
      (merged, part.2.1.setField mode.baseMode merged, part.2.2) := by
  have hrun (field : String) : (mergeInto field inner.render start.1).run h start.2 =
      let base := h.apply field start.1 start.2
      let part := outcome h inner base.2
      let merged := Value.extend (some (mergeBase base.1)) (some part.1)
      (merged, part.2.1.setField field merged, part.2.2) :=
    Render.run_bind h (inner.render _) _ _
  cases mode with
  | attrs | js | mods | elemMods => exact hrun _
  | appendContent | prependContent | mix => simp at hm

theorem property_outcome_add {mode : AddMode}
    (hm : mode ∈ [AddMode.attrs, .js, .mods, .elemMods]) (inner : CompiledBody)
    (start : Context × σ) :
    let result := outcome h (.decorated (.add mode) inner) start
    let held := Context.heldAs mode.baseMode result.1
    result.2.1.property (.field mode.baseMode) = some held ∧
      ∀ key, result.2.1.property (.path mode.baseMode key) = held.entry? key := by
  have hfield : mode.baseMode ∉ ["block", "elem", "_mode", "position"] := by
    cases mode <;> decide
  rw [outcome_add h hm inner start]
  exact ⟨Context.property_field_setField _ _ hfield, fun key =>
    Context.property_path_setField _ _ key _⟩

/-- The part under a merging aspect is never lost where the base mode answers an object or nothing:
the result holds it whole, and of the base what it leaves, and the field reads as the result. Any
other answer is the result, and the part is lost. -/
theorem outcome_merging (mode : AddMode) (inner : CompiledBody) (start : Context × σ)
    (added : Object) (hm : mode ∈ [AddMode.attrs, .js, .mods, .elemMods])
    (hd : Fields.Distinct added)
    (hpart : (outcome h inner (enter h (.add mode) start)).1 = .obj added) :
    let base := (h.apply mode.baseMode start.1 start.2).1
    let result := outcome h (.decorated (.add mode) inner) start
    let lookup := result.2.1.property
    (base.isObj = true ∨ base.truthy = false →
        ∃ fields, result.1 = .obj fields ∧ Fields.LaidOver added base.fieldsOf fields ∧
          (Fields.Distinct base.fieldsOf → Fields.Distinct fields) ∧
          lookup (.field mode.baseMode) = some (.obj fields) ∧
          ∀ key, lookup (.path mode.baseMode key) = Fields.get? fields key) ∧
      (base.isObj = false → base.truthy = true → result.1 = base ∧
        (mode ∈ [AddMode.attrs, .js] → lookup (.field mode.baseMode) = some base) ∧
        (mode ∈ [AddMode.mods, .elemMods] → lookup (.field mode.baseMode) = some (.obj [])) ∧
        ∀ key, lookup (.path mode.baseMode key) = none) := by
  intro base result lookup
  have hvalue : result.1 = Value.extend (some (mergeBase base)) (some (.obj added)) := by
    rw [← hpart]
    exact congrArg Prod.fst (outcome_add h hm inner start)
  obtain ⟨hwhole, hentry⟩ := property_outcome_add h hm inner start
  refine ⟨?_, ?_⟩
  · intro hb
    have hobj : result.1 = .obj (Fields.merge base.fieldsOf added) := by
      rw [hvalue, mergeBase_eq_obj hb]
      rfl
    have hheld : Context.heldAs mode.baseMode result.1 = result.1 := by
      rw [hobj, Context.heldAs_obj]
    refine ⟨_, hobj, Fields.laidOver_merge _ hd, fun hbase => Fields.distinct_merge hbase added,
      ?_, ?_⟩
    · rw [← hobj, ← hheld]
      exact hwhole
    · intro key
      refine (hentry key).trans ?_
      rw [hheld, hobj]
      rfl
  -- The part is lost, and a modifier field, which holds objects only, is cleared.
  · intro ho ht
    have hbase : result.1 = base := hvalue.trans (extend_of_not_isObj ho ht _)
    have hkept : lookup (.field mode.baseMode) = some (Context.heldAs mode.baseMode base) := by
      rw [← hbase]
      exact hwhole
    have hempty : base.fieldsOf = [] := by
      cases hb : base with
      | obj fields => simp [hb, Value.isObj] at ho
      | null | bool b | num n | str s | arr items => rfl
    refine ⟨hbase, ?_, ?_, ?_⟩
    · intro hmode
      rw [hkept]
      simp only [List.mem_cons, List.not_mem_nil, or_false] at hmode
      rcases hmode with rfl | rfl <;> rfl
    · intro hmode
      rw [hkept, ← hempty]
      simp only [List.mem_cons, List.not_mem_nil, or_false] at hmode
      rcases hmode with rfl | rfl <;> rfl
    · intro key
      refine (hentry key).trans ?_
      rw [← hbase] at ho
      exact Context.entry?_heldAs_of_not_isObj ho _ key

def answering (v : Value) : Host Unit where
  apply := fun _ c s => (v, c, s)
  renderNode := fun node _ c s => (node, c, s)

theorem outcome_merging_attrs :
    let base : Object := [("id", .str "x"), ("role", .str "a")]
    let added : Object := [("role", .str "b")]
    let result := outcome (answering (.obj base)) (.decorated (.add .attrs) (.literal (.obj added)))
      ({}, ())
    Fields.Distinct added ∧ ∃ fields, result.1 = .obj fields ∧
      Fields.get? fields "role" = some (.str "b") ∧ Fields.get? fields "id" = some (.str "x") ∧
      result.2.1.property (.path "attrs" "id") = some (.str "x") := by
  intro base added result
  have hd : Fields.Distinct added := by decide
  obtain ⟨fields, hfields, hover, -, -, hentry⟩ :=
    (outcome_merging (answering (.obj base)) .attrs (.literal (.obj added)) ({}, ()) added
      List.mem_cons_self hd rfl).1 (.inl rfl)
  have hid : Fields.get? fields "id" = some (.str "x") := hover.kept "id" (by decide)
  exact ⟨hd, fields, hfields, hover.gained ("role", .str "b") List.mem_cons_self, hid,
    (hentry "id").trans hid⟩

/-- An entity whose scripts are switched on without parameters: what is added to them is lost. -/
theorem outcome_not_merging_true :
    let added : Object := [("id", .int 1)]
    let result := outcome (answering (.bool true)) (.decorated (.add .js) (.literal (.obj added)))
      ({}, ())
    result.1 = .bool true ∧ (∀ fields, result.1 ≠ .obj fields) ∧
      result.2.1.property (.path "js" "id") = none := by
  refine ⟨rfl, ?_, rfl⟩
  intro fields hfields
  cases hfields

end CompiledBody

end BemRules
