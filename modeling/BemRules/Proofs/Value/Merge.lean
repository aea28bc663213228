import Mathlib.Data.List.Induction
import BemRules.Value.Coercion

namespace List

variable {α : Type} [DecidableEq α]

theorem eraseDups_of_nodup {xs : List α} (h : xs.Nodup) : xs.eraseDups = xs := by
  induction xs with
  | nil => rfl
  | cons x rest ih =>
    obtain ⟨hx, hrest⟩ := nodup_cons.mp h
    have hkept : rest.filter (fun y => !y == x) = rest := by
      refine filter_eq_self.mpr fun y hy => ?_
      simpa using ne_of_mem_of_not_mem hy hx
    rw [eraseDups_cons, hkept, ih hrest]

theorem eraseDups_concat (xs : List α) (x : α) :
    (xs ++ [x]).eraseDups = if x ∈ xs then xs.eraseDups else xs.eraseDups ++ [x] := by
  rw [eraseDups_append]
  by_cases hx : x ∈ xs <;> simp [removeAll, eraseDups_cons, hx]

end List

namespace BemRules

namespace Fields

variable {α : Type} {a b : Fields α}

theorem keys_insert (fs : Fields α) (k : String) (v : α) :
    keys (insert fs k v) = if k ∈ keys fs then keys fs else keys fs ++ [k] := by
  induction fs with
  | nil => rfl
  | cons e rest ih =>
    obtain ⟨l, w⟩ := e
    have hkeys : keys ((l, w) :: rest) = l :: keys rest := rfl
    by_cases hl : l = k
    · subst hl
      rw [insert, if_pos rfl, hkeys, if_pos List.mem_cons_self]
      rfl
    · have hcons : keys ((l, w) :: insert rest k v) = l :: keys (insert rest k v) := rfl
      rw [insert, if_neg hl, hcons, ih, hkeys]
      by_cases hk : k ∈ keys rest
      · rw [if_pos hk, if_pos (List.mem_cons_of_mem l hk)]
      · rw [if_neg hk, if_neg (List.not_mem_cons_of_ne_of_not_mem (Ne.symm hl) hk)]
        rfl

theorem merge_concat (a b : Fields α) (e : String × α) :
    merge a (b ++ [e]) = insert (merge a b) e.1 e.2 :=
  List.foldl_append

theorem keys_merge (ha : Distinct a) (b : Fields α) :
    keys (merge a b) = (keys a ++ keys b).eraseDups := by
  induction b using List.reverseRecOn with
  | nil =>
    have hnil : keys a ++ keys ([] : Fields α) = keys a := List.append_nil _
    rw [hnil, List.eraseDups_of_nodup ha]
    rfl
  | append_singleton b e ih =>
    have hkeys : keys a ++ keys (b ++ [e]) = (keys a ++ keys b) ++ [e.1] := by simp [keys]
    rw [merge_concat, keys_insert, ih, hkeys, List.eraseDups_concat]
    exact if_congr List.mem_eraseDups rfl rfl

theorem keys_merge_of_distinct (ha : Distinct a) (hb : Distinct b) :
    keys (merge a b) = keys a ++ (keys b).filter fun k => k ∉ keys a := by
  rw [keys_merge ha, List.eraseDups_append, List.eraseDups_of_nodup ha,
    List.eraseDups_of_nodup]
  · simp [List.removeAll]
  · exact hb.sublist List.filter_sublist

theorem eq_of_keys_of_get? (ha : Distinct a) (hkeys : keys a = keys b)
    (hget : ∀ k, get? a k = get? b k) : a = b := by
  induction a generalizing b with
  | nil =>
    cases b with
    | nil => rfl
    | cons f rest => cases hkeys
  | cons e rest ih =>
    cases b with
    | nil => cases hkeys
    | cons f rest' =>
      obtain ⟨k, v⟩ := e
      obtain ⟨l, w⟩ := f
      obtain ⟨hk, hrest⟩ : k ∉ keys rest ∧ Distinct rest := List.nodup_cons.mp ha
      obtain ⟨rfl, hkeys'⟩ : k = l ∧ keys rest = keys rest' := List.cons.inj hkeys
      have hv : some v = some w := by simpa [get?_cons] using hget k
      have hget' : ∀ j, get? rest j = get? rest' j := by
        intro j
        by_cases hj : k = j
        · subst hj
          rw [(get?_eq_none_iff rest k).mpr hk, (get?_eq_none_iff rest' k).mpr (hkeys' ▸ hk)]
        · have hbehind := hget j
          rwa [get?_cons, get?_cons, if_neg hj, if_neg hj] at hbehind
      rw [Option.some.inj hv, ih hrest hkeys' hget']

theorem merge_assoc {c : Fields α} (ha : Distinct a) (hb : Distinct b) (hc : Distinct c) :
    merge (merge a b) c = merge a (merge b c) := by
  have hab : Distinct (merge a b) := distinct_merge ha b
  have hbc : Distinct (merge b c) := distinct_merge hb c
  refine eq_of_keys_of_get? (distinct_merge hab c) ?_ fun k => ?_
  -- On both sides the keys of `c` come last that neither `a` nor `b` has.
  · rw [keys_merge_of_distinct hab hc, keys_merge_of_distinct ha hb,
      keys_merge_of_distinct ha hbc, keys_merge_of_distinct hb hc, List.filter_append,
      List.filter_filter, List.append_assoc]
    refine congrArg (fun ks => keys a ++ (_ ++ ks)) (List.filter_congr fun k _ => ?_)
    by_cases hk : k ∈ keys a <;> simp [hk]
  · rw [get?_merge _ hc, get?_merge _ hb, get?_merge _ hbc, get?_merge _ hc, Option.or_assoc]

theorem nil_merge (ha : Distinct a) : merge [] a = a := by
  have hnil : Distinct ([] : Fields α) := List.nodup_nil
  refine eq_of_keys_of_get? (distinct_merge hnil a) ?_ fun k => ?_
  · rw [keys_merge hnil]
    exact List.eraseDups_of_nodup ha
  · rw [get?_merge _ ha]
    exact Option.or_none

theorem merge_self (ha : Distinct a) : merge a a = a := by
  refine eq_of_keys_of_get? (distinct_merge ha a) ?_ fun k => ?_
  · rw [keys_merge_of_distinct ha ha, List.filter_eq_nil_iff.mpr, List.append_nil]
    intro k hk
    simpa using hk
  · rw [get?_merge _ ha, Option.or_self]

end Fields

namespace Value

/-- Objects are laid over one another in order: the keys of the left one keep their places, those
that only the right one has follow in its order, and under a key stands what the right one holds, or
what the left one holds where the right one has no such key. The order in which three are merged
makes no difference, and neither the empty object nor the object itself adds anything. Nothing laid
over a value, or under it, leaves the value. -/
theorem extend_obj (a b c : Object) (v : Value) (ha : Fields.Distinct a) (hb : Fields.Distinct b)
    (hc : Fields.Distinct c) :
    let join (l r : Value) := extend (some l) (some r)
    join (join (.obj a) (.obj b)) (.obj c) = join (.obj a) (join (.obj b) (.obj c)) ∧
      (∃ fields, join (.obj a) (.obj b) = .obj fields ∧ Fields.Distinct fields ∧
        Fields.keys fields = Fields.keys a ++ (Fields.keys b).filter (fun k => k ∉ Fields.keys a) ∧
        ∀ k, Fields.get? fields k = (Fields.get? b k).or (Fields.get? a k)) ∧
      join (.obj []) (.obj a) = .obj a ∧ join (.obj a) (.obj []) = .obj a ∧
      join (.obj a) (.obj a) = .obj a ∧ extend (some v) none = v ∧ extend none (some v) = v := by
  intro join
  refine ⟨congrArg Value.obj (Fields.merge_assoc ha hb hc), ⟨Fields.merge a b, rfl,
    Fields.distinct_merge ha b, Fields.keys_merge_of_distinct ha hb, Fields.get?_merge a hb⟩,
    congrArg Value.obj (Fields.nil_merge ha), rfl, congrArg Value.obj (Fields.merge_self ha), ?_,
    ?_⟩
  · cases v <;> rfl
  · cases v <;> rfl

theorem extend_obj_of_shared_key :
    let a : Object := [("a", .int 1), ("b", .int 1)]
    let b : Object := [("c", .int 2), ("a", .int 2)]
    let c : Object := [("b", .int 3)]
    Fields.Distinct a ∧ Fields.Distinct b ∧ Fields.Distinct c ∧
      ∃ fields, extend (some (.obj a)) (some (.obj b)) = .obj fields ∧
        Fields.keys fields = ["a", "b", "c"] ∧ Fields.get? fields "a" = some (.int 2) ∧
        Fields.get? fields "b" = some (.int 1) := by
  intro a b c
  have ha : Fields.Distinct a := by decide
  have hb : Fields.Distinct b := by decide
  have hc : Fields.Distinct c := by decide
  obtain ⟨-, ⟨fields, hfields, -, hkeys, hget⟩, -⟩ := extend_obj a b c .null ha hb hc
  exact ⟨ha, hb, hc, fields, hfields, hkeys.trans (by decide), (hget "a").trans (by decide),
    (hget "b").trans (by decide)⟩

end Value

end BemRules
