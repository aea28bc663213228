import BemRules.Predicate
import BemRules.Proofs.Markup.Entities

namespace String

theorem intercalate_flatMap {α : Type} (sep : String) {f : α → List String} (hf : ∀ x, f x ≠ [])
    (xs : List α) :
    sep.intercalate (xs.flatMap f) = sep.intercalate (xs.map fun x => sep.intercalate (f x)) := by
  induction xs with
  | nil => rfl
  | cons x rest ih =>
    cases rest with
    | nil => simp
    | cons y rest =>
      have hrest : (y :: rest).flatMap f ≠ [] := by simp [hf y]
      rw [List.flatMap_cons, String.intercalate_append_of_ne_nil (hf x) hrest, ih]
      exact (String.intercalate_cons_of_ne_nil (List.cons_ne_nil _ _)).symm

end String

namespace BemRules

theorem Escape.encode_intercalate {t : Table} {sep : String}
    (hsep : ∀ c ∈ sep.toList, isGuarded t c = false) (parts : List String) :
    encode t (sep.intercalate parts) = sep.intercalate (parts.map (encode t)) := by
  induction parts with
  | nil => exact encode_of_not_guarded (by simp)
  | cons p rest ih =>
    cases rest with
    | nil => simp only [String.intercalate_singleton, List.map_cons, List.map_nil]
    | cons q rest =>
      rw [String.intercalate_cons_cons, encode_append, encode_append, encode_of_not_guarded hsep,
        ih]
      simp only [List.map_cons, String.intercalate_cons_cons]

namespace Value

mutual

/-- The plain forms of the values inside nested arrays, from left to right. An empty array counts
as one empty leaf. -/
def leaves : Value → List String
  | .null => [""]
  | .bool b => [if b then "true" else "false"]
  | .num n => [n.text]
  | .str s => [s]
  | .arr [] => [""]
  | .arr (v :: rest) => leaves v ++ leavesOfItems rest
  | .obj _ => ["[object Object]"]

def leavesOfItems : List Value → List String
  | [] => []
  | v :: rest => leaves v ++ leavesOfItems rest

end

theorem leaves_of_not_arr {v : Value} (hv : ∀ items, v ≠ .arr items) : v.leaves = [v.plain] := by
  cases v with
  | arr items => exact absurd rfl (hv items)
  | null | bool b | num n | str s | obj fields => rfl

theorem leavesOfItems_eq (items : List Value) : leavesOfItems items = items.flatMap leaves := by
  induction items with
  | nil => rfl
  | cons v rest ih => rw [leavesOfItems, ih, List.flatMap_cons]

theorem leaves_arr {items : List Value} (h : items ≠ []) :
    leaves (.arr items) = items.flatMap leaves := by
  cases items with
  | nil => exact absurd rfl h
  | cons v rest => rw [leaves, leavesOfItems_eq, List.flatMap_cons]

theorem leaves_ne_nil (v : Value) : v.leaves ≠ [] := by
  cases v with
  | arr items =>
    cases items with
    | nil => simp [leaves]
    | cons v rest =>
      rw [leaves]
      exact List.append_ne_nil_of_left_ne_nil (leaves_ne_nil v) _
  | null | bool b | num n | str s | obj fields => simp [leaves]

mutual

theorem plain_eq_join (v : Value) : v.plain = ",".intercalate v.leaves := by
  cases v with
  | arr items =>
    cases hitems : items with
    | nil => rfl
    | cons w rest =>
      rw [← hitems, plain, plainItems_eq items, leaves_arr (by simp [hitems]),
        String.intercalate_flatMap _ leaves_ne_nil]
  | null | bool b | num n | str s | obj fields => exact String.intercalate_singleton.symm

theorem plainItems_eq (items : List Value) :
    plainItems items = items.map fun v => ",".intercalate v.leaves := by
  cases items with
  | nil => rfl
  | cons v rest => rw [plainItems, plain_eq_join v, plainItems_eq rest, List.map_cons]

end

/-- Somewhere in the first value an array stands among the items of another one, which in the second
value has its items in its place. -/
inductive Spliced : Value → Value → Prop
  | here {before items after : List Value} (h : items ≠ []) :
      Spliced (.arr (before ++ .arr items :: after)) (.arr (before ++ items ++ after))
  | item {before after : List Value} {v w : Value} (h : Spliced v w) :
      Spliced (.arr (before ++ v :: after)) (.arr (before ++ w :: after))
  | field {before after : Object} {k : String} {v w : Value} (h : Spliced v w) :
      Spliced (.obj (before ++ (k, v) :: after)) (.obj (before ++ (k, w) :: after))

theorem Spliced.leaves_eq {v w : Value} (h : Spliced v w) : v.leaves = w.leaves := by
  induction h with
  | here h =>
    rw [leaves_arr (by simp), leaves_arr (by simp [h]), List.flatMap_append, List.flatMap_cons,
      leaves_arr h, List.flatMap_append, List.flatMap_append, List.append_assoc]
  | item h ih =>
    rw [leaves_arr (by simp), leaves_arr (by simp), List.flatMap_append, List.flatMap_append,
      List.flatMap_cons, List.flatMap_cons, ih]
  | field h ih => rfl

/-- The text of a value is that of its leaves, joined by commas, and its escaped text that of the
leaves escaped one by one. A value that is no array is its own leaf, an empty array counts as one
empty leaf, and any other array has the leaves of its items. So an array that is not empty may give
way to its items, and an exact text is matched by the values whose leaves make it up. -/
theorem text_by_leaves (v : Value) :
    ((∀ items, v ≠ .arr items) → v.leaves = [v.plain]) ∧
      (v = .arr [] → v.leaves = [""]) ∧
      (∀ items, items ≠ [] → v = .arr items → v.leaves = items.flatMap leaves) ∧
      v.plain = ",".intercalate v.leaves ∧
      (∀ t ∈ [Escape.xml, Escape.attr, Escape.jsAttr],
        v.escaped t = ",".intercalate (v.leaves.map (Escape.encode t))) ∧
      (∀ w, Spliced v w → w.plain = v.plain ∧ ∀ t, w.escaped t = v.escaped t) ∧
      ∀ text, MatchValue.holds (.exact text) (some v) ↔ ",".intercalate v.leaves = text := by
  refine ⟨leaves_of_not_arr, ?_, ?_, plain_eq_join v, ?_, ?_, ?_⟩
  · rintro rfl
    rfl
  · rintro items hne rfl
    exact leaves_arr hne
  · intro t ht
    have hcomma : ∀ t ∈ [Escape.xml, Escape.attr, Escape.jsAttr],
        Escape.isGuarded t ',' = false := by decide
    have hsep : ∀ c ∈ ",".toList, Escape.isGuarded t c = false := by simpa using hcomma t ht
    rw [escaped, plain_eq_join, Escape.encode_intercalate hsep]
  · intro w h
    have hplain : w.plain = v.plain := by rw [plain_eq_join, plain_eq_join, h.leaves_eq]
    exact ⟨hplain, fun t => congrArg (Escape.encode t) hplain⟩
  · intro text
    rw [← plain_eq_join, MatchValue.holds, Option.any_some, beq_iff_eq]

example : plain (.arr [.arr [.str "a", .arr []], .arr [.null, .bool true]]) = "a,,,true" := by
  decide

end Value

end BemRules
