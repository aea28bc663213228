namespace BemRules

/-- Entries under text keys, in the order in which the keys were first written. -/
abbrev Fields (α : Type) := List (String × α)

namespace Fields

variable {α : Type}

def keys (fs : Fields α) : List String := fs.map Prod.fst

def Distinct (fs : Fields α) : Prop := (keys fs).Nodup

instance (fs : Fields α) : Decidable (Distinct fs) := inferInstanceAs (Decidable (keys fs).Nodup)

def get? (fs : Fields α) (k : String) : Option α := List.lookup k fs

/-- A key that is written again keeps its place. -/
def insert : Fields α → String → α → Fields α
  | [], k, v => [(k, v)]
  | (l, w) :: rest, k, v => if l = k then (k, v) :: rest else (l, w) :: insert rest k v

def merge (a b : Fields α) : Fields α := b.foldl (fun acc e => insert acc e.1 e.2) a

/-- Of entries that repeat a key, the first one gives the place and the last one the value. -/
def ofEntries (entries : List (String × α)) : Fields α := merge [] entries

theorem get?_nil (k : String) : get? ([] : Fields α) k = none := rfl

theorem get?_cons (l : String) (v : α) (fs : Fields α) (k : String) :
    get? ((l, v) :: fs) k = if l = k then some v else get? fs k := by
  rw [get?, get?, List.lookup_cons]
  by_cases h : l = k
  · simp [h]
  · simp [h, beq_eq_false_iff_ne.mpr (Ne.symm h)]

theorem get?_append (a b : Fields α) (k : String) :
    get? (a ++ b) k = (get? a k).or (get? b k) :=
  List.lookup_append

theorem get?_eq_none_iff (fs : Fields α) (k : String) : get? fs k = none ↔ k ∉ keys fs := by
  rw [get?, List.lookup_eq_none_iff]
  simp only [keys, List.mem_map, bne_iff_ne, not_exists, not_and]
  exact forall₂_congr fun e he => ne_comm

theorem mem_of_get? {fs : Fields α} {k : String} {v : α} (h : get? fs k = some v) :
    (k, v) ∈ fs := by
  obtain ⟨before, after, rfl, -⟩ := List.lookup_eq_some_iff.mp h
  exact List.mem_append_right before List.mem_cons_self

theorem get?_append_cons_self {a : Fields α} {k : String} (h : k ∉ keys a) (v : α) (b : Fields α) :
    get? (a ++ (k, v) :: b) k = some v := by
  rw [get?_append, (get?_eq_none_iff a k).mpr h, Option.none_or, get?_cons, if_pos rfl]

theorem get?_append_cons_of_ne {k l : String} (h : k ≠ l) (a : Fields α) (v : α) (b : Fields α) :
    get? (a ++ (k, v) :: b) l = get? (a ++ b) l := by
  rw [get?_append, get?_append, get?_cons, if_neg h]

theorem get?_of_mem {fs : Fields α} (h : Distinct fs) {e : String × α} (he : e ∈ fs) :
    get? fs e.1 = some e.2 := by
  obtain ⟨before, after, rfl⟩ := List.append_of_mem he
  refine get?_append_cons_self (fun hmem => ?_) e.2 after
  rw [Distinct, keys, List.map_append, List.map_cons] at h
  exact (List.nodup_append.mp h).2.2 e.1 hmem e.1 List.mem_cons_self rfl

theorem get?_perm {a b : Fields α} (hp : a.Perm b) (ha : Distinct a) (k : String) :
    get? a k = get? b k := by
  have hb : Distinct b := (hp.map Prod.fst).nodup_iff.mp ha
  apply Option.ext
  intro v
  constructor
  · intro h
    exact get?_of_mem hb (hp.mem_iff.mp (mem_of_get? h))
  · intro h
    exact get?_of_mem ha (hp.mem_iff.mpr (mem_of_get? h))

theorem get?_insert (fs : Fields α) (k l : String) (v : α) :
    get? (insert fs k v) l = if k = l then some v else get? fs l := by
  induction fs with
  | nil => exact get?_cons k v [] l
  | cons e rest ih => grind [insert, get?_cons]

theorem insert_of_get?_none {fs : Fields α} {k : String} {v : α} (h : get? fs k = none) :
    insert fs k v = fs ++ [(k, v)] := by
  induction fs with
  | nil => rfl
  | cons e rest ih => grind [insert, get?_cons]

theorem mem_keys_insert (fs : Fields α) (k l : String) (v : α) :
    l ∈ keys (insert fs k v) ↔ l = k ∨ l ∈ keys fs := by
  induction fs with
  | nil => simp [insert, keys]
  | cons e rest ih => grind [insert, keys]

theorem distinct_insert {fs : Fields α} (h : Distinct fs) (k : String) (v : α) :
    Distinct (insert fs k v) := by
  induction fs with
  | nil => simp [Distinct, insert, keys]
  | cons e rest ih =>
    simp only [Distinct, keys, List.map_cons, List.nodup_cons] at h
    have hk := mem_keys_insert rest k e.1 v
    simp only [keys] at hk
    grind [Distinct, insert, keys]

theorem distinct_merge {a : Fields α} (h : Distinct a) (b : Fields α) : Distinct (merge a b) := by
  induction b generalizing a with
  | nil => exact h
  | cons e rest ih => exact ih (distinct_insert h e.1 e.2)

/-- Looked up from behind, the last entry under a key is found first. -/
theorem get?_merge_reverse (a b : Fields α) (k : String) :
    get? (merge a b) k = (get? b.reverse k).or (get? a k) := by
  induction b generalizing a with
  | nil => rfl
  | cons e rest ih =>
    have hmerge : merge a (e :: rest) = merge (insert a e.1 e.2) rest := rfl
    rw [hmerge, ih, get?_insert, List.reverse_cons, get?_append, Option.or_assoc, get?_cons]
    split <;> rfl

theorem get?_merge (a : Fields α) {b : Fields α} (h : Distinct b) (k : String) :
    get? (merge a b) k = (get? b k).or (get? a k) := by
  rw [get?_merge_reverse, get?_perm b.reverse_perm.symm h]

theorem get?_ofEntries (entries : List (String × α)) (k : String) :
    get? (ofEntries entries) k = get? entries.reverse k := by
  rw [ofEntries, get?_merge_reverse, get?_nil, Option.or_none]

/-- Of objects merged one after the other the last that writes the key decides, where each writes
what `f` says. -/
theorem get?_foldl_merge {f : Fields α → Option α} {k : String} {ms : List (Fields α)}
    (hf : ∀ m ∈ ms, ∀ a, get? (merge a m) k = (f m).or (get? a k)) (a : Fields α) :
    get? (ms.foldl merge a) k = (ms.reverse.findSome? f).or (get? a k) := by
  induction ms generalizing a with
  | nil => rfl
  | cons m rest ih =>
    rw [List.foldl_cons, ih fun n hn => hf n (List.mem_cons_of_mem m hn),
      hf m List.mem_cons_self, List.reverse_cons, List.findSome?_append, Option.or_assoc,
      List.findSome?_singleton]

end Fields

end BemRules
