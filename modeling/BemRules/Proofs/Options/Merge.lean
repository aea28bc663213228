import BemRules.Registry

namespace List

theorem findSome?_reverse_flatMap {α β γ : Type} (f : α → List β) (g : β → Option γ)
    (xs : List α) :
    (xs.flatMap f).reverse.findSome? g =
      xs.reverse.findSome? fun x => (f x).reverse.findSome? g := by
  induction xs with
  | nil => rfl
  | cons x rest ih =>
    simp only [List.flatMap_cons, List.reverse_append, List.reverse_cons, List.findSome?_append, ih,
      List.findSome?_singleton]

theorem findSome?_reverse_eq_some_iff_last {α β : Type} {f : α → Option β} {xs : List α} {y : β} :
    xs.reverse.findSome? f = some y ↔ ∃ earlier x later, xs = earlier ++ x :: later ∧
      f x = some y ∧ ∀ z ∈ later, f z = none := by
  rw [List.findSome?_eq_some_iff]
  constructor
  · rintro ⟨later, x, earlier, hsplit, hx, hlater⟩
    refine ⟨earlier.reverse, x, later.reverse, ?_, hx, ?_⟩
    · rw [← List.reverse_reverse xs, hsplit]
      simp
    · intro z hz
      exact hlater z (List.mem_reverse.mp hz)
  · rintro ⟨earlier, x, later, rfl, hx, hlater⟩
    refine ⟨later.reverse, x, earlier.reverse, by simp, hx, ?_⟩
    intro z hz
    exact hlater z (List.mem_reverse.mp hz)

end List

namespace BemRules

def Object.setting (k : String) (marker : Object) : Option Value :=
  Fields.get? (Fields.ofEntries marker) k

theorem Fields.get?_merge_setting (a : Object) (marker : Object) (k : String) :
    get? (merge a marker) k = (Object.setting k marker).or (get? a k) := by
  rw [get?_merge_reverse, Object.setting, get?_ofEntries]

/-- The value of an option is given by the last template with a marker that sets it, and in that
template by the last such marker. -/
theorem Registry.get?_compilerOptions (r : Registry) (k : String) :
    Fields.get? r.finish.compilerOptions k =
      r.templates.reverse.findSome? fun t => t.markers.reverse.findSome? (Object.setting k) := by
  rw [Compiled.compilerOptions, Fields.get?_foldl_merge fun m _ a => Fields.get?_merge_setting a m k,
    Registry.finish, List.reverse_reverse, List.findSome?_reverse_flatMap, Fields.get?_nil,
    Option.or_none]

end BemRules
