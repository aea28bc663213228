import BemRules.Registry

namespace BemRules

namespace Template

/-- The template starts with the filters among the given predicates. -/
def Guarded (ps : List Predicate) (t : Template) : Prop :=
  (ps.filter fun p => !p.isAspect) <+: t.predicates

theorem guarded_build (ps qs : List Predicate) (b : Body) : (build (ps ++ qs) b).Guarded ps := by
  rw [Guarded, build, List.filter_append]
  exact List.prefix_append _ _

theorem guarded_of_mem_ofScope {ps : List Predicate} {b : Body} {t : Template}
    (ht : t ∈ ofScope ps b) : t.Guarded ps := by
  have hplain : (build ps b).Guarded ps := by
    simpa using guarded_build ps [] b
  rw [ofScope] at ht
  split at ht
  · cases he : b.entries? with
    | none =>
      simp only [he, List.mem_singleton] at ht
      exact ht ▸ hplain
    | some entries =>
      simp only [he, List.mem_map] at ht
      obtain ⟨⟨key, body⟩, -, rfl⟩ := ht
      exact guarded_build ps _ body
  · exact List.mem_singleton.mp ht ▸ hplain

theorem Guarded.of_append {ps qs : List Predicate} {t : Template} (ht : t.Guarded (ps ++ qs)) :
    t.Guarded ps := by
  rw [Guarded, List.filter_append] at ht
  exact (List.prefix_append _ _).trans ht

end Template

namespace Entry

theorem templatesOf_append (above : List Predicate) (es fs : List Entry) :
    templatesOf above (es ++ fs) = templatesOf above es ++ templatesOf above fs := by
  induction es with
  | nil => rfl
  | cons e es ih => simp [templatesOf, ih]

theorem templatesOf_bodies (above : List Predicate) (bs : List Body) :
    templatesOf above (bs.map .body) = bs.flatMap (Template.ofScope above) := by
  induction bs with
  | nil => rfl
  | cons b bs ih => simp [templatesOf, templates, ih]

mutual

theorem guarded_of_mem_templates {above : List Predicate} {t : Template} (e : Entry)
    (ht : t ∈ e.templates above) : t.Guarded above := by
  cases e with
  | scope conditions children =>
    rw [templates] at ht
    exact (guarded_of_mem_templatesOf children ht).of_append
  | body b => exact Template.guarded_of_mem_ofScope ht

theorem guarded_of_mem_templatesOf {above : List Predicate} {t : Template} (es : List Entry)
    (ht : t ∈ templatesOf above es) : t.Guarded above := by
  cases es with
  | nil => simp [templatesOf] at ht
  | cons e es =>
    rw [templatesOf] at ht
    cases List.mem_append.mp ht with
    | inl he => exact guarded_of_mem_templates e he
    | inr hes => exact guarded_of_mem_templatesOf es hes

end

end Entry

end BemRules
