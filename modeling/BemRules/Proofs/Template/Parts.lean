import BemRules.Proofs.Body.Requests
import BemRules.Template

namespace BemRules

namespace Predicate

theorem isAspect_of_forall_ne {p : Predicate} (hp : ∀ a, p ≠ .aspect a) : p.isAspect = false := by
  cases p with
  | aspect a => exact absurd rfl (hp a)
  | property key value | custom test | options marker => rfl

/-- The first list is the other two put together: the filters and the aspects in it, both in their
order. -/
inductive Parts : List Predicate → List Predicate → List Aspect → Prop where
  | nil : Parts [] [] []
  | filter {p : Predicate} {ps filters : List Predicate} {aspects : List Aspect}
      (hp : ∀ a, p ≠ .aspect a) (h : Parts ps filters aspects) :
      Parts (p :: ps) (p :: filters) aspects
  | aspect (a : Aspect) {ps filters : List Predicate} {aspects : List Aspect}
      (h : Parts ps filters aspects) : Parts (.aspect a :: ps) filters (a :: aspects)

theorem exists_parts (ps : List Predicate) : ∃ filters aspects, Parts ps filters aspects := by
  induction ps with
  | nil => exact ⟨[], [], .nil⟩
  | cons p ps ih =>
    obtain ⟨filters, aspects, h⟩ := ih
    by_cases hp : ∃ a, p = .aspect a
    · obtain ⟨a, rfl⟩ := hp
      exact ⟨filters, a :: aspects, .aspect a h⟩
    · exact ⟨p :: filters, aspects, .filter (not_exists.mp hp) h⟩

namespace Parts

variable {ps filters : List Predicate} {aspects : List Aspect}

theorem unique (h : Parts ps filters aspects) {filters' : List Predicate} {aspects' : List Aspect}
    (h' : Parts ps filters' aspects') : filters = filters' ∧ aspects = aspects' := by
  induction h generalizing filters' aspects' with
  | nil =>
    cases h'
    exact ⟨rfl, rfl⟩
  | filter hp _ ih =>
    cases h' with
    | filter _ h' =>
      obtain ⟨rfl, rfl⟩ := ih h'
      exact ⟨rfl, rfl⟩
    | aspect a _ => exact absurd rfl (hp a)
  | aspect a _ ih =>
    cases h' with
    | filter hp _ => exact absurd rfl (hp a)
    | aspect _ h' =>
      obtain ⟨rfl, rfl⟩ := ih h'
      exact ⟨rfl, rfl⟩

theorem filter_eq (h : Parts ps filters aspects) : (ps.filter fun p => !p.isAspect) = filters := by
  induction h with
  | nil => rfl
  | @filter p _ _ _ hp _ ih =>
    have hkeep : (!p.isAspect) = true := by rw [isAspect_of_forall_ne hp, Bool.not_false]
    rw [List.filter_cons, if_pos hkeep, ih]
  | aspect a _ ih => exact ih

theorem foldl_decorate (h : Parts ps filters aspects) (b : CompiledBody) :
    ps.foldl CompiledBody.decorate b = .stack aspects b := by
  induction h generalizing b with
  | nil => rfl
  | @filter p _ _ _ hp _ ih =>
    have hb : b.decorate p = b := by
      cases p with
      | aspect a => exact absurd rfl (hp a)
      | _ => rfl
    rw [List.foldl_cons, hb, ih]
  | aspect a _ ih => exact ih (b.decorate (.aspect a))

theorem holds_iff (h : Parts ps filters aspects) (c : Context) :
    (∀ p ∈ filters, p.holds c) ↔ ∀ p ∈ ps, p.holds c := by
  induction h with
  | nil => exact Iff.rfl
  | filter _ _ ih => rw [List.forall_mem_cons, List.forall_mem_cons, ih]
  | aspect a _ ih =>
    rw [List.forall_mem_cons, ih]
    exact (and_iff_right rfl).symm

theorem exists_isAspect_iff (h : Parts ps filters aspects) :
    (∃ p ∈ ps, p.isAspect) ↔ aspects ≠ [] := by
  induction h with
  | nil => simp
  | @filter p _ _ _ hp _ ih =>
    have hnot : ¬ p.isAspect := Bool.eq_false_iff.mp (isAspect_of_forall_ne hp)
    rw [List.exists_mem_cons_iff, ih]
    exact or_iff_right hnot
  | aspect a _ _ => exact ⟨fun _ => List.cons_ne_nil _ _, fun _ => ⟨_, List.mem_cons_self, rfl⟩⟩

theorem countP_isAspect (h : Parts ps filters aspects) :
    ps.countP isAspect = aspects.length := by
  induction h with
  | nil => rfl
  | @filter p _ _ _ hp _ ih =>
    have hnot : ¬ p.isAspect := Bool.eq_false_iff.mp (isAspect_of_forall_ne hp)
    rw [List.countP_cons_of_neg hnot, ih]
  | aspect a _ ih => rw [List.countP_cons_of_pos rfl, ih, List.length_cons]

end Parts

end Predicate

namespace CompiledBody

def decorations : CompiledBody → List Aspect
  | .decorated a inner => a :: decorations inner
  | .literal _ | .call _ | .object _ => []

def core : CompiledBody → CompiledBody
  | .decorated _ inner => core inner
  | .literal v => .literal v
  | .call f => .call f
  | .object entries => .object entries

theorem decorations_stack (ds : List Aspect) (b : CompiledBody) :
    (stack ds b).decorations = ds.reverse ++ b.decorations := by
  induction ds generalizing b with
  | nil => rfl
  | cons d ds ih =>
    have h : (stack ds (.decorated d b)).decorations = ds.reverse ++ d :: b.decorations := ih _
    rw [List.reverse_cons, List.append_assoc]
    exact h

theorem core_stack (ds : List Aspect) (b : CompiledBody) : (stack ds b).core = b.core := by
  induction ds generalizing b with
  | nil => rfl
  | cons d ds ih => exact ih (.decorated d b)

theorem decorations_ofBody (b : Body) : (ofBody b).decorations = [] := by
  cases b <;> rfl

theorem core_ofBody (b : Body) : (ofBody b).core = ofBody b := by
  cases b <;> rfl

theorem isDecorated_iff (b : CompiledBody) : b.isDecorated ↔ b.decorations ≠ [] := by
  cases b <;> simp [isDecorated, decorations]

theorem literal?_eq_some_iff (b : CompiledBody) (v : Value) :
    b.literal? = some v ↔ b.decorations = [] ∧ b.core = .literal v := by
  cases b <;> simp [literal?, decorations, core]

theorem ofBody_eq_literal_iff (b : Body) (v : Value) : ofBody b = .literal v ↔ b = .value v := by
  cases b <;> simp [ofBody]

end CompiledBody

namespace Template

theorem body_build (ps : List Predicate) (b : Body) {filters : List Predicate}
    {aspects : List Aspect} (h : Predicate.Parts ps filters aspects) :
    (build ps b).body = .stack aspects (.ofBody b) :=
  h.foldl_decorate _

theorem decorations_build (ps : List Predicate) (b : Body) {filters : List Predicate}
    {aspects : List Aspect} (h : Predicate.Parts ps filters aspects) :
    (build ps b).body.decorations = aspects.reverse := by
  rw [body_build ps b h, CompiledBody.decorations_stack, CompiledBody.decorations_ofBody,
    List.append_nil]

/-- A template keeps exactly the filters of its scope, in order, and holds where all of the scope
holds. Its body is the plain body under exactly the aspects of the scope, of which the last is the
outermost; aspects behind a scope go over what is there. -/
theorem build_parts (ps : List Predicate) (b : Body) :
    let t := build ps b
    (∀ filters aspects, Predicate.Parts ps filters aspects ↔
        t.predicates = filters ∧ t.body.decorations = aspects.reverse) ∧
      t.body.decorations.length = ps.countP Predicate.isAspect ∧
      t.body.core = .ofBody b ∧
      (∀ c, t.holds c ↔ ∀ p ∈ ps, p.holds c) ∧
      (t.body.isDecorated ↔ ∃ p ∈ ps, p.isAspect) ∧
      (∀ v, t.body.literal? = some v ↔ (¬ ∃ p ∈ ps, p.isAspect) ∧ b = .value v) ∧
      ∀ qs filters aspects, Predicate.Parts qs filters aspects →
        (build (ps ++ qs) b).predicates = t.predicates ++ filters ∧
          (build (ps ++ qs) b).body = .stack aspects t.body := by
  intro t
  obtain ⟨filters, aspects, h⟩ := Predicate.exists_parts ps
  have hfilters : t.predicates = filters := h.filter_eq
  have hdecorations : t.body.decorations = aspects.reverse := decorations_build ps b h
  have hcore : t.body.core = .ofBody b := by
    rw [body_build ps b h, CompiledBody.core_stack, CompiledBody.core_ofBody]
  have haspects : t.body.decorations ≠ [] ↔ ∃ p ∈ ps, p.isAspect := by
    rw [hdecorations, h.exists_isAspect_iff, ne_eq, List.reverse_eq_nil_iff]
  refine ⟨fun filters' aspects' => ⟨?_, ?_⟩, ?_, hcore, ?_, ?_, ?_, ?_⟩
  · intro h'
    obtain ⟨rfl, rfl⟩ := h.unique h'
    exact ⟨hfilters, hdecorations⟩
  · rintro ⟨hf, hd⟩
    have ha : aspects = aspects' := List.reverse_injective (hdecorations.symm.trans hd)
    rwa [← hf, ← ha, hfilters]
  · rw [hdecorations, List.length_reverse, h.countP_isAspect]
  · intro c
    rw [t.holds_eq, List.all_eq_true, hfilters]
    exact h.holds_iff c
  · rw [CompiledBody.isDecorated_iff, haspects]
  · intro v
    rw [CompiledBody.literal?_eq_some_iff, hcore, CompiledBody.ofBody_eq_literal_iff, ← haspects,
      not_not]
  · intro qs filters' aspects' h'
    refine ⟨?_, ?_⟩
    · rw [build, List.filter_append, h'.filter_eq]
      rfl
    · rw [build, List.foldl_append, h'.foldl_decorate]
      rfl

end Template

end BemRules
