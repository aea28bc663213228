import BemRules.Proofs.Script.Unfailing
import BemRules.Proofs.Selection.FirstMatch

namespace BemRules

theorem MatchValue.exact_of_holds {v w : String} {found : Option Value}
    (hv : (exact v).holds found) (hw : (exact w).holds found) : v = w := by
  cases found with
  | none => simp [holds] at hv
  | some value =>
    have h : value.plain = v := by simpa [holds] using hv
    have h' : value.plain = w := by simpa [holds] using hw
    exact h.symm.trans h'

/-- Every template wants the value under the key to have this plain form. -/
def Demands (key : KeyPath) (v : String) (ts : List Template) : Prop :=
  ∀ t ∈ ts, Predicate.property key (.exact v) ∈ t.predicates

namespace Demands

variable {key : KeyPath} {v w : String} {ts us : List Template} {c : Context}

theorem holds (h : Demands key v ts) {t : Template} (ht : t ∈ ts) (hc : t.holds c) :
    (MatchValue.exact v).holds (c.property key) :=
  (t.holds_iff c).mp hc _ (h t ht)

theorem excludes (hts : Demands key v ts) (hus : Demands key w us) (hne : v ≠ w)
    {t : Template} (ht : t ∈ ts) (hc : t.holds c) : ∀ u ∈ us, u.holds c = false := by
  intro u hu
  cases hcu : u.holds c with
  | false => rfl
  | true => exact absurd (MatchValue.exact_of_holds (hts.holds ht hc) (hus.holds hu hcu)) hne

theorem of_mem {conditions : List Predicate} (children : List Entry)
    (hc : Predicate.property key (.exact v) ∈ conditions) :
    Demands key v ((Entry.scope conditions children).templates []) := by
  intro t ht
  have hguarded : t.Guarded conditions := Entry.guarded_of_mem_templatesOf children ht
  apply hguarded.subset
  exact List.mem_filter.mpr ⟨hc, rfl⟩

/-- At most one of the two lists holds the answer, so they may change places. -/
theorem find?_exchange (hts : Demands key v ts) (hus : Demands key w us) (hne : v ≠ w) :
    (ts ++ us).reverse.find? (fun t => t.holds c) =
      (us ++ ts).reverse.find? fun t => t.holds c := by
  rw [List.reverse_append, List.reverse_append, List.find?_append, List.find?_append]
  cases ht : ts.reverse.find? fun t => t.holds c with
  | none => simp
  | some t =>
    have hmem : t ∈ ts := List.mem_reverse.mp (List.mem_of_find?_eq_some ht)
    have hholds : t.holds c := by simpa using List.find?_some ht
    have hnone : us.reverse.find? (fun t => t.holds c) = none := by
      rw [List.find?_eq_none]
      intro u hu
      rw [hts.excludes hus hne hmem hholds u (List.mem_reverse.mp hu)]
      exact Bool.false_ne_true
    rw [hnone, Option.none_or, Option.or_none]

end Demands

theorem Script.templates_run_pair {s₁ s₂ : Script} {a b : Step} (h₁ : s₁.run.error = none)
    (ha : a.Registers) (hb : b.Registers) :
    (Script.run (s₁ ++ a :: b :: s₂)).registry.templates =
      s₁.run.registry.templates ++
        if s₁.run.registry.depth = 0 then
          a.registered ++ b.registered ++ s₂.run.registry.templates
        else [] := by
  rw [Script.templates_run_append h₁, Script.templates_run_cons ha, Script.templates_run_cons hb,
    List.append_assoc]

theorem Script.error_run_pair {s₁ s₂ : Script} {a b : Step} (h₁ : s₁.run.error = none)
    (ha : a.Registers) (hb : b.Registers) (h₂ : s₂.run.error = none) :
    (Script.run (s₁ ++ a :: b :: s₂)).error = none := by
  rw [Script.run, Step.error_runAll_eq_none_iff] at h₁ h₂ ⊢
  rw [List.forall_mem_append, List.forall_mem_cons, List.forall_mem_cons]
  exact ⟨h₁, ha.error_growth, hb.error_growth, h₂⟩

theorem Script.compile_of_error {s : Script} (hs : s.run.error = none) :
    s.compile = .ok s.run.registry.finish := by
  rw [Script.compile, Outcome.compiled, hs]

/-- Two steps whose templates exclude each other, by one key and two values, may change places: no
context can tell which of them was registered last. `Registers` asks for no more than that nothing
in the step fails: then the depth behind it is zero as well, by `Step.registers_of_unfailing`. -/
theorem Script.firstMatch_exchange (s₁ s₂ : Script) (a b : Step) (h₁ : s₁.run.error = none)
    (ha : a.Registers) (hb : b.Registers) (h₂ : s₂.run.error = none) (key : KeyPath) (v w : String)
    (hne : v ≠ w) (hv : Demands key v a.registered) (hw : Demands key w b.registered) :
    ∃ x y, Script.compile (s₁ ++ a :: b :: s₂) = .ok x ∧
      Script.compile (s₁ ++ b :: a :: s₂) = .ok y ∧
      ∀ c, x.firstMatch c = y.firstMatch c := by
  have hx := Script.error_run_pair h₁ ha hb h₂
  have hy := Script.error_run_pair h₁ hb ha h₂
  refine ⟨_, _, Script.compile_of_error hx, Script.compile_of_error hy, ?_⟩
  intro c
  rw [Compiled.firstMatch_finish, Compiled.firstMatch_finish, Script.templates_run_pair h₁ ha hb,
    Script.templates_run_pair h₁ hb ha]
  split
  · have hfind := hv.find?_exchange hw hne (c := c)
    simp only [List.reverse_append, List.find?_append] at hfind ⊢
    rw [hfind]
  · rfl

def Step.rulesOf (block : String) : Step :=
  .chain (.block block)
    [.nest
      [.chain (.mode "tag") [.body (.value (.str block))],
        .chain (.elem "item") [.narrow (.setter (.aspect (.add .mix))), .body (.value .null)]]]

theorem Script.firstMatch_exchange_blocks :
    let s₁ : Script := [.chain (.mode "tag") [.body (.value (.str "div"))]]
    let s₂ : Script := [.chain (.options [("x", .null)]) [.body (.value .null)]]
    let a := Step.rulesOf "menu"
    let b := Step.rulesOf "link"
    (s₁.run.error = none ∧ a.Registers ∧ b.Registers ∧ s₂.run.error = none ∧ "menu" ≠ "link" ∧
      Demands (.field "block") "menu" a.registered ∧
      Demands (.field "block") "link" b.registered) ∧
      ∃ x y, Script.compile (s₁ ++ a :: b :: s₂) = .ok x ∧
        Script.compile (s₁ ++ b :: a :: s₂) = .ok y ∧ ∀ c, x.firstMatch c = y.firstMatch c := by
  intro s₁ s₂ a b
  have hgrowth (block : String) : ∃ children,
      (Step.rulesOf block).growth = ⟨[⟨[.block block], children⟩], [], none⟩ := ⟨_, rfl⟩
  have ha : a.Registers := a.registers_of_unfailing rfl
  have hb : b.Registers := b.registers_of_unfailing rfl
  have hdemands (block : String) :
      Demands (.field "block") block (Step.rulesOf block).registered := by
    obtain ⟨children, hg⟩ := hgrowth block
    rw [Step.registered_of_growth hg]
    exact Demands.of_mem children List.mem_cons_self
  have hne : "menu" ≠ "link" := by decide
  exact ⟨⟨rfl, ha, hb, rfl, hne, hdemands _, hdemands _⟩,
    Script.firstMatch_exchange s₁ s₂ a b rfl ha hb rfl _ _ _ hne (hdemands _) (hdemands _)⟩

end BemRules
