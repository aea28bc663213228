import BemRules.Proofs.Options.Marks
import BemRules.Proofs.Script.Unfailing

namespace BemRules

namespace Mark

def setting (k : String) (m : Mark) : Option Value := Object.setting k m.marker

variable {k : String} {v : Value} {ms : List Mark}

structure Latest (k : String) (ms : List Mark) (m : Mark) : Prop where
  mem : m ∈ ms
  sets : m.setting k ≠ none
  last : ∀ n ∈ ms, n.setting k ≠ none → n.moment ≤ m.moment

/-- The marks around a template behind which no template has a mark that sets the option. -/
def LastGuard (k : String) (guards : List (List Mark)) (ms : List Mark) : Prop :=
  ∃ earlier later, guards = earlier ++ ms :: later ∧ ∀ ns ∈ later, ∀ n ∈ ns, n.setting k = none

theorem findSome?_reverse_eq_none_iff :
    ms.reverse.findSome? (setting k) = none ↔ ∀ m ∈ ms, m.setting k = none := by
  simp [List.findSome?_eq_none_iff]

theorem findSome?_reverse_eq_some_iff (hms : ms.Pairwise fun m n => m.moment < n.moment) :
    ms.reverse.findSome? (setting k) = some v ↔
      ∃ m : Mark, m.Latest k ms ∧ m.setting k = some v := by
  rw [List.findSome?_reverse_eq_some_iff_last]
  constructor
  · rintro ⟨earlier, m, later, rfl, hm, hlater⟩
    refine ⟨m, ⟨by simp, by simp [hm], ?_⟩, hm⟩
    intro n hn hset
    obtain ⟨-, -, hbefore⟩ := List.pairwise_append.mp hms
    rcases List.mem_append.mp hn with hn | hn
    · exact Nat.le_of_lt (hbefore n hn m List.mem_cons_self)
    · rcases List.mem_cons.mp hn with rfl | hn
      · exact Nat.le_refl _
      · exact absurd (hlater n hn) hset
  · rintro ⟨m, hlatest, hm⟩
    obtain ⟨earlier, later, rfl⟩ := List.append_of_mem hlatest.mem
    obtain ⟨-, hcons, -⟩ := List.pairwise_append.mp hms
    refine ⟨earlier, m, later, rfl, hm, ?_⟩
    intro n hn
    have hlt := (List.pairwise_cons.mp hcons).1 n hn
    cases hn' : n.setting k with
    | none => rfl
    | some w =>
      have hle := hlatest.last n (by simp [hn]) (by simp [hn'])
      omega

theorem findSome?_guards_eq_none_iff {guards : List (List Mark)} :
    (guards.reverse.findSome? fun ms => ms.reverse.findSome? (setting k)) = none ↔
      ∀ ms ∈ guards, ∀ m ∈ ms, m.setting k = none := by
  simp only [List.findSome?_eq_none_iff, List.mem_reverse]

theorem findSome?_guards_eq_some_iff {guards : List (List Mark)} :
    (guards.reverse.findSome? fun ms => ms.reverse.findSome? (setting k)) = some v ↔
      ∃ ms, LastGuard k guards ms ∧ ms.reverse.findSome? (setting k) = some v := by
  simp only [List.findSome?_reverse_eq_some_iff_last, findSome?_reverse_eq_none_iff]
  constructor
  · rintro ⟨earlier, ms, later, hsplit, hms, hlater⟩
    exact ⟨ms, ⟨earlier, later, hsplit, hlater⟩, hms⟩
  · rintro ⟨ms, ⟨earlier, later, hsplit, hlater⟩, hms⟩
    exact ⟨earlier, ms, later, hsplit, hms, hlater⟩

theorem Latest.of_subset {ns : List Mark} {m : Mark} (h : m.Latest k ns) (hsub : ms ⊆ ns)
    (hm : m ∈ ms) : m.Latest k ms :=
  ⟨hm, h.sets, fun n hn => h.last n (hsub hn)⟩

end Mark

namespace Script

/-- The scopes that a script closes. -/
def forest (s : Script) : List Entry := (Step.growthOfAll s).scopes.map Scope.toEntry

def markers (s : Script) : List Object := Entry.markersOf s.forest

def guards (s : Script) : List (List Mark) := Entry.guardsOf [] [] 0 s.forest

theorem templates_run_of_tidy (s : Script) (ht : s.tidy) :
    s.run.registry.templates = Entry.templatesOf [] s.forest := by
  rw [Script.run, (Step.runAll_of_tidy s ht {} rfl).1, forest, Step.tidyAll_means [] s ht]
  rfl

theorem map_marker_guards_of_tidy (s : Script) (ht : s.tidy) :
    s.guards.map (List.map Mark.marker) = s.run.registry.templates.map Template.markers := by
  rw [s.templates_run_of_tidy ht]
  exact Entry.map_marker_guardsOf rfl 0 s.forest

theorem inOrder_of_guard (s : Script) {ms : List Mark} (hms : ms ∈ s.guards) :
    ms.Pairwise fun m n => m.moment < n.moment := by
  have hnil : Mark.InOrder 0 [] := ⟨List.Pairwise.nil, by simp⟩
  exact Entry.inOrder_of_mem_guardsOf hnil s.forest hms

theorem at_of_guard (s : Script) {ms : List Mark} (hms : ms ∈ s.guards) :
    ∀ m ∈ ms, m.At s.markers :=
  Entry.at_of_mem_guardsOf (by simp) s.forest (List.prefix_refl _) hms

theorem get?_compilerOptions_of_tidy (s : Script) (ht : s.tidy) (k : String) :
    Fields.get? s.run.registry.finish.compilerOptions k =
      s.guards.reverse.findSome? fun ms => ms.reverse.findSome? (Mark.setting k) := by
  let last (os : List Object) : Option Value := os.reverse.findSome? (Object.setting k)
  have hlast (ms : List Mark) :
      last (ms.map Mark.marker) = ms.reverse.findSome? (Mark.setting k) := by
    simp only [last, ← List.map_reverse, List.findSome?_map]
    rfl
  calc Fields.get? s.run.registry.finish.compilerOptions k
      = s.run.registry.templates.reverse.findSome? (last ∘ Template.markers) :=
        Registry.get?_compilerOptions _ k
    _ = (s.run.registry.templates.map Template.markers).reverse.findSome? last := by
        rw [← List.map_reverse, List.findSome?_map]
    _ = s.guards.reverse.findSome? (last ∘ List.map Mark.marker) := by
        rw [← s.map_marker_guards_of_tidy ht, ← List.map_reverse, List.findSome?_map]
    _ = s.guards.reverse.findSome? fun ms => ms.reverse.findSome? (Mark.setting k) := by
        congr 1
        funext ms
        exact hlast ms

/-- The value of an option is read off one template, the last with a marker that sets it, and there
the marker called last decides. That is the marker called last of all when it is around this
template too; otherwise the template writes one again that was called before. -/
theorem compilerOptions_eq_setting (s : Script) (ht : s.tidy) (k : String) :
    let x := s.run.registry.finish
    (∀ v, Fields.get? x.compilerOptions k = some v ↔
        ∃ ms, ∃ m : Mark, Mark.LastGuard k s.guards ms ∧ m.Latest k ms ∧ m.setting k = some v) ∧
      (Fields.get? x.compilerOptions k = none ↔ ∀ ms ∈ s.guards, ∀ m ∈ ms, m.setting k = none) ∧
      (∀ ms m, Mark.LastGuard k s.guards ms → m ∈ ms → m.Latest k s.guards.flatten →
        Fields.get? x.compilerOptions k = m.setting k) ∧
      s.guards.map (List.map Mark.marker) = s.run.registry.templates.map Template.markers ∧
      ∀ ms ∈ s.guards, ∀ m ∈ ms, m.At s.markers := by
  intro x
  have hvalue (v : Value) : Fields.get? x.compilerOptions k = some v ↔
      ∃ ms, ∃ m : Mark, Mark.LastGuard k s.guards ms ∧ m.Latest k ms ∧ m.setting k = some v := by
    rw [s.get?_compilerOptions_of_tidy ht, Mark.findSome?_guards_eq_some_iff]
    apply exists_congr
    intro ms
    rw [exists_and_left]
    apply and_congr_right
    rintro ⟨earlier, later, hsplit, -⟩
    exact Mark.findSome?_reverse_eq_some_iff (s.inOrder_of_guard (by simp [hsplit]))
  refine ⟨hvalue, ?_, ?_, s.map_marker_guards_of_tidy ht, fun ms => s.at_of_guard⟩
  · rw [s.get?_compilerOptions_of_tidy ht, Mark.findSome?_guards_eq_none_iff]
  · intro ms m hms hm hlatest
    obtain ⟨v, hv⟩ := Option.ne_none_iff_exists'.mp hlatest.sets
    have hsub : ms ⊆ s.guards.flatten := by
      obtain ⟨earlier, later, hsplit, -⟩ := hms
      intro n hn
      exact List.mem_flatten.mpr ⟨ms, by simp [hsplit], hn⟩
    rw [hv, hvalue]
    exact ⟨ms, m, hms, hlatest.of_subset hsub hm, hv⟩

/-- A marker around two rules, the first of which has one of its own. -/
def replayed : Script :=
  [.chain (.options [("escapeContent", .bool true)])
    [.nest
      [.chain (.options [("escapeContent", .bool false)]) [.body (.value .null)],
        .chain (.block "b") [.body (.value .null)]]]]

def replayedOuter : Mark := ⟨0, [("escapeContent", .bool true)]⟩

def replayedInner : Mark := ⟨1, [("escapeContent", .bool false)]⟩

theorem guards_replayed : replayed.guards = [[replayedOuter, replayedInner], [replayedOuter]] := rfl

theorem compilerOptions_of_replayed :
    let x := replayed.run.registry.finish
    replayed.tidy ∧ Fields.get? x.compilerOptions "escapeContent" = some (.bool true) ∧
      Fields.get? x.compilerOptions "elemJsInstances" = none := by
  intro x
  obtain ⟨hvalue, -⟩ := replayed.compilerOptions_eq_setting rfl "escapeContent"
  obtain ⟨-, hnone, -⟩ := replayed.compilerOptions_eq_setting rfl "elemJsInstances"
  rw [guards_replayed] at hvalue hnone
  have hlast : Mark.LastGuard "escapeContent" [[replayedOuter, replayedInner], [replayedOuter]]
      [replayedOuter] := ⟨[[replayedOuter, replayedInner]], [], rfl, by simp⟩
  have hlatest : replayedOuter.Latest "escapeContent" [replayedOuter] :=
    ⟨List.mem_cons_self, by decide, by simp⟩
  refine ⟨replayed.tidy_of_unfailing rfl, (hvalue _).mpr ⟨_, _, hlast, hlatest, rfl⟩,
    hnone.mpr ?_⟩
  have houter : replayedOuter.setting "elemJsInstances" = none := rfl
  have hinner : replayedInner.setting "elemJsInstances" = none := rfl
  simp [houter, hinner]

theorem latest_of_replayed :
    Unfailing replayed.run.events ∧
      replayedInner.Latest "escapeContent" replayed.guards.flatten ∧
      Fields.get? replayed.run.registry.finish.compilerOptions "escapeContent" ≠
        replayedInner.setting "escapeContent" := by
  refine ⟨rfl, ⟨?_, ?_, ?_⟩, ?_⟩
  · simp [guards_replayed]
  · decide
  · simp [guards_replayed, replayedOuter, replayedInner]
  · decide

end Script

end BemRules
