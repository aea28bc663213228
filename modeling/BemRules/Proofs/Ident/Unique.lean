import BemRules.Proofs.Ident.Run
import Mathlib.Data.List.Nodup

namespace BemRules

namespace Value

variable {isKey : String → Prop} {v v' v'' : Value}

theorem Extended.trans (h : v.Extended isKey v') (h' : v'.Extended isKey v'') :
    v.Extended isKey v'' := by
  rcases h with rfl | ⟨fields, added, hv, hv', hadded⟩
  · exact h'
  rcases h' with rfl | ⟨fields', added', hfields, hv'', hadded'⟩
  · exact .inr ⟨fields, added, hv, hv', hadded⟩
  · cases hv'.symm.trans hfields
    refine .inr ⟨fields, added ++ added', hv, by rw [hv'', List.append_assoc], fun a ha => ?_⟩
    rcases List.mem_append.mp ha with ha | ha
    · exact hadded a ha
    · exact hadded' a ha

theorem Extended.isObj (h : v.Extended isKey v') (hv : v.isObj) : v'.isObj := by
  rcases h with rfl | ⟨fields, added, -, rfl, -⟩
  · exact hv
  · rfl

end Value

namespace IdState

variable {ι κ : Type} [DecidableEq ι] [DecidableEq κ] {w : IdState ι κ}
  {calls : List (IdCall ι κ)} {e : IdEvent ι κ}

theorem invariant_of_mem_run {P : IdState ι κ → Prop}
    (hstep : ∀ e : IdEvent ι κ, e.Kind → P e.before → P e.after) (hw : P w)
    (he : e ∈ w.run calls) : P e.before ∧ P e.after := by
  induction calls generalizing w with
  | nil => cases he
  | cons call rest ih =>
    have hafter : P (w.perform call).after :=
      hstep _ (w.kind_perform call) (by rwa [before_perform])
    rcases List.mem_cons.mp he with rfl | he
    · exact ⟨by rwa [before_perform], hafter⟩
    · exact ih hafter he

theorem kind_of_mem_run (he : e ∈ w.run calls) : e.Kind := by
  induction calls generalizing w with
  | nil => cases he
  | cons call rest ih =>
    rcases List.mem_cons.mp he with rfl | he
    · exact w.kind_perform call
    · exact ih he

theorem seedsApart_perform (hseed : w.SeedsApart) (call : IdCall ι κ) :
    (w.perform call).after.SeedsApart :=
  (w.kind_perform call).seedsApart (by rwa [before_perform])

theorem kept_perform (hseed : w.SeedsApart) (call : IdCall ι κ) (g : ι) (k : κ) :
    (w.perform call).after.kept g k = w.kept g k ∨
      (call = .identify g k false ∧ w.kept g k = none ∧
        (w.perform call).after.kept g k = some (.str (w.source g).draw.1)) := by
  have hkept := (w.kind_perform call).kept (by rwa [before_perform]) g k
  rwa [before_perform, call_perform] at hkept

theorem isObj_perform {k : κ} (hobj : (w.slot k).isObj) (call : IdCall ι κ) :
    ((w.perform call).after.slot k).isObj :=
  ((w.kind_perform call).slot k).isObj (by rwa [before_perform])

theorem extended_of_mem_run (he : e ∈ w.run calls) (k : κ) :
    (w.slot k).Extended w.IsExpando (e.before.slot k) ∧
      (e.before.slot k).Extended w.IsExpando (e.after.slot k) := by
  have hslot (f : IdEvent ι κ) (hf : f.Kind)
      (hseed : ∀ g, (f.before.source g).seed = (w.source g).seed) :
      (f.before.slot k).Extended w.IsExpando (f.after.slot k) :=
    isExpando_congr hseed ▸ hf.slot k
  have hinv := invariant_of_mem_run
    (P := fun v => (∀ g, (v.source g).seed = (w.source g).seed) ∧
      (w.slot k).Extended w.IsExpando (v.slot k))
    (fun f hf hbefore => ⟨fun g => (hf.seed g).trans (hbefore.1 g),
      hbefore.2.trans (hslot f hf hbefore.1)⟩) ⟨fun _ => rfl, .inl rfl⟩ he
  exact ⟨hinv.1.2, hslot e (kind_of_mem_run he) hinv.1.1⟩

theorem kept_of_mem_run (hseed : w.SeedsApart) {g : ι} {k : κ} {v : Value}
    (hkept : w.kept g k = some v) (he : e ∈ w.run calls) : e.before.kept g k = some v := by
  have hinv := invariant_of_mem_run (P := fun u => u.SeedsApart ∧ u.kept g k = some v)
    (fun f hf hbefore => ?_) ⟨hseed, hkept⟩ he
  · exact hinv.1.2
  · refine ⟨hf.seedsApart hbefore.1, ?_⟩
    rcases hf.kept hbefore.1 g k with hsame | ⟨-, hfree, -⟩
    · rw [hsame, hbefore.2]
    · rw [hbefore.2] at hfree
      cases hfree

theorem run_eq_cons {later : List (IdEvent ι κ)} (h : w.run calls = e :: later) :
    ∃ call rest, w.perform call = e ∧ e.after.run rest = later := by
  cases calls with
  | nil => cases h
  | cons call rest =>
    obtain ⟨rfl, hrest⟩ := List.cons.inj h
    exact ⟨call, rest, rfl, hrest⟩

theorem kept_before_of_split (hseed : w.SeedsApart) {g : ι} {k : κ} (hfree : w.kept g k = none)
    {earlier later : List (IdEvent ι κ)} (hsplit : w.run calls = earlier ++ e :: later)
    (hearlier : ∀ p ∈ earlier, p.call ≠ .identify g k false) : e.before.kept g k = none := by
  induction earlier generalizing w calls with
  | nil =>
    obtain ⟨call, rest, rfl, -⟩ := run_eq_cons hsplit
    rwa [before_perform]
  | cons p earlier ih =>
    obtain ⟨call, rest, rfl, hrest⟩ := run_eq_cons hsplit
    refine ih (seedsApart_perform hseed call) ?_ hrest
      fun q hq => hearlier q (List.mem_cons_of_mem _ hq)
    rcases kept_perform hseed call g k with hsame | ⟨hcall, -⟩
    · rw [hsame, hfree]
    · exact absurd ((w.call_perform call).trans hcall) (hearlier _ List.mem_cons_self)

theorem later_of_split {earlier later : List (IdEvent ι κ)}
    (hsplit : w.run calls = earlier ++ e :: later) : ∃ rest, later = e.after.run rest := by
  induction earlier generalizing w calls with
  | nil =>
    obtain ⟨call, rest, rfl, hrest⟩ := run_eq_cons hsplit
    exact ⟨rest, hrest.symm⟩
  | cons p earlier ih =>
    obtain ⟨call, rest, rfl, hrest⟩ := run_eq_cons hsplit
    exact ih hrest

/-- What a slot answers was drawn for it by an earlier call, or by the same one. -/
theorem exists_origin (hseed : w.SeedsApart) {g : ι} {k : κ} (hfree : w.kept g k = none)
    (hobj : (w.slot k).isObj) {onlyGet : Bool} {id : String} (he : e ∈ w.run calls)
    (hcall : e.call = .identify g k onlyGet) (hanswer : e.answer = some id) :
    ∃ p ∈ w.run calls, p.call = .identify g k false ∧ p.draws g = true ∧ p.answer = some id := by
  induction calls generalizing w with
  | nil => cases he
  | cons call rest ih =>
    have hkind := w.kind_perform call
    by_cases hgiven : call = .identify g k false
    · have hfirst := hkind.of_free ((w.call_perform call).trans hgiven)
        (by rwa [before_perform]) (by rwa [before_perform])
      obtain ⟨hfalse, -⟩ | ⟨-, hdraws, -, hdrawn, hkept⟩ := hfirst
      · cases hfalse
      refine ⟨w.perform call, List.mem_cons_self, (w.call_perform call).trans hgiven, hdraws, ?_⟩
      rcases List.mem_cons.mp he with rfl | he
      · exact hanswer
      · have hbefore := kept_of_mem_run (seedsApart_perform hseed call) hkept he
        rw [hdrawn, ← ((kind_of_mem_run he).of_kept hcall hbefore).1, hanswer]
    · have hfree' : (w.perform call).after.kept g k = none := by
        rcases kept_perform hseed call g k with hsame | ⟨hcall, -⟩
        · rw [hsame, hfree]
        · exact absurd hcall hgiven
      rcases List.mem_cons.mp he with rfl | he
      · rcases hkind.of_free hcall (by rwa [before_perform]) (by rwa [before_perform]) with
          ⟨-, hnone, -⟩ | ⟨rfl, -⟩
        · rw [hanswer] at hnone
          cases hnone
        · exact absurd ((w.call_perform call).symm.trans hcall) hgiven
      · obtain ⟨p, hp, horigin⟩ := ih (seedsApart_perform hseed call) hfree'
          (isObj_perform hobj call) he
        exact ⟨p, List.mem_cons_of_mem _ hp, horigin⟩

theorem map_answer_draws (w : IdState ι κ) (calls : List (IdCall ι κ)) (g : ι) :
    ((w.run calls).filter (IdEvent.draws g)).map IdEvent.answer =
      (List.range ((w.run calls).filter (IdEvent.draws g)).length).map
        fun j => some ((w.source g).nth j) := by
  induction calls generalizing w with
  | nil => rfl
  | cons call rest ih =>
    have hrest := ih (w.perform call).after
    rw [run, List.filter_cons]
    have hsource := (w.kind_perform call).source g
    rw [before_perform] at hsource
    rcases hsource with ⟨hdraws, hafter⟩ | ⟨hdraws, hafter, hanswer⟩
    · rw [hdraws, if_neg Bool.false_ne_true]
      rwa [hafter] at hrest
    · rw [hdraws, if_pos rfl, List.map_cons, List.length_cons, List.range_succ_eq_map,
        List.map_cons, List.map_map, hanswer, hrest, hafter, IdSource.nth_zero]
      simp only [IdSource.nth_draw, Function.comp_def]

theorem nodup_answer_draws {g : ι}
    (hdraws : ((w.run calls).filter (IdEvent.draws g)).length < 2 ^ 64) :
    (((w.run calls).filter (IdEvent.draws g)).map IdEvent.answer).Nodup := by
  rw [map_answer_draws]
  refine List.Nodup.map_on ?_ List.nodup_range
  intro i hi j hj h
  rw [List.mem_range] at hi hj
  exact (w.source g).nth_inj (by omega) (by omega) (Option.some.inj h)

/-- Each source draws no identifier twice. An object keeps none for a source until it is identified
by it, and the same one from then on, which no other object is given by that source. Whatever else
a value has stays where it is. -/
theorem run_identify_stable (w : IdState ι κ) (calls : List (IdCall ι κ)) (hseed : w.SeedsApart)
    (hfree : ∀ g k, w.kept g k = none)
    (hdraws : ∀ g, ((w.run calls).filter (IdEvent.draws g)).length < 2 ^ 64) :
    (∀ g, (((w.run calls).filter (IdEvent.draws g)).map IdEvent.answer).Nodup) ∧
      (∀ g, ∀ e ∈ w.run calls, e.draws g → e.answer = some (e.before.source g).draw.1) ∧
      (∀ g k onlyGet (earlier : List (IdEvent ι κ)) (e : IdEvent ι κ) later,
        w.run calls = earlier ++ e :: later → (w.slot k).isObj →
        e.call = .identify g k onlyGet → (∀ p ∈ earlier, p.call ≠ .identify g k false) →
        (onlyGet = true ∧ e.answer = none ∧ e.after = e.before) ∨
          (onlyGet = false ∧ ∃ id, e.answer = some id ∧
            e.after.source g = (e.before.source g).draw.2 ∧
            e.after.kept g k = some (.str id) ∧
            ∀ f ∈ later, ∀ b, f.call = .identify g k b → f.answer = some id ∧ f.after = f.before)) ∧
      (∀ g k l, k ≠ l → (w.slot k).isObj → (w.slot l).isObj →
        ∀ e ∈ w.run calls, ∀ f ∈ w.run calls, ∀ b b' id, e.call = .identify g k b →
        f.call = .identify g l b' → e.answer = some id → f.answer ≠ some id) ∧
      ∀ e ∈ w.run calls, ∀ k, (w.slot k).Extended w.IsExpando (e.before.slot k) ∧
        (e.before.slot k).Extended w.IsExpando (e.after.slot k) := by
  refine ⟨fun g => nodup_answer_draws (hdraws g), ?_, ?_, ?_, fun e he => extended_of_mem_run he⟩
  · intro g e he hdrew
    rcases (kind_of_mem_run he).source g with ⟨hnot, -⟩ | ⟨-, -, hanswer⟩
    · rw [hdrew] at hnot
      cases hnot
    · exact hanswer
  · intro g k onlyGet earlier e later hsplit hobj hcall hearlier
    have he : e ∈ w.run calls := by simp [hsplit]
    have hapart := invariant_of_mem_run (P := SeedsApart) (fun f hf => hf.seedsApart) hseed he
    have hbefore : e.before.kept g k = none :=
      kept_before_of_split hseed (hfree g k) hsplit hearlier
    have hobj' := (extended_of_mem_run he k).1.isObj hobj
    rcases (kind_of_mem_run he).of_free hcall hobj' hbefore with
      hget | ⟨honly, -, hsource, hanswer, hkept⟩
    · exact .inl hget
    · refine .inr ⟨honly, _, hanswer, hsource, hkept, fun f hf b hfcall => ?_⟩
      obtain ⟨rest, rfl⟩ := later_of_split hsplit
      exact (kind_of_mem_run hf).of_kept hfcall (kept_of_mem_run hapart.2 hkept hf)
  · intro g k l hkl hk hl e he f hf b b' id hecall hfcall heanswer hfanswer
    obtain ⟨p, hp, hpcall, hpdraws, hpanswer⟩ :=
      exists_origin hseed (hfree g k) hk he hecall heanswer
    obtain ⟨q, hq, hqcall, hqdraws, hqanswer⟩ :=
      exists_origin hseed (hfree g l) hl hf hfcall hfanswer
    have hpq : p = q := List.inj_on_of_nodup_map (nodup_answer_draws (hdraws g))
      (List.mem_filter.mpr ⟨hp, hpdraws⟩) (List.mem_filter.mpr ⟨hq, hqdraws⟩)
      (hpanswer.trans hqanswer.symm)
    rw [← hpq, hpcall] at hqcall
    cases hqcall
    exact hkl rfl

/-- Two sources whose identifiers could run together, an object each, and a value that is none. -/
def shelf : IdState Bool (Fin 3) where
  source g := ⟨if g then 11 else 1, 0⟩
  slot k := if k = 2 then .null else .obj [("block", .str "b")]

def shelfCalls : List (IdCall Bool (Fin 3)) :=
  [.identify false 0 true, .identify false 0 false, .identify true 0 false, .identify false 2 false,
    .draw true, .identify false 1 false, .identify false 0 true]

theorem run_shelf_stable :
    (shelf.SeedsApart ∧ (∀ g k, shelf.kept g k = none) ∧
      ∀ g, ((shelf.run shelfCalls).filter (IdEvent.draws g)).length < 2 ^ 64) ∧
      (shelf.run shelfCalls).map IdEvent.answer =
        [none, some "uniq11", some "uniq111", some "uniq12", some "uniq112", some "uniq13",
          some "uniq11"] ∧
      ∀ g, (((shelf.run shelfCalls).filter (IdEvent.draws g)).map IdEvent.answer).Nodup := by
  have hseed : shelf.SeedsApart := by
    rw [SeedsApart, Function.Injective]
    decide
  have hfree : ∀ g k, shelf.kept g k = none := by decide
  have hdraws : ∀ g, ((shelf.run shelfCalls).filter (IdEvent.draws g)).length < 2 ^ 64 := by decide
  have hnodup := (run_identify_stable shelf shelfCalls hseed hfree hdraws).1
  exact ⟨⟨hseed, hfree, hdraws⟩, by decide, hnodup⟩

end IdState

end BemRules
