import BemRules.Ident
import Mathlib.Algebra.Group.Nat.Defs
import Mathlib.Logic.Function.Basic

namespace Nat

theorem toString_inj {m n : Nat} : toString m = toString n ↔ m = n := by
  constructor
  · intro h
    have hdigits : Nat.toDigits 10 m = Nat.toDigits 10 n := by
      rw [← Nat.toList_repr, ← Nat.toList_repr]
      exact congrArg String.toList h
    rw [← Nat.ofDigitChars_ten_toDigits (n := m), hdigits, Nat.ofDigitChars_ten_toDigits]
  · rintro rfl
    rfl

end Nat

namespace BemRules

structure IdState (ι κ : Type) where
  source : ι → IdSource
  slot : κ → Value

inductive IdCall (ι κ : Type) where
  | draw (g : ι)
  | identify (g : ι) (k : κ) (onlyGet : Bool)
deriving DecidableEq

structure IdEvent (ι κ : Type) where
  call : IdCall ι κ
  before : IdState ι κ
  answer : Option String
  after : IdState ι κ

def IdEvent.draws {ι κ : Type} (g : ι) (e : IdEvent ι κ) : Bool :=
  e.after.source g != e.before.source g

namespace IdSource

@[simp] theorem seed_draw (g : IdSource) : g.draw.2.seed = g.seed := rfl

theorem draw_ne (g : IdSource) : g.draw.2 ≠ g := by
  intro h
  have hcount : g.count + 1 = g.count := congrArg IdSource.count h
  simp at hcount

theorem expando_inj {g h : IdSource} : g.expando = h.expando ↔ g.seed = h.seed := by
  rw [expando, expando, String.append_right_inj]
  exact Nat.toString_inj

variable {fields : Object}

theorem identify_of_not_obj (g : IdSource) {v : Value} (hv : v.isObj = false) (onlyGet : Bool) :
    g.identify v onlyGet = (some g.draw.1, v, g.draw.2) := by
  cases v with
  | obj fields => cases hv
  | _ => rfl

theorem identify_of_kept (g : IdSource) {v : Value} (h : Fields.get? fields g.expando = some v)
    (onlyGet : Bool) : g.identify (.obj fields) onlyGet = (v.asStr?, .obj fields, g) := by
  simp only [identify, h]

theorem identify_of_free_onlyGet (g : IdSource) (h : Fields.get? fields g.expando = none) :
    g.identify (.obj fields) true = (none, .obj fields, g) := by
  simp only [identify, h, if_true]

theorem identify_of_free (g : IdSource) (h : Fields.get? fields g.expando = none) :
    g.identify (.obj fields) false =
      (some g.draw.1, .obj (fields ++ [(g.expando, .str g.draw.1)]), g.draw.2) := by
  simp only [identify, h, Fields.insert_of_get?_none h]
  rfl

/-- The identifier that is drawn after `j` others. -/
def nth (g : IdSource) (j : Nat) : String :=
  g.stem ++ toString ((g.count.toNat + (j + 1)) % 2 ^ 64)

theorem nth_zero (g : IdSource) : g.nth 0 = g.draw.1 := by
  simp [nth, draw, UInt64.toNat_add]

theorem nth_draw (g : IdSource) (j : Nat) : g.draw.2.nth j = g.nth (j + 1) := by
  have hcount : g.draw.2.count.toNat = (g.count.toNat + 1) % 2 ^ 64 := UInt64.toNat_add g.count 1
  have hmod : ((g.count.toNat + 1) % 2 ^ 64 + (j + 1)) % 2 ^ 64 =
      (g.count.toNat + (j + 1 + 1)) % 2 ^ 64 := by omega
  rw [nth, nth, hcount, hmod]
  rfl

theorem nth_inj (g : IdSource) {i j : Nat} (hi : i < 2 ^ 64) (hj : j < 2 ^ 64)
    (h : g.nth i = g.nth j) : i = j := by
  rw [nth, nth, String.append_right_inj] at h
  have hmod := Nat.toString_inj.mp h
  omega

end IdSource

namespace IdState

variable {ι κ : Type}

def kept (w : IdState ι κ) (g : ι) (k : κ) : Option Value :=
  Value.entry? (w.slot k) (w.source g).expando

/-- The sources keep their identifiers under different keys. -/
def SeedsApart (w : IdState ι κ) : Prop := Function.Injective fun g => (w.source g).seed

def IsExpando (w : IdState ι κ) (key : String) : Prop := ∃ g, key = (w.source g).expando

theorem isExpando_congr {u w : IdState ι κ} (h : ∀ g, (u.source g).seed = (w.source g).seed) :
    u.IsExpando = w.IsExpando := by
  funext key
  simp only [IsExpando, IdSource.expando_inj.mpr (h _)]

theorem kept_of_not_obj {w : IdState ι κ} {k : κ} (h : (w.slot k).isObj = false) (g : ι) :
    w.kept g k = none := by
  rw [kept]
  cases hslot : w.slot k with
  | obj fields => simp [hslot, Value.isObj] at h
  | _ => rfl

variable [DecidableEq ι]

def drawn (w : IdState ι κ) (g : ι) : IdState ι κ :=
  { w with source := Function.update w.source g (w.source g).draw.2 }

section

variable (w : IdState ι κ)

theorem source_drawn (g h : ι) :
    (w.drawn g).source h = if h = g then (w.source g).draw.2 else w.source h :=
  Function.update_apply w.source g _ h

theorem seed_drawn (g h : ι) : ((w.drawn g).source h).seed = (w.source h).seed := by
  rw [source_drawn]
  split
  · next heq => rw [heq, IdSource.seed_draw]
  · rfl

theorem kept_drawn (g h : ι) (k : κ) : (w.drawn g).kept h k = w.kept h k := by
  rw [kept, kept, IdSource.expando, seed_drawn]
  rfl

end

variable [DecidableEq κ]

def assigned (w : IdState ι κ) (g : ι) (k : κ) (fields : Object) : IdState ι κ :=
  { w.drawn g with
    slot := Function.update w.slot k
      (.obj (fields ++ [((w.source g).expando, .str (w.source g).draw.1)])) }

def perform (w : IdState ι κ) : IdCall ι κ → IdEvent ι κ
  | .draw g =>
    let (id, source) := (w.source g).draw
    ⟨.draw g, w, some id, { w with source := Function.update w.source g source }⟩
  | .identify g k onlyGet =>
    let (id, v, source) := (w.source g).identify (w.slot k) onlyGet
    ⟨.identify g k onlyGet, w, id,
      ⟨Function.update w.source g source, Function.update w.slot k v⟩⟩

def run (w : IdState ι κ) : List (IdCall ι κ) → List (IdEvent ι κ)
  | [] => []
  | call :: rest =>
    let e := w.perform call
    e :: e.after.run rest

end IdState

namespace IdEvent

variable {ι κ : Type} [DecidableEq ι] [DecidableEq κ]

inductive Kind (e : IdEvent ι κ) : Prop where
  | drawn (g : ι)
      (call : e.call = .draw g ∨
        ∃ k onlyGet, e.call = .identify g k onlyGet ∧ (e.before.slot k).isObj = false)
      (answer : e.answer = some (e.before.source g).draw.1)
      (after : e.after = e.before.drawn g)
  | assigned (g : ι) (k : κ) (fields : Object) (call : e.call = .identify g k false)
      (slot : e.before.slot k = .obj fields) (free : e.before.kept g k = none)
      (answer : e.answer = some (e.before.source g).draw.1)
      (after : e.after = e.before.assigned g k fields)
  | found (g : ι) (k : κ) (onlyGet : Bool) (v : Value) (call : e.call = .identify g k onlyGet)
      (kept : e.before.kept g k = some v) (answer : e.answer = v.asStr?)
      (after : e.after = e.before)
  | missed (g : ι) (k : κ) (call : e.call = .identify g k true)
      (free : e.before.kept g k = none) (answer : e.answer = none) (after : e.after = e.before)

end IdEvent

namespace IdState

variable {ι κ : Type} [DecidableEq ι] [DecidableEq κ] (w : IdState ι κ)

theorem perform_identify {g : ι} {k : κ} {onlyGet : Bool} {id : Option String} {v : Value}
    {source : IdSource} (h : (w.source g).identify (w.slot k) onlyGet = (id, v, source)) :
    w.perform (.identify g k onlyGet) = ⟨.identify g k onlyGet, w, id,
      ⟨Function.update w.source g source, Function.update w.slot k v⟩⟩ := by
  rw [perform, h]

theorem perform_identify_same {g : ι} {k : κ} {onlyGet : Bool} {id : Option String}
    (h : (w.source g).identify (w.slot k) onlyGet = (id, w.slot k, w.source g)) :
    w.perform (.identify g k onlyGet) = ⟨.identify g k onlyGet, w, id, w⟩ := by
  rw [w.perform_identify h, Function.update_eq_self, Function.update_eq_self]

theorem kind_perform_identify (g : ι) (k : κ) (onlyGet : Bool) :
    (w.perform (.identify g k onlyGet)).Kind := by
  cases hobj : (w.slot k).isObj with
  | false =>
    rw [w.perform_identify ((w.source g).identify_of_not_obj hobj onlyGet), Function.update_eq_self]
    exact .drawn g (.inr ⟨k, onlyGet, rfl, hobj⟩) rfl rfl
  | true =>
    obtain ⟨fields, hslot⟩ := Value.exists_of_isObj hobj
    have hkept : w.kept g k = Fields.get? fields (w.source g).expando := by rw [kept, hslot]; rfl
    cases hget : Fields.get? fields (w.source g).expando with
    | some v =>
      rw [w.perform_identify_same (hslot ▸ (w.source g).identify_of_kept hget onlyGet)]
      exact .found g k onlyGet v rfl (hkept.trans hget) rfl rfl
    | none =>
      cases onlyGet with
      | true =>
        rw [w.perform_identify_same (hslot ▸ (w.source g).identify_of_free_onlyGet hget)]
        exact .missed g k rfl (hkept.trans hget) rfl rfl
      | false =>
        rw [w.perform_identify (hslot ▸ (w.source g).identify_of_free hget)]
        exact .assigned g k fields rfl hslot (hkept.trans hget) rfl rfl

theorem kind_perform (call : IdCall ι κ) : (w.perform call).Kind := by
  cases call with
  | draw g => exact .drawn g (.inl rfl) rfl rfl
  | identify g k onlyGet => exact w.kind_perform_identify g k onlyGet

@[simp] theorem before_perform (call : IdCall ι κ) : (w.perform call).before = w := by
  cases call <;> rfl

@[simp] theorem call_perform (call : IdCall ι κ) : (w.perform call).call = call := by
  cases call <;> rfl

theorem slot_assigned_self (g : ι) (k : κ) (fields : Object) :
    (w.assigned g k fields).slot k =
      .obj (fields ++ [((w.source g).expando, .str (w.source g).draw.1)]) :=
  Function.update_self k _ _

theorem slot_assigned_of_ne {k l : κ} (hl : l ≠ k) (g : ι) (fields : Object) :
    (w.assigned g k fields).slot l = w.slot l :=
  Function.update_of_ne hl _ _

theorem kept_assigned_self {g : ι} {k : κ} {fields : Object} (hslot : w.slot k = .obj fields)
    (hfree : w.kept g k = none) (h : ι) :
    (w.assigned g k fields).kept h k =
      if (w.source g).expando = (w.source h).expando then some (.str (w.source g).draw.1)
      else w.kept h k := by
  have hexpando : ((w.assigned g k fields).source h).expando = (w.source h).expando :=
    IdSource.expando_inj.mpr (w.seed_drawn g h)
  rw [kept, hslot] at hfree
  rw [kept, kept, hexpando, hslot, slot_assigned_self, ← Fields.insert_of_get?_none hfree]
  exact Fields.get?_insert fields _ _ _

theorem kept_assigned_of_ne {g : ι} {k l : κ} (fields : Object) (hl : l ≠ k) (h : ι) :
    (w.assigned g k fields).kept h l = w.kept h l := by
  rw [← w.kept_drawn g h l, kept, kept, w.slot_assigned_of_ne hl]
  rfl

end IdState

/-- The same value, or the same object with entries behind its own, under such keys. -/
def Value.Extended (isKey : String → Prop) (v v' : Value) : Prop :=
  v' = v ∨ ∃ fields added, v = .obj fields ∧ v' = .obj (fields ++ added) ∧ ∀ a ∈ added, isKey a.1

namespace IdEvent

variable {ι κ : Type} [DecidableEq ι] [DecidableEq κ] {e : IdEvent ι κ}

theorem Kind.source (he : e.Kind) (g : ι) :
    (e.draws g = false ∧ e.after.source g = e.before.source g) ∨
      (e.draws g = true ∧ e.after.source g = (e.before.source g).draw.2 ∧
        e.answer = some (e.before.source g).draw.1) := by
  have hunchanged (hafter : e.after = e.before) :
      e.draws g = false ∧ e.after.source g = e.before.source g := by
    simp [draws, hafter]
  have hdrawn (h : ι) (hsource : e.after.source = (e.before.drawn h).source)
      (hanswer : e.answer = some (e.before.source h).draw.1) :
      (e.draws g = false ∧ e.after.source g = e.before.source g) ∨
        (e.draws g = true ∧ e.after.source g = (e.before.source g).draw.2 ∧
          e.answer = some (e.before.source g).draw.1) := by
    have hg : e.after.source g = _ := (congrFun hsource g).trans (e.before.source_drawn h g)
    by_cases hgh : g = h
    · subst hgh
      rw [if_pos rfl] at hg
      exact .inr ⟨by simpa [draws, hg] using (e.before.source g).draw_ne, hg, hanswer⟩
    · rw [if_neg hgh] at hg
      exact .inl ⟨by simp [draws, hg], hg⟩
  cases he with
  | drawn h call answer after => exact hdrawn h (by rw [after]) answer
  | assigned h k fields call slot free answer after => exact hdrawn h (by rw [after]; rfl) answer
  | found h k onlyGet v call kept answer after => exact .inl (hunchanged after)
  | missed h k call free answer after => exact .inl (hunchanged after)

theorem Kind.seed (he : e.Kind) (g : ι) : (e.after.source g).seed = (e.before.source g).seed := by
  rcases he.source g with ⟨-, hsource⟩ | ⟨-, hsource, -⟩
  · rw [hsource]
  · rw [hsource, IdSource.seed_draw]

theorem Kind.seedsApart (he : e.Kind) (h : e.before.SeedsApart) : e.after.SeedsApart := by
  have hseed : (fun g => (e.after.source g).seed) = fun g => (e.before.source g).seed :=
    funext he.seed
  rw [IdState.SeedsApart, hseed]
  exact h

/-- What a slot keeps for a source changes once, by an identifier that the source draws for it. -/
theorem Kind.kept (he : e.Kind) (hseed : e.before.SeedsApart) (g : ι) (k : κ) :
    e.after.kept g k = e.before.kept g k ∨
      (e.call = .identify g k false ∧ e.before.kept g k = none ∧
        e.after.kept g k = some (.str (e.before.source g).draw.1)) := by
  cases he with
  | drawn h call answer after => exact .inl (by rw [after, IdState.kept_drawn])
  | assigned h l fields call slot free answer after =>
    by_cases hkl : k = l
    · subst hkl
      rw [after, e.before.kept_assigned_self slot free g]
      by_cases hgh : g = h
      · subst hgh
        exact .inr ⟨call, free, by rw [if_pos rfl]⟩
      · refine .inl (if_neg fun hexpando => hgh ?_)
        exact (hseed (IdSource.expando_inj.mp hexpando)).symm
    · exact .inl (by rw [after, e.before.kept_assigned_of_ne fields hkl])
  | found h l onlyGet v call kept answer after => exact .inl (by rw [after])
  | missed h l call free answer after => exact .inl (by rw [after])

theorem Kind.slot (he : e.Kind) (k : κ) :
    (e.before.slot k).Extended e.before.IsExpando (e.after.slot k) := by
  cases he with
  | drawn h call answer after => exact .inl (by rw [after]; rfl)
  | assigned h l fields call slot free answer after =>
    by_cases hkl : k = l
    · subst hkl
      refine .inr ⟨fields, [((e.before.source h).expando, .str (e.before.source h).draw.1)], slot,
        ?_, ?_⟩
      · rw [after, IdState.slot_assigned_self]
      · intro a ha
        exact ⟨h, congrArg Prod.fst (List.mem_singleton.mp ha)⟩
    · exact .inl (by rw [after, e.before.slot_assigned_of_ne hkl])
  | found h l onlyGet v call kept answer after => exact .inl (by rw [after])
  | missed h l call free answer after => exact .inl (by rw [after])

theorem Kind.of_kept (he : e.Kind) {g : ι} {k : κ} {onlyGet : Bool} {id : String}
    (hcall : e.call = .identify g k onlyGet) (hkept : e.before.kept g k = some (.str id)) :
    e.answer = some id ∧ e.after = e.before := by
  cases he with
  | drawn h call answer after =>
    rw [hcall] at call
    rcases call with call | ⟨l, onlyGet, call, hobj⟩
    · cases call
    · cases call
      rw [IdState.kept_of_not_obj hobj] at hkept
      cases hkept
  | assigned h l fields call slot free answer after =>
    cases hcall.symm.trans call
    rw [hkept] at free
    cases free
  | found h l onlyGet v call kept answer after =>
    cases hcall.symm.trans call
    cases hkept.symm.trans kept
    exact ⟨answer, after⟩
  | missed h l call free answer after =>
    cases hcall.symm.trans call
    rw [hkept] at free
    cases free

theorem Kind.of_free (he : e.Kind) {g : ι} {k : κ} {onlyGet : Bool}
    (hcall : e.call = .identify g k onlyGet) (hobj : (e.before.slot k).isObj)
    (hfree : e.before.kept g k = none) :
    (onlyGet = true ∧ e.answer = none ∧ e.after = e.before) ∨
      (onlyGet = false ∧ e.draws g = true ∧ e.after.source g = (e.before.source g).draw.2 ∧
        e.answer = some (e.before.source g).draw.1 ∧
        e.after.kept g k = some (.str (e.before.source g).draw.1)) := by
  cases he with
  | drawn h call answer after =>
    rw [hcall] at call
    rcases call with call | ⟨l, onlyGet, call, hnot⟩
    · cases call
    · cases call
      rw [hobj] at hnot
      cases hnot
  | assigned h l fields call slot free answer after =>
    cases hcall.symm.trans call
    have hsource : e.after.source g = (e.before.source g).draw.2 := by
      rw [after]
      exact (e.before.source_drawn g g).trans (if_pos rfl)
    refine .inr ⟨rfl, ?_, hsource, answer, ?_⟩
    · simpa [draws, hsource] using (e.before.source g).draw_ne
    · rw [after, e.before.kept_assigned_self slot free, if_pos rfl]
  | found h l onlyGet v call kept answer after =>
    cases hcall.symm.trans call
    rw [hfree] at kept
    cases kept
  | missed h l call free answer after =>
    cases hcall.symm.trans call
    exact .inl ⟨rfl, answer, after⟩

end IdEvent

end BemRules
