import BemRules.Proofs.Options.Merge
import BemRules.Script.Run

namespace BemRules

inductive Setting where
  | escapeContent
  | elem
  | modName
  | modVal
deriving DecidableEq, Repr

namespace Setting

def key : Setting → String
  | .escapeContent => "escapeContent"
  | .elem => "naming"
  | .modName => "naming"
  | .modVal => "naming"

def readText (v : Value) : Option Value := v.asStr?.map .str

/-- One text is for both modifier separators, an object has each under its own name. -/
def readModifier (name : String) : Value → Option Value
  | .str s => some (.str s)
  | .obj delims => (Fields.get? delims name).bind readText
  | _ => none

def read : Setting → Value → Option Value
  | .escapeContent, v => v.asBool?.map .bool
  | .elem, v => (v.entry? "elem").bind readText
  | .modName, v => (v.entry? "mod").bind (readModifier "name")
  | .modVal, v => (v.entry? "mod").bind (readModifier "val")

/-- The value that overrides validly give the setting. -/
def given (s : Setting) (overrides : Object) : Option Value :=
  (Fields.get? overrides s.key).bind s.read

end Setting

namespace Options

def value (o : Options) : Setting → Value
  | .escapeContent => .bool o.escapeContent
  | .elem => .str o.naming.elem
  | .modName => .str o.naming.modName
  | .modVal => .str o.naming.modVal

theorem eq_of_value {o p : Options} (h : ∀ s, o.value s = p.value s) : o = p := by
  have hescape := h .escapeContent
  have helem := h .elem
  have hname := h .modName
  have hval := h .modVal
  obtain ⟨escape, ⟨elem, name, val⟩⟩ := o
  obtain ⟨escape', ⟨elem', name', val'⟩⟩ := p
  simp only [value, Value.bool.injEq, Value.str.injEq] at hescape helem hname hval
  rw [hescape, helem, hname, hval]

theorem str_getD_asStr? (v : Option Value) (text : String) :
    Value.str ((v.bind Value.asStr?).getD text) = (v.bind Setting.readText).getD (.str text) := by
  cases v with
  | none => rfl
  | some v => cases v <;> rfl

theorem elem_overrideModifiers (n : Naming) (v : Option Value) :
    (overrideModifiers n v).elem = n.elem := by
  rcases v with _ | ⟨_ | b | m | s | items | delims⟩ <;> rfl

theorem modName_overrideModifiers (n : Naming) (v : Option Value) :
    Value.str (overrideModifiers n v).modName =
      (v.bind (Setting.readModifier "name")).getD (.str n.modName) := by
  rcases v with _ | ⟨_ | b | m | s | items | delims⟩ <;> try rfl
  exact str_getD_asStr? (Fields.get? delims "name") n.modName

theorem modVal_overrideModifiers (n : Naming) (v : Option Value) :
    Value.str (overrideModifiers n v).modVal =
      (v.bind (Setting.readModifier "val")).getD (.str n.modVal) := by
  rcases v with _ | ⟨_ | b | m | s | items | delims⟩ <;> try rfl
  exact str_getD_asStr? (Fields.get? delims "val") n.modVal

theorem value_overrideNaming (o : Options) (escape : Bool) (settings : Object) {s : Setting}
    (hs : s.key = "naming") :
    value ⟨escape, overrideNaming o.naming settings⟩ s =
      (s.read (.obj settings)).getD (o.value s) := by
  cases s with
  | escapeContent => exact absurd hs (by decide)
  | elem =>
    exact (congrArg Value.str (elem_overrideModifiers _ _)).trans
      (str_getD_asStr? (Fields.get? settings "elem") o.naming.elem)
  | modName => exact modName_overrideModifiers _ (Fields.get? settings "mod")
  | modVal => exact modVal_overrideModifiers _ (Fields.get? settings "mod")

theorem value_applyOverrides (o : Options) (overrides : Object) (s : Setting) :
    (o.applyOverrides overrides).value s = (s.given overrides).getD (o.value s) := by
  cases s with
  | escapeContent =>
    simp only [applyOverrides, value, Setting.given, Setting.key]
    rcases Fields.get? overrides "escapeContent" with _ | v
    · rfl
    · cases v <;> rfl
  | elem | modName | modVal =>
    simp only [applyOverrides, Setting.given, Setting.key]
    rcases Fields.get? overrides "naming" with _ | ⟨_ | b | m | s | items | settings⟩ <;> try rfl
    exact value_overrideNaming o _ settings rfl

theorem value_foldl_applyOverrides (o : Options) (ms : List Object) (s : Setting) :
    (ms.foldl applyOverrides o).value s = (ms.reverse.findSome? s.given).getD (o.value s) := by
  induction ms generalizing o with
  | nil => rfl
  | cons m rest ih =>
    rw [List.foldl_cons, ih, value_applyOverrides, List.reverse_cons, List.findSome?_append,
      List.findSome?_singleton]
    cases rest.reverse.findSome? s.given <;> rfl

end Options

namespace Setting

structure LastEntry (s : Setting) (ms earlier : List Object) (m : Object) : Prop where
  entry : Fields.get? m s.key ≠ none
  split : ∃ later, ms = earlier ++ m :: later ∧ ∀ n ∈ later, Fields.get? n s.key = none

/-- The last entry under the key leaves alone the setting, though earlier overrides give it. -/
def Dropped (s : Setting) (ms : List Object) : Prop :=
  ∃ earlier m, s.LastEntry ms earlier m ∧ s.given m = none ∧ ∃ n ∈ earlier, s.given n ≠ none

variable {s : Setting} {ms earlier : List Object} {m : Object}

theorem given_eq_none_of_get? (h : Fields.get? m s.key = none) : s.given m = none := by
  rw [given, h]
  rfl

theorem LastEntry.of_given {later : List Object} {v : Value} (hm : s.given m = some v)
    (hlater : ∀ n ∈ later, Fields.get? n s.key = none) :
    s.LastEntry (earlier ++ m :: later) earlier m := by
  refine ⟨fun hnone => ?_, later, rfl, hlater⟩
  rw [given_eq_none_of_get? hnone] at hm
  cases hm

def lastRead (s : Setting) (ms : List Object) : Option Value :=
  (ms.reverse.findSome? fun m => Fields.get? m s.key).bind s.read

def lastGiven (s : Setting) (ms : List Object) : Option Value := ms.reverse.findSome? s.given

theorem LastEntry.lastRead_eq (h : s.LastEntry ms earlier m) : s.lastRead ms = s.given m := by
  obtain ⟨later, rfl, hlater⟩ := h.split
  obtain ⟨v, hv⟩ := Option.ne_none_iff_exists'.mp h.entry
  have hnone : (later.reverse.findSome? fun n => Fields.get? n s.key) = none :=
    List.findSome?_eq_none_iff.mpr fun n hn => hlater n (List.mem_reverse.mp hn)
  rw [lastRead, given, List.reverse_append, List.reverse_cons, List.findSome?_append,
    List.findSome?_append, hnone, List.findSome?_singleton, hv]
  rfl

theorem LastEntry.lastGiven_eq (h : s.LastEntry ms earlier m) :
    s.lastGiven ms = (s.given m).or (s.lastGiven earlier) := by
  obtain ⟨later, rfl, hlater⟩ := h.split
  have hnone : later.reverse.findSome? s.given = none := List.findSome?_eq_none_iff.mpr
    fun n hn => given_eq_none_of_get? (hlater n (List.mem_reverse.mp hn))
  rw [lastGiven, List.reverse_append, List.reverse_cons, List.findSome?_append,
    List.findSome?_append, hnone, List.findSome?_singleton, Option.none_or]
  rfl

theorem lastGiven_eq_none_iff : s.lastGiven ms = none ↔ ∀ n ∈ ms, s.given n = none := by
  simp [lastGiven, List.findSome?_eq_none_iff]

theorem exists_lastEntry (s : Setting) (ms : List Object) :
    (∀ m ∈ ms, Fields.get? m s.key = none) ∨ ∃ earlier m, s.LastEntry ms earlier m := by
  cases hlast : ms.reverse.findSome? fun m => Fields.get? m s.key with
  | none => exact .inl fun m hm => List.findSome?_eq_none_iff.mp hlast m (List.mem_reverse.mpr hm)
  | some v =>
    obtain ⟨earlier, m, later, hsplit, hm, hlater⟩ :=
      List.findSome?_reverse_eq_some_iff_last.mp hlast
    exact .inr ⟨earlier, m, by simp [hm], later, hsplit, hlater⟩

theorem lastRead_eq_of_not_dropped (h : ¬ s.Dropped ms) : s.lastRead ms = s.lastGiven ms := by
  rcases s.exists_lastEntry ms with hnone | ⟨earlier, m, hlast⟩
  · have hread : (ms.reverse.findSome? fun m => Fields.get? m s.key) = none :=
      List.findSome?_eq_none_iff.mpr fun m hm => hnone m (List.mem_reverse.mp hm)
    rw [lastRead, hread, lastGiven_eq_none_iff.mpr fun m hm => given_eq_none_of_get? (hnone m hm)]
    rfl
  · rw [hlast.lastRead_eq, hlast.lastGiven_eq]
    cases hm : s.given m with
    | some v => rfl
    | none =>
      have hearlier : s.lastGiven earlier = none := lastGiven_eq_none_iff.mpr fun n hn =>
        Decidable.byContradiction fun hne => h ⟨earlier, m, hlast, hm, n, hn, hne⟩
      rw [hearlier]
      rfl

theorem Dropped.lastRead_eq (h : s.Dropped ms) : s.lastRead ms = none := by
  obtain ⟨earlier, m, hlast, hm, -⟩ := h
  rw [hlast.lastRead_eq, hm]

theorem Dropped.lastGiven_ne (h : s.Dropped ms) : s.lastGiven ms ≠ none := by
  obtain ⟨earlier, m, hlast, hm, n, hn, hne⟩ := h
  rw [hlast.lastGiven_eq, hm, Option.none_or]
  exact fun hnone => hne (lastGiven_eq_none_iff.mp hnone n hn)

end Setting

namespace Compiled

/-- The markers of all templates in the order of registration, in each from the root to the leaf. -/
def markers (x : Compiled) : List Object := x.templates.reverse.flatMap Template.markers

theorem value_options (x : Compiled) (hd : ∀ m ∈ x.markers, Fields.Distinct m) (base : Options)
    (s : Setting) : (x.options base).value s = (s.lastRead x.markers).getD (base.value s) := by
  have hwritten : ∀ m ∈ x.markers, ∀ a,
      Fields.get? (Fields.merge a m) s.key = (Fields.get? m s.key).or (Fields.get? a s.key) :=
    fun m hm a => Fields.get?_merge a (hd m hm) s.key
  rw [options, Options.value_applyOverrides, Setting.given, compilerOptions, ← markers,
    Fields.get?_foldl_merge hwritten, Fields.get?_nil, Option.or_none]
  rfl

/-- Merging the markers first and applying them one after the other agree on every setting but
those that are dropped, which stay as in the base. No marker loses a setting unless a later one has
an entry under the same key. -/
theorem options_eq_foldl_of_not_dropped (x : Compiled) (hd : ∀ m ∈ x.markers, Fields.Distinct m) :
    let inSequence (base : Options) := x.markers.foldl Options.applyOverrides base
    (∀ base, ∀ s : Setting, ¬ s.Dropped x.markers →
        (x.options base).value s = (inSequence base).value s) ∧
      (∀ base, ∀ s : Setting, s.Dropped x.markers → (x.options base).value s = base.value s) ∧
      ((∀ base, x.options base = inSequence base) ↔ ∀ s : Setting, ¬ s.Dropped x.markers) ∧
      ∀ base earlier m later, ∀ s : Setting, ∀ v, x.markers = earlier ++ m :: later →
        s.given m = some v → (∀ n ∈ later, Fields.get? n s.key = none) →
        (x.options base).value s = v := by
  intro inSequence
  have hkept (base : Options) (s : Setting) (h : ¬ s.Dropped x.markers) :
      (x.options base).value s = (inSequence base).value s := by
    rw [x.value_options hd, Options.value_foldl_applyOverrides,
      Setting.lastRead_eq_of_not_dropped h]
    rfl
  have hdropped (base : Options) (s : Setting) (h : s.Dropped x.markers) :
      (x.options base).value s = base.value s := by
    rw [x.value_options hd, h.lastRead_eq]
    rfl
  refine ⟨hkept, hdropped, ⟨?_, fun h base => Options.eq_of_value fun s => hkept base s (h s)⟩, ?_⟩
  · -- a dropped setting would follow two bases that differ in it
    intro h s hs
    obtain ⟨v, hv⟩ := Option.ne_none_iff_exists'.mp hs.lastGiven_ne
    have hbase (base : Options) : base.value s = v := by
      rw [← hdropped base s hs, h base, Options.value_foldl_applyOverrides, ← Setting.lastGiven, hv]
      rfl
    have hsame := (hbase {}).trans (hbase ⟨false, ⟨"", "", ""⟩⟩).symm
    revert hsame
    cases s <;> decide
  · intro base earlier m later s v hsplit hm hlater
    have hlast : s.LastEntry x.markers earlier m := hsplit ▸ .of_given hm hlater
    rw [x.value_options hd, hlast.lastRead_eq, hm]
    rfl

end Compiled

namespace Script

/-- Two rules with a marker each, the second of which names another separator. -/
def renamed : Script :=
  [.chain (.options [("naming", .obj [("elem", .str "-")])]) [.body (.value .null)],
    .chain (.options [("naming", .obj [("mod", .str "--")])]) [.body (.value .null)]]

theorem not_options_eq_foldl_of_renamed :
    let x := renamed.run.registry.finish
    (∀ m ∈ x.markers, Fields.Distinct m) ∧
      (x.markers.foldl Options.applyOverrides {}).naming = ⟨"-", "--", "--"⟩ ∧
      (x.options {}).naming = ⟨"__", "--", "--"⟩ := by
  refine ⟨?_, ?_, ?_⟩ <;> decide

theorem options_of_renamed :
    let x := renamed.run.registry.finish
    (∀ m ∈ x.markers, Fields.Distinct m) ∧ Setting.elem.Dropped x.markers ∧
      (x.options {}).value .elem = .str "__" ∧ (x.options {}).value .modVal = .str "--" := by
  intro x
  have hd : ∀ m ∈ x.markers, Fields.Distinct m := by decide
  obtain ⟨-, hdropped, -, hgiven⟩ := x.options_eq_foldl_of_not_dropped hd
  have helem : Setting.elem.Dropped x.markers :=
    ⟨[[("naming", .obj [("elem", .str "-")])]], [("naming", .obj [("mod", .str "--")])],
      ⟨by decide, [], rfl, by simp⟩, rfl, _, List.mem_cons_self, by decide⟩
  refine ⟨hd, helem, hdropped {} .elem helem, ?_⟩
  exact hgiven {} [[("naming", .obj [("elem", .str "-")])]] [("naming", .obj [("mod", .str "--")])]
    [] .modVal (.str "--") rfl rfl (by simp)

end Script

end BemRules
