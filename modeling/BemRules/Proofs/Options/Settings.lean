import BemRules.Proofs.Options.Overrides

namespace BemRules

namespace Setting

inductive Gives (m : Object) : Setting → Value → Prop
  | escapeContent {b : Bool} (h : Fields.get? m "escapeContent" = some (.bool b)) :
      Gives m .escapeContent (.bool b)
  | elem {naming : Object} {text : String} (hn : Fields.get? m "naming" = some (.obj naming))
      (h : Fields.get? naming "elem" = some (.str text)) : Gives m .elem (.str text)
  | modNameOfText {naming : Object} {text : String}
      (hn : Fields.get? m "naming" = some (.obj naming))
      (h : Fields.get? naming "mod" = some (.str text)) : Gives m .modName (.str text)
  | modValOfText {naming : Object} {text : String}
      (hn : Fields.get? m "naming" = some (.obj naming))
      (h : Fields.get? naming "mod" = some (.str text)) : Gives m .modVal (.str text)
  | modName {naming delims : Object} {text : String}
      (hn : Fields.get? m "naming" = some (.obj naming))
      (hd : Fields.get? naming "mod" = some (.obj delims))
      (h : Fields.get? delims "name" = some (.str text)) : Gives m .modName (.str text)
  | modVal {naming delims : Object} {text : String}
      (hn : Fields.get? m "naming" = some (.obj naming))
      (hd : Fields.get? naming "mod" = some (.obj delims))
      (h : Fields.get? delims "val" = some (.str text)) : Gives m .modVal (.str text)

theorem readText_eq_some_iff {v w : Value} :
    readText v = some w ↔ ∃ text, v = .str text ∧ w = .str text := by
  cases v <;> simp [readText, Value.asStr?, eq_comm]

theorem entry?_eq_some_iff {v w : Value} {key : String} :
    v.entry? key = some w ↔ ∃ fields, v = .obj fields ∧ Fields.get? fields key = some w := by
  cases v <;> simp [Value.entry?, Value.asObj?]

theorem readModifier_eq_some_iff {name : String} {v w : Value} :
    readModifier name v = some w ↔ (∃ text, v = .str text ∧ w = .str text) ∨
      ∃ delims text, v = .obj delims ∧ Fields.get? delims name = some (.str text) ∧
        w = .str text := by
  cases v with
  | str s => simp [readModifier, eq_comm]
  | obj delims =>
    simp only [readModifier, Option.bind_eq_some_iff, readText_eq_some_iff]
    constructor
    · rintro ⟨x, hx, text, rfl, rfl⟩
      exact .inr ⟨delims, text, rfl, hx, rfl⟩
    · rintro (⟨text, h, -⟩ | ⟨_, text, h, hd, rfl⟩)
      · cases h
      · cases h
        exact ⟨_, hd, text, rfl, rfl⟩
  | _ => simp [readModifier]

theorem Gives.given_eq {s : Setting} {m : Object} {v : Value} (h : Gives m s v) :
    s.given m = some v := by
  rw [given, Option.bind_eq_some_iff]
  cases h with
  | escapeContent h => exact ⟨_, h, rfl⟩
  | elem hn h => exact ⟨_, hn, Option.bind_eq_some_iff.mpr ⟨_, h, rfl⟩⟩
  | modNameOfText hn h | modValOfText hn h =>
    refine ⟨_, hn, Option.bind_eq_some_iff.mpr ⟨_, h, ?_⟩⟩
    exact readModifier_eq_some_iff.mpr (.inl ⟨_, rfl, rfl⟩)
  | modName hn hd h | modVal hn hd h =>
    refine ⟨_, hn, Option.bind_eq_some_iff.mpr ⟨_, hd, ?_⟩⟩
    exact readModifier_eq_some_iff.mpr (.inr ⟨_, _, rfl, h, rfl⟩)

theorem given_eq_some_iff {s : Setting} {m : Object} {v : Value} :
    s.given m = some v ↔ Gives m s v := by
  refine ⟨?_, Gives.given_eq⟩
  intro h
  obtain ⟨entry, hentry, hread⟩ := Option.bind_eq_some_iff.mp h
  cases s with
  | escapeContent =>
    cases entry with
    | bool b =>
      obtain rfl := Option.some.inj hread
      exact .escapeContent hentry
    | _ => cases hread
  | elem =>
    obtain ⟨x, hx, htext⟩ := Option.bind_eq_some_iff.mp hread
    obtain ⟨naming, rfl, hn⟩ := entry?_eq_some_iff.mp hx
    obtain ⟨text, rfl, rfl⟩ := readText_eq_some_iff.mp htext
    exact .elem hentry hn
  | modName =>
    obtain ⟨x, hx, hmod⟩ := Option.bind_eq_some_iff.mp hread
    obtain ⟨naming, rfl, hn⟩ := entry?_eq_some_iff.mp hx
    obtain ⟨text, rfl, rfl⟩ | ⟨delims, text, rfl, hd, rfl⟩ := readModifier_eq_some_iff.mp hmod
    · exact .modNameOfText hentry hn
    · exact .modName hentry hn hd
  | modVal =>
    obtain ⟨x, hx, hmod⟩ := Option.bind_eq_some_iff.mp hread
    obtain ⟨naming, rfl, hn⟩ := entry?_eq_some_iff.mp hx
    obtain ⟨text, rfl, rfl⟩ | ⟨delims, text, rfl, hd, rfl⟩ := readModifier_eq_some_iff.mp hmod
    · exact .modValOfText hentry hn
    · exact .modVal hentry hn hd

theorem given_eq_none_iff {s : Setting} {m : Object} :
    s.given m = none ↔ ∀ v, ¬ Gives m s v := by
  simp only [Option.eq_none_iff_forall_ne_some, ne_eq, given_eq_some_iff]

def LastGives (s : Setting) (ms : List Object) (v : Value) : Prop :=
  ∃ earlier m later, ms = earlier ++ m :: later ∧ Gives m s v ∧ ∀ n ∈ later, ∀ w, ¬ Gives n s w

theorem lastGiven_eq_some_iff {s : Setting} {ms : List Object} {v : Value} :
    s.lastGiven ms = some v ↔ s.LastGives ms v := by
  simp only [lastGiven, List.findSome?_reverse_eq_some_iff_last, given_eq_some_iff,
    given_eq_none_iff, LastGives]

/-- The keys on the way to the text or truth value of a setting. -/
def route : Setting → List String
  | .escapeContent => ["escapeContent"]
  | .elem => ["naming", "elem"]
  | .modName => ["naming", "mod", "name"]
  | .modVal => ["naming", "mod", "val"]

/-- The entries that can give a setting or lead to one that can, by the keys that lead to them. -/
inductive Counts : List String → Value → Prop
  | escapeContent (b : Bool) : Counts ["escapeContent"] (.bool b)
  | naming (fields : Object) : Counts ["naming"] (.obj fields)
  | elem (text : String) : Counts ["naming", "elem"] (.str text)
  | modText (text : String) : Counts ["naming", "mod"] (.str text)
  | mod (delims : Object) : Counts ["naming", "mod"] (.obj delims)
  | modName (text : String) : Counts ["naming", "mod", "name"] (.str text)
  | modVal (text : String) : Counts ["naming", "mod", "val"] (.str text)

/-- Values under the same keys that differ, at any level, in the order of keys and in entries that
count for nothing. -/
inductive Alike : List String → Value → Value → Prop
  | refl (path : List String) (v : Value) : Alike path v v
  | symm {path : List String} {v w : Value} (h : Alike path v w) : Alike path w v
  | trans {path : List String} {u v w : Value} (h : Alike path u v) (k : Alike path v w) :
      Alike path u w
  | reorder (path : List String) {a b : Object} (hp : a.Perm b) (ha : Fields.Distinct a) :
      Alike path (.obj a) (.obj b)
  | idle (path : List String) (a b : Object) {key : String} {v : Value}
      (hv : ¬ Counts (path ++ [key]) v) (hkey : key ∉ Fields.keys (a ++ b)) :
      Alike path (.obj (a ++ (key, v) :: b)) (.obj (a ++ b))
  | inside {path : List String} (a b : Object) {key : String} {v w : Value}
      (h : Alike (path ++ [key]) v w) :
      Alike path (.obj (a ++ (key, v) :: b)) (.obj (a ++ (key, w) :: b))

/-- What a value gives the setting, when these keys are still to go. A text in the place of the two
modifier separators stands for both. -/
def readAlong (s : Setting) : List String → Value → Option Value
  | [], v => if s = .escapeContent then v.asBool?.map .bool else readText v
  | key :: rest, .obj fields => (Fields.get? fields key).bind (s.readAlong rest)
  | key :: _, .str text => if key = "name" ∨ key = "val" then some (.str text) else none
  | _ :: _, _ => none

theorem given_eq_readAlong (s : Setting) (m : Object) :
    s.given m = s.readAlong s.route (.obj m) := by
  cases s with
  | escapeContent => rfl
  | elem =>
    refine congrArg (Option.bind _) (funext fun v => ?_)
    cases v <;> rfl
  | modName =>
    refine congrArg (Option.bind _) (funext fun v => ?_)
    cases v with
    | obj naming =>
      refine congrArg (Option.bind _) (funext fun v => ?_)
      cases v <;> rfl
    | _ => rfl
  | modVal =>
    refine congrArg (Option.bind _) (funext fun v => ?_)
    cases v with
    | obj naming =>
      refine congrArg (Option.bind _) (funext fun v => ?_)
      cases v <;> rfl
    | _ => rfl

theorem readAlong_nil_eq_some_iff {s : Setting} (hs : s ≠ .escapeContent) {v w : Value} :
    s.readAlong [] v = some w ↔ ∃ text, v = .str text ∧ w = .str text := by
  rw [readAlong, if_neg hs, readText_eq_some_iff]

theorem readAlong_cons_eq_some {s : Setting} {key : String} {rest : List String} {v w : Value}
    (h : s.readAlong (key :: rest) v = some w) :
    (∃ fields, v = .obj fields) ∨ (key = "name" ∨ key = "val") ∧ ∃ text, v = .str text := by
  cases v with
  | obj fields => exact .inl ⟨fields, rfl⟩
  | str text =>
    refine .inr ⟨Decidable.byContradiction fun hkey => ?_, text, rfl⟩
    rw [readAlong, if_neg hkey] at h
    cases h
  | _ => cases h

theorem counts_of_readAlong {s : Setting} {path rest : List String} {v w : Value}
    (hr : s.route = path ++ rest) (hp : path ≠ []) (h : s.readAlong rest v = some w) :
    Counts path v := by
  cases s <;> simp only [route, List.cons_eq_append_iff, List.nil_eq_append_iff, hp, false_and,
    false_or] at hr
  case escapeContent =>
    obtain ⟨_, rfl, rfl, rfl⟩ := hr
    cases v with
    | bool b => exact .escapeContent b
    | _ => cases h
  case elem =>
    obtain ⟨_, rfl, ⟨rfl, rfl⟩ | ⟨_, rfl, rfl, rfl⟩⟩ := hr
    · obtain ⟨fields, rfl⟩ | ⟨hkey, -⟩ := readAlong_cons_eq_some h
      · exact .naming fields
      · exact absurd hkey (by decide)
    · obtain ⟨text, rfl, -⟩ := (readAlong_nil_eq_some_iff (by decide)).mp h
      exact .elem text
  case modName | modVal =>
    obtain ⟨_, rfl, ⟨rfl, rfl⟩ | ⟨_, rfl, ⟨rfl, rfl⟩ | ⟨_, rfl, rfl, rfl⟩⟩⟩ := hr
    · obtain ⟨fields, rfl⟩ | ⟨hkey, -⟩ := readAlong_cons_eq_some h
      · exact .naming fields
      · exact absurd hkey (by decide)
    · obtain ⟨delims, rfl⟩ | ⟨-, text, rfl⟩ := readAlong_cons_eq_some h
      · exact .mod delims
      · exact .modText text
    · obtain ⟨text, rfl, -⟩ := (readAlong_nil_eq_some_iff (by decide)).mp h
      constructor

theorem Alike.readAlong_eq {path : List String} {v w : Value} (h : Alike path v w) {s : Setting}
    {rest : List String} (hr : s.route = path ++ rest) :
    s.readAlong rest v = s.readAlong rest w := by
  -- the keys still to go get shorter inside an entry, while those above it get longer
  induction h generalizing rest with
  | refl path v => rfl
  | symm h ih => exact (ih hr).symm
  | trans h k ih ik => exact (ih hr).trans (ik hr)
  | reorder path hp ha =>
    cases rest with
    | nil => rfl
    | cons key rest => rw [readAlong, readAlong, Fields.get?_perm hp ha]
  | @idle path a b key v hv hkey =>
    cases rest with
    | nil => rfl
    | cons key' rest =>
      by_cases hk : key = key'
      · subst hk
        have ha : key ∉ Fields.keys a := by
          rw [Fields.keys, List.map_append] at hkey
          exact fun hmem => hkey (List.mem_append_left _ hmem)
        rw [readAlong, readAlong, Fields.get?_append_cons_self ha,
          (Fields.get?_eq_none_iff _ _).mpr hkey, Option.bind_some, Option.bind_none,
          Option.eq_none_iff_forall_ne_some]
        intro w hw
        exact hv (counts_of_readAlong (by simpa using hr) (by simp) hw)
      · rw [readAlong, readAlong, Fields.get?_append_cons_of_ne hk]
  | @inside path a b key v w h ih =>
    cases rest with
    | nil => rfl
    | cons key' rest =>
      by_cases hk : key = key'
      · subst hk
        rw [readAlong, readAlong, Fields.get?_append, Fields.get?_append]
        cases Fields.get? a key with
        | some u => rfl
        | none =>
          rw [Option.none_or, Option.none_or, Fields.get?_cons, if_pos rfl, Fields.get?_cons,
            if_pos rfl]
          exact ih (by simpa using hr)
      · rw [readAlong, readAlong, Fields.get?_append_cons_of_ne hk,
          Fields.get?_append_cons_of_ne hk]

theorem Alike.given_eq {m n : Object} (h : Alike [] (.obj m) (.obj n)) (s : Setting) :
    s.given m = s.given n := by
  rw [given_eq_readAlong, given_eq_readAlong]
  exact h.readAlong_eq rfl

end Setting

namespace Options

theorem applyOverrides_eq_of_given {m n : Object} (h : ∀ s : Setting, s.given m = s.given n)
    (o : Options) : o.applyOverrides m = o.applyOverrides n :=
  eq_of_value fun s => by rw [value_applyOverrides, value_applyOverrides, h s]

theorem applyOverrides_applyOverrides (o : Options) (m : Object) :
    (o.applyOverrides m).applyOverrides m = o.applyOverrides m := by
  refine eq_of_value fun s => ?_
  rw [value_applyOverrides, value_applyOverrides]
  cases s.given m <;> rfl

/-- Overrides one after the other leave every setting at the value given by the last that validly
gives one, and as in the base if none does. The order of keys and what cannot give a setting, at any
level, change nothing, and neither does the same override again. -/
theorem value_foldl_applyOverrides_eq_iff :
    (∀ (base : Options) (ms : List Object) (s : Setting) (v : Value),
        (ms.foldl applyOverrides base).value s = v ↔
          s.LastGives ms v ∨ (∀ m ∈ ms, ∀ w, ¬ s.Gives m w) ∧ base.value s = v) ∧
      (∀ (o : Options) (m n : Object), Setting.Alike [] (.obj m) (.obj n) →
        o.applyOverrides m = o.applyOverrides n) ∧
      ∀ (o : Options) (m : Object), (o.applyOverrides m).applyOverrides m = o.applyOverrides m := by
  refine ⟨?_, fun o m n h => applyOverrides_eq_of_given h.given_eq o, applyOverrides_applyOverrides⟩
  intro base ms s v
  have hnone : s.lastGiven ms = none ↔ ∀ m ∈ ms, ∀ w, ¬ s.Gives m w := by
    simp only [Setting.lastGiven_eq_none_iff, Setting.given_eq_none_iff]
  rw [value_foldl_applyOverrides, ← Setting.lastGiven, ← Setting.lastGiven_eq_some_iff, ← hnone]
  cases s.lastGiven ms <;> simp

end Options

end BemRules
