import BemRules.Proofs.Value.Merge
import BemRules.Value.Reader

namespace BemRules.Value

def charText (c : Char) : List Char := (escapeOf c).getD [c]

theorem toList_stringText (s : String) :
    (stringText s).toList = '"' :: (s.toList.flatMap charText ++ ['"']) :=
  String.toList_ofList

namespace Reader

theorem hexDigit?_digitChar : ∀ d < 16, hexDigit? (Nat.digitChar d) = some d := by decide

theorem hexUnit?_digitChars {n : Nat} (hn : n < 32) :
    hexUnit? '0' '0' (Nat.digitChar (n / 16)) (Nat.digitChar (n % 16)) = some n := by
  have hzero : hexDigit? '0' = some 0 := rfl
  rw [hexUnit?, hzero, hexDigit?_digitChar (n / 16) (by omega),
    hexDigit?_digitChar (n % 16) (by omega)]
  exact congrArg some (by omega)

theorem string_unit {a b c d : Char} {unit : Nat} (hunit : hexUnit? a b c d = some unit)
    (hlow : unit < 0xD800) (rest : List Char) :
    string ('\\' :: 'u' :: a :: b :: c :: d :: rest) =
      (string rest).map fun (s, rest) => (Char.ofNat unit :: s, rest) := by
  have hhigh : (decide (0xD800 ≤ unit) && decide (unit < 0xDC00)) = false := by simp; omega
  have hsecond : (decide (0xDC00 ≤ unit) && decide (unit < 0xE000)) = false := by simp; omega
  have hhalf : (decide (0xD800 ≤ unit) && decide (unit < 0xE000)) = false := by simp; omega
  -- the reader looks for the second half of a pair before it knows that the unit is no first half
  by_cases hpair : ∃ e f g h behind, rest = '\\' :: 'u' :: e :: f :: g :: h :: behind
  · obtain ⟨e, f, g, h, behind, rfl⟩ := hpair
    rw [string.eq_2, hunit]
    simp only [hhigh, hsecond, Bool.false_eq_true, if_false]
  · have hlone : ∀ e f g h behind, rest = '\\' :: 'u' :: e :: f :: g :: h :: behind → False :=
      fun e f g h behind heq => hpair ⟨e, f, g, h, behind, heq⟩
    rw [string.eq_3 a b c d rest hlone, hunit]
    simp only [hhalf, Bool.false_eq_true, if_false]

theorem string_simpleEscape {c x : Char} (hc : c ≠ 'u') (hx : simpleEscape? c = some x)
    (rest : List Char) :
    string ('\\' :: c :: rest) = (string rest).map fun (s, rest) => (x :: s, rest) := by
  rw [string.eq_4 c rest (fun _ _ _ _ _ _ _ _ _ h => absurd h hc)
    (fun _ _ _ _ _ h => absurd h hc), hx]

theorem string_raw {c : Char} (hquote : c ≠ '"') (hslash : c ≠ '\\') (hc : ¬ c.toNat < 32)
    (rest : List Char) :
    string (c :: rest) = (string rest).map fun (s, rest) => (c :: s, rest) := by
  rw [string.eq_5 c rest hquote (fun _ _ _ _ _ _ _ _ _ h => absurd h hslash)
    (fun _ _ _ _ _ h => absurd h hslash) (fun _ _ h => absurd h hslash), if_neg hc]

theorem string_charText (c : Char) (rest : List Char) :
    string (charText c ++ rest) = (string rest).map fun (s, rest) => (c :: s, rest) := by
  unfold charText escapeOf
  split
  -- the characters with an escape of their own; the others are written as a unit or as they are
  any_goals exact string_simpleEscape (by decide) rfl rest
  next hquote hslash _ _ _ _ _ =>
    by_cases hc : c.toNat < 32
    · have hunit := string_unit (hexUnit?_digitChars hc) (by omega) rest
      rw [Char.ofNat_toNat] at hunit
      rw [if_pos hc]
      exact hunit
    · rw [if_neg hc]
      exact string_raw hquote hslash hc rest

theorem string_flatMap_charText (cs rest : List Char) :
    string (cs.flatMap charText ++ '"' :: rest) = some (cs, rest) := by
  induction cs with
  | nil => exact string.eq_1 rest
  | cons c cs ih =>
    rw [List.flatMap_cons, List.append_assoc, string_charText, ih]
    rfl

theorem skipBlanks_of_not_isBlank {c : Char} (hc : isBlank c = false) (cs : List Char) :
    skipBlanks (c :: cs) = c :: cs :=
  List.dropWhile_cons_of_neg (by simp [hc])

end Reader

def joined (parts : List String) : List Char := (",".intercalate parts).toList

theorem joined_singleton (p : String) : joined [p] = p.toList :=
  congrArg String.toList String.intercalate_singleton

theorem joined_cons_cons (p q : String) (parts : List String) :
    joined (p :: q :: parts) = p.toList ++ ',' :: joined (q :: parts) := by
  rw [joined, String.intercalate_cons_cons, String.toList_append, String.toList_append,
    List.append_assoc]
  rfl

theorem toList_text_arr (items : List Value) :
    (text (.arr items)).toList = '[' :: (joined (itemTexts items) ++ [']']) := by
  rw [text, String.toList_append, String.toList_append]
  rfl

theorem toList_text_obj (fields : Object) :
    (text (.obj fields)).toList = '{' :: (joined (fieldTexts fields) ++ ['}']) := by
  rw [text, String.toList_append, String.toList_append]
  rfl

theorem toList_fieldText (k : String) (v : Value) :
    (stringText k ++ ":" ++ v.text).toList =
      '"' :: (k.toList.flatMap charText ++ '"' :: ':' :: v.text.toList) := by
  rw [String.toList_append, String.toList_append, toList_stringText]
  simp

open Reader

/-- No number occurs in the value, and no key stands twice in an object of it. -/
inductive Legible : Value → Prop
  | null : Legible .null
  | bool (b : Bool) : Legible (.bool b)
  | str (s : String) : Legible (.str s)
  | arr {items : List Value} (h : ∀ v ∈ items, Legible v) : Legible (.arr items)
  | obj {fields : Object} (hd : Fields.Distinct fields) (h : ∀ e ∈ fields, Legible e.2) :
      Legible (.obj fields)

/-- The text starts neither with a blank nor with the end of an array. -/
def StartsValue (cs : List Char) : Prop :=
  ∃ c behind, cs = c :: behind ∧ isBlank c = false ∧ c ≠ ']'

theorem Legible.startsValue {v : Value} (hv : v.Legible) : StartsValue v.text.toList := by
  cases hv with
  | null => exact ⟨_, _, rfl, rfl, by decide⟩
  | bool b => cases b <;> exact ⟨_, _, rfl, rfl, by decide⟩
  | str s => exact ⟨_, _, toList_stringText s, rfl, by decide⟩
  | arr h => exact ⟨_, _, toList_text_arr _, rfl, by decide⟩
  | obj hd h => exact ⟨_, _, toList_text_obj _, rfl, by decide⟩

/-- With fuel for the length of its text the value is read, and nothing of what follows. -/
def ReadsBack (v : Value) : Prop :=
  ∀ fuel rest, 2 * v.text.toList.length ≤ fuel →
    Reader.value fuel (v.text.toList ++ rest) = some (v, rest)

theorem joined_itemTexts_cons_cons (v w : Value) (items : List Value) :
    joined (itemTexts (v :: w :: items)) =
      v.text.toList ++ ',' :: joined (itemTexts (w :: items)) := by
  rw [itemTexts, itemTexts, joined_cons_cons]

theorem items_itemTexts {v : Value} {items : List Value} (h : ∀ w ∈ v :: items, w.ReadsBack)
    {fuel : Nat} (rest : List Char) (hf : 2 * (joined (itemTexts (v :: items))).length ≤ fuel) :
    Reader.items (fuel + 1) (joined (itemTexts (v :: items)) ++ ']' :: rest) =
      some (v :: items, rest) := by
  have hv : v.ReadsBack := h v List.mem_cons_self
  induction items generalizing v fuel with
  | nil =>
    rw [itemTexts, itemTexts, joined_singleton] at hf ⊢
    rw [Reader.items, hv fuel _ hf]
    rfl
  | cons w items ih =>
    rw [joined_itemTexts_cons_cons] at hf ⊢
    rw [List.length_append, List.length_cons] at hf
    have hrest : ∀ x ∈ w :: items, x.ReadsBack := fun x hx => h x (List.mem_cons_of_mem v hx)
    obtain ⟨fuel, rfl⟩ : ∃ below, fuel = below + 1 := ⟨fuel - 1, by omega⟩
    have hlength : 2 * (joined (itemTexts (w :: items))).length ≤ fuel := by omega
    have hitems := ih hrest hlength (hrest w List.mem_cons_self)
    rw [List.append_assoc, List.cons_append, Reader.items, hv _ _ (by omega)]
    simp only [Option.bind_eq_bind, Option.bind_some,
      skipBlanks_of_not_isBlank (rfl : isBlank ',' = false), hitems, Option.map_some]

theorem joined_fieldTexts_cons_cons (e f : String × Value) (fields : List (String × Value)) :
    joined (fieldTexts (e :: f :: fields)) =
      joined (fieldTexts [e]) ++ ',' :: joined (fieldTexts (f :: fields)) := by
  simp only [fieldTexts, joined_cons_cons, joined_singleton]

theorem joined_fieldTexts_singleton (e : String × Value) :
    joined (fieldTexts [e]) =
      '"' :: (e.1.toList.flatMap charText ++ '"' :: ':' :: e.2.text.toList) := by
  rw [fieldTexts, fieldTexts, joined_singleton, toList_fieldText]

theorem entries_fieldText {e : String × Value} (he : e.2.ReadsBack) {fuel : Nat}
    (rest : List Char) (hf : 2 * (joined (fieldTexts [e])).length ≤ fuel) :
    (∀ behind, skipBlanks rest = ',' :: behind →
      Reader.entries (fuel + 1) (joined (fieldTexts [e]) ++ rest) =
        (Reader.entries fuel behind).map fun (es, rest) => (e :: es, rest)) ∧
      ∀ behind, skipBlanks rest = '}' :: behind →
        Reader.entries (fuel + 1) (joined (fieldTexts [e]) ++ rest) = some ([e], behind) := by
  rw [joined_fieldTexts_singleton] at hf ⊢
  simp only [List.length_cons, List.length_append] at hf
  have hkey := string_flatMap_charText e.1.toList (':' :: (e.2.text.toList ++ rest))
  have hcolon := skipBlanks_of_not_isBlank (rfl : isBlank ':' = false) (e.2.text.toList ++ rest)
  rw [List.cons_append, List.append_assoc, List.cons_append, List.cons_append, Reader.entries,
    skipBlanks_of_not_isBlank rfl]
  simp only [hkey, hcolon, he fuel rest (by omega), Option.bind_eq_bind, Option.bind_some,
    String.ofList_toList]
  generalize skipBlanks rest = behind
  constructor
  · rintro behind rfl
    rfl
  · rintro behind rfl
    rfl

theorem entries_fieldTexts {e : String × Value} {fields : List (String × Value)}
    (h : ∀ f ∈ e :: fields, f.2.ReadsBack) {fuel : Nat} (rest : List Char)
    (hf : 2 * (joined (fieldTexts (e :: fields))).length ≤ fuel) :
    Reader.entries (fuel + 1) (joined (fieldTexts (e :: fields)) ++ '}' :: rest) =
      some (e :: fields, rest) := by
  have he : e.2.ReadsBack := h e List.mem_cons_self
  induction fields generalizing e fuel with
  | nil => exact (entries_fieldText he _ hf).2 rest (skipBlanks_of_not_isBlank rfl rest)
  | cons f fields ih =>
    rw [joined_fieldTexts_cons_cons] at hf ⊢
    rw [List.length_append, List.length_cons] at hf
    have hrest : ∀ x ∈ f :: fields, x.2.ReadsBack := fun x hx => h x (List.mem_cons_of_mem e hx)
    obtain ⟨fuel, rfl⟩ : ∃ below, fuel = below + 1 := ⟨fuel - 1, by omega⟩
    have hlength : 2 * (joined (fieldTexts (f :: fields))).length ≤ fuel := by omega
    have hentries := ih hrest hlength (hrest f List.mem_cons_self)
    have hnext := (entries_fieldText he (',' :: (joined (fieldTexts (f :: fields)) ++ '}' :: rest))
      (by omega : 2 * (joined (fieldTexts [e])).length ≤ fuel + 1)).1 _
        (skipBlanks_of_not_isBlank rfl _)
    rw [List.append_assoc, List.cons_append, hnext, hentries]
    rfl

theorem Legible.startsValue_items {v : Value} (hv : v.Legible) (items : List Value)
    (rest : List Char) : StartsValue (joined (itemTexts (v :: items)) ++ rest) := by
  obtain ⟨c, behind, hc, hstart⟩ := hv.startsValue
  cases items with
  | nil =>
    rw [itemTexts, itemTexts, joined_singleton, hc]
    exact ⟨c, _, rfl, hstart⟩
  | cons w items =>
    rw [joined_itemTexts_cons_cons, hc]
    exact ⟨c, _, rfl, hstart⟩

theorem readsBack_arr {v : Value} {items : List Value} (hv : v.Legible)
    (h : ∀ w ∈ v :: items, w.ReadsBack) : (arr (v :: items)).ReadsBack := by
  intro fuel rest hf
  rw [toList_text_arr] at hf ⊢
  simp only [List.length_cons, List.length_append] at hf
  obtain ⟨fuel, rfl⟩ : ∃ below, fuel = below + 2 := ⟨fuel - 2, by omega⟩
  have hlength : 2 * (joined (itemTexts (v :: items))).length ≤ fuel := by omega
  have hitems := items_itemTexts h rest hlength
  obtain ⟨c, behind, hstart, hblank, hend⟩ := hv.startsValue_items items (']' :: rest)
  rw [List.cons_append, List.append_assoc, List.singleton_append, Reader.value,
    skipBlanks_of_not_isBlank rfl]
  rw [hstart] at hitems ⊢
  simp only [skipBlanks_of_not_isBlank hblank, hitems]
  split
  next heq => exact absurd (List.cons.inj heq).1 hend
  next => rfl

theorem readsBack_obj {e : String × Value} {fields : List (String × Value)}
    (hd : Fields.Distinct (e :: fields)) (h : ∀ f ∈ e :: fields, f.2.ReadsBack) :
    (obj (e :: fields)).ReadsBack := by
  intro fuel rest hf
  rw [toList_text_obj] at hf ⊢
  simp only [List.length_cons, List.length_append] at hf
  obtain ⟨fuel, rfl⟩ : ∃ below, fuel = below + 2 := ⟨fuel - 2, by omega⟩
  have hlength : 2 * (joined (fieldTexts (e :: fields))).length ≤ fuel := by omega
  have hentries := entries_fieldTexts h rest hlength
  obtain ⟨behind, hstart⟩ : ∃ behind, joined (fieldTexts (e :: fields)) = '"' :: behind := by
    cases fields with
    | nil => exact ⟨_, joined_fieldTexts_singleton e⟩
    | cons f fields =>
      rw [joined_fieldTexts_cons_cons, joined_fieldTexts_singleton]
      exact ⟨_, rfl⟩
  have hentry : Fields.ofEntries (e :: fields) = e :: fields := Fields.nil_merge hd
  rw [List.cons_append, List.append_assoc, List.singleton_append, Reader.value,
    skipBlanks_of_not_isBlank rfl]
  rw [hstart, List.cons_append] at hentries ⊢
  simp only [skipBlanks_of_not_isBlank (rfl : isBlank '"' = false), hentries, Option.map_some,
    hentry]
  rfl

theorem readsBack_of_any_fuel {v : Value} (hv : v.text.toList ≠ [])
    (h : ∀ fuel rest, Reader.value (fuel + 1) (v.text.toList ++ rest) = some (v, rest)) :
    v.ReadsBack := by
  intro fuel rest hf
  have hpos : 0 < v.text.toList.length := List.length_pos_iff.mpr hv
  obtain ⟨fuel, rfl⟩ : ∃ below, fuel = below + 1 := ⟨fuel - 1, by omega⟩
  exact h fuel rest

theorem readsBack_str (s : String) : (str s).ReadsBack := by
  have htext : (str s).text.toList = '"' :: (s.toList.flatMap charText ++ ['"']) :=
    toList_stringText s
  refine readsBack_of_any_fuel (by simp [htext]) fun fuel rest => ?_
  rw [htext, List.cons_append, List.append_assoc, List.singleton_append, Reader.value,
    skipBlanks_of_not_isBlank rfl]
  simp only [string_flatMap_charText, Option.map_some, String.ofList_toList]

theorem Legible.readsBack {v : Value} (hv : v.Legible) : v.ReadsBack := by
  induction hv with
  | null => exact readsBack_of_any_fuel nofun fun _ _ => rfl
  | bool b => cases b <;> exact readsBack_of_any_fuel nofun fun _ _ => rfl
  | str s => exact readsBack_str s
  | @arr items h ih =>
    cases items with
    | nil => exact readsBack_of_any_fuel nofun fun _ _ => rfl
    | cons v items => exact readsBack_arr (h v List.mem_cons_self) ih
  | @obj fields hd h ih =>
    cases fields with
    | nil => exact readsBack_of_any_fuel nofun fun _ _ => rfl
    | cons e fields => exact readsBack_obj hd ih

theorem ofText?_text {v : Value} (hv : v.Legible) : ofText? v.text = some v := by
  have hread := hv.readsBack (2 * v.text.toList.length + 2) [] (Nat.le_add_right _ _)
  rw [List.append_nil] at hread
  rw [ofText?]
  simp only [hread]
  rfl

end BemRules.Value
