import Mathlib.Data.List.Basic
import BemRules.Options

namespace String

theorem exists_of_append_eq {p q x y : String} (h : p ++ x = q ++ y) (hle : p.length ≤ q.length) :
    ∃ u, q = p ++ u ∧ x = u ++ y := by
  have hlist : p.toList ++ x.toList = q.toList ++ y.toList := by
    rw [← String.toList_append, h, String.toList_append]
  rcases List.append_eq_append_iff.mp hlist with ⟨u, hq, hx⟩ | ⟨u, hp, hy⟩
  · exact ⟨String.ofList u, String.toList_injective (by simp [hq]),
      String.toList_injective (by simp [hx])⟩
  · have hu : u = [] := by
      have hlen := congrArg List.length hp
      simp only [List.length_append, String.length_toList] at hlen
      exact List.length_eq_zero_iff.mp (by omega)
    subst hu
    exact ⟨"", String.toList_injective (by simp [hp]), String.toList_injective (by simp [hy])⟩

end String

namespace BemRules

namespace Text

def Occurs (word text : String) : Prop := ∃ before behind, text = before ++ word ++ behind

/-- The word stands between the two parts of the text, and nowhere closer to its start. -/
structure FirstOccurrence (word text before behind : String) : Prop where
  around : text = before ++ word ++ behind
  first : ∀ before' behind', text = before' ++ word ++ behind' → before.length ≤ before'.length

/-- The end of the text and the beginning of a word that follows make up the word. -/
def Straddles (word text : String) : Prop :=
  ∃ before close opening rest, text = before ++ close ∧ close ≠ "" ∧ opening ≠ "" ∧
    word = close ++ opening ∧ word = opening ++ rest

variable {word text before behind : String}

namespace FirstOccurrence

theorem occurs (h : FirstOccurrence word text before behind) : Occurs word text :=
  ⟨before, behind, h.around⟩

theorem unique (h : FirstOccurrence word text before behind) {before' behind' : String}
    (h' : FirstOccurrence word text before' behind') : before = before' ∧ behind = behind' := by
  have hle : before.length ≤ before'.length := h.first _ _ h'.around
  have hge : before'.length ≤ before.length := h'.first _ _ h.around
  have heq : before ++ (word ++ behind) = before' ++ (word ++ behind') := by
    rw [← String.append_assoc, ← String.append_assoc, ← h.around, h'.around]
  obtain ⟨u, hu, hrest⟩ := String.exists_of_append_eq heq hle
  have hempty : u = "" := by
    have hlen := congrArg String.length hu
    rw [String.length_append] at hlen
    exact String.length_eq_zero_iff.mp (by omega)
  subst hempty
  rw [String.append_empty] at hu
  rw [String.empty_append, String.append_right_inj] at hrest
  exact ⟨hu.symm, hrest⟩

end FirstOccurrence

/-- What follows the word decides nothing about where it first occurs. -/
theorem firstOccurrence_iff (word before behind : String) :
    FirstOccurrence word (before ++ word ++ behind) before behind ↔
      ∀ p q, before ++ word = p ++ word ++ q → before.length ≤ p.length := by
  constructor
  · intro h p q heq
    refine h.first p (q ++ behind) ?_
    rw [heq, String.append_assoc]
  · intro h
    refine ⟨rfl, fun p q heq => ?_⟩
    by_contra hlt
    have hle : (p ++ word).length ≤ (before ++ word).length := by
      rw [String.length_append, String.length_append]
      omega
    obtain ⟨u, hu, -⟩ := String.exists_of_append_eq heq.symm hle
    exact hlt (h p u hu)

theorem firstOccurrence_at_end_iff (word before : String) :
    FirstOccurrence word (before ++ word) before "" ↔
      ∀ p q, before ++ word = p ++ word ++ q → before.length ≤ p.length := by
  rw [← firstOccurrence_iff word before "", String.append_empty]

theorem not_firstOccurrence_iff (hword : word ≠ "") (before : String) :
    ¬ FirstOccurrence word (before ++ word) before "" ↔
      Occurs word before ∨ Straddles word before := by
  have hlength : word.length ≠ 0 := mt String.length_eq_zero_iff.mp hword
  rw [firstOccurrence_at_end_iff]
  constructor
  · intro h
    simp only [not_forall, Nat.not_le] at h
    obtain ⟨p, q, heq, hlt⟩ := h
    rw [String.append_assoc] at heq
    obtain ⟨u, rfl, hu⟩ := String.exists_of_append_eq heq.symm (Nat.le_of_lt hlt)
    rw [String.length_append] at hlt
    -- The earlier occurrence starts at `u`: a short `u` is a part of it, a long one holds it whole.
    rcases Nat.lt_or_ge u.length word.length with hshort | hlong
    · obtain ⟨w, hclose, hopening⟩ := String.exists_of_append_eq hu.symm (Nat.le_of_lt hshort)
      refine .inr ⟨p, u, w, q, rfl, ?_, ?_, hclose, hopening⟩
      · rintro rfl
        simp at hlt
      · rintro rfl
        simp [hclose] at hshort
    · obtain ⟨t, rfl, -⟩ := String.exists_of_append_eq hu hlong
      exact .inl ⟨p, t, String.append_assoc.symm⟩
  · rintro (⟨p, q, rfl⟩ | ⟨p, u, w, r, rfl, hu, -, hclose, hopening⟩) hfirst
    · have hle := hfirst p (q ++ word) String.append_assoc
      simp only [String.length_append] at hle
      omega
    · have hle : (p ++ u).length ≤ p.length := by
        refine hfirst p r ?_
        calc p ++ u ++ word = p ++ u ++ (w ++ r) := by rw [← hopening]
          _ = p ++ (u ++ w) ++ r := by simp only [String.append_assoc]
          _ = p ++ word ++ r := by rw [← hclose]
      rw [String.length_append] at hle
      exact hu (String.length_eq_zero_iff.mp (by omega))

end Text

namespace Naming

variable {word cs before behind : List Char}

theorem splitAtFirst?_eq_none_iff : splitAtFirst? word cs = none ↔ ¬ word <:+: cs := by
  induction cs with
  | nil => simp [splitAtFirst?]
  | cons c cs ih =>
    rw [splitAtFirst?, List.infix_cons_iff]
    split
    · next hw => simp [List.isPrefixOf_iff_prefix.mp hw]
    · next hw => simp [ih, mt List.isPrefixOf_iff_prefix.mpr hw]

theorem length_le_of_splitAtFirst? (h : splitAtFirst? word cs = some (before, behind))
    {p q : List Char} (hp : cs = p ++ word ++ q) : before.length ≤ p.length := by
  induction cs generalizing before behind p with
  | nil =>
    rw [splitAtFirst?] at h
    split at h
    · obtain ⟨rfl, rfl⟩ := Prod.mk.inj (Option.some.inj h)
      exact Nat.zero_le _
    · cases h
  | cons c cs ih =>
    rw [splitAtFirst?] at h
    split at h
    · obtain ⟨rfl, rfl⟩ := Prod.mk.inj (Option.some.inj h)
      exact Nat.zero_le _
    · next hw =>
      obtain ⟨⟨b, r⟩, hs, he⟩ := Option.map_eq_some_iff.mp h
      obtain ⟨rfl, rfl⟩ := Prod.mk.inj he
      cases p with
      | nil => exact absurd (List.isPrefixOf_iff_prefix.mpr ⟨q, hp.symm⟩) hw
      | cons d p => exact Nat.succ_le_succ (ih hs (List.cons.inj hp).2)

open Text

theorem split_cases (n : Naming) (key : String) :
    (n.split key = [key] ∧ ¬ Occurs n.elem key) ∨
      ∃ before behind, n.split key = [before, behind] ∧
        FirstOccurrence n.elem key before behind := by
  rw [split]
  cases h : splitAtFirst? n.elem.toList key.toList with
  | none =>
    refine .inl ⟨rfl, ?_⟩
    rintro ⟨before, behind, heq⟩
    refine splitAtFirst?_eq_none_iff.mp h ⟨before.toList, behind.toList, ?_⟩
    rw [heq, String.toList_append, String.toList_append]
  | some parts =>
    obtain ⟨before, behind⟩ := parts
    refine .inr ⟨String.ofList before, String.ofList behind, rfl, ?_, ?_⟩
    · apply String.toList_injective
      simp [← append_of_splitAtFirst? h]
    · intro p q heq
      rw [String.length_ofList, ← String.length_toList]
      refine length_le_of_splitAtFirst? h (q := q.toList) ?_
      rw [heq, String.toList_append, String.toList_append]

theorem split_eq_pair_iff (n : Naming) (key before behind : String) :
    n.split key = [before, behind] ↔ FirstOccurrence n.elem key before behind := by
  rcases n.split_cases key with ⟨hsplit, hnot⟩ | ⟨p, q, hsplit, hfirst⟩
  · rw [hsplit]
    exact iff_of_false (by simp) fun h => hnot h.occurs
  · rw [hsplit]
    constructor
    · intro h
      obtain ⟨rfl, rfl⟩ : p = before ∧ q = behind := by simpa using h
      exact hfirst
    · intro h
      obtain ⟨rfl, rfl⟩ := hfirst.unique h
      rfl

theorem intercalate_split (n : Naming) (key : String) :
    n.elem.intercalate (n.split key) = key := by
  rcases n.split_cases key with ⟨hsplit, -⟩ | ⟨p, q, hsplit, hfirst⟩
  · rw [hsplit, String.intercalate_singleton]
  · rw [hsplit, String.intercalate_cons_cons, String.intercalate_singleton, hfirst.around]

/-- A class name has one part if the separator does not stand in it, and else the two parts around
the first place where it does; the separator joins them again. A block and an element are found
again exactly if the separator first stands at the end of the block, and else it stands in the block
or across its end. -/
theorem split_build (n : Naming) (helem : n.elem ≠ "") :
    (∀ key, n.elem.intercalate (n.split key) = key ∧
        ((n.split key = [key] ∧ ¬ Occurs n.elem key) ∨
          ∃ before behind, n.split key = [before, behind] ∧
            FirstOccurrence n.elem key before behind)) ∧
      ∀ block elem, elem ≠ "" →
        (n.split (n.build block (some elem)) = [block, elem] ↔
            FirstOccurrence n.elem (block ++ n.elem) block "") ∧
          (n.split (n.build block (some elem)) ≠ [block, elem] ↔
            Occurs n.elem block ∨ Straddles n.elem block) := by
  refine ⟨fun key => ⟨n.intercalate_split key, n.split_cases key⟩, ?_⟩
  intro block elem hne
  have hbuild : n.build block (some elem) = block ++ n.elem ++ elem :=
    if_neg (by simpa using hne)
  have hfound : n.split (n.build block (some elem)) = [block, elem] ↔
      FirstOccurrence n.elem (block ++ n.elem) block "" := by
    rw [hbuild, split_eq_pair_iff, firstOccurrence_iff, firstOccurrence_at_end_iff]
  exact ⟨hfound, (not_congr hfound).trans (not_firstOccurrence_iff helem block)⟩

theorem split_build_of_underscores :
    let n : Naming := {}
    n.elem ≠ "" ∧ "e" ≠ "" ∧ n.elem.intercalate (n.split "b__e__x") = "b__e__x" ∧
      FirstOccurrence n.elem ("b" ++ n.elem) "b" "" ∧
      n.split (n.build "b_" (some "e")) ≠ ["b_", "e"] := by
  intro n
  have helem : n.elem ≠ "" := by decide
  have hne : "e" ≠ "" := by decide
  obtain ⟨hjoin, hbuild⟩ := split_build n helem
  have hfound : n.split (n.build "b" (some "e")) = ["b", "e"] := by decide
  have hstraddles : Straddles n.elem "b_" :=
    ⟨"b", "_", "_", "_", by decide, by decide, by decide, by decide, by decide⟩
  exact ⟨helem, hne, (hjoin _).1, (hbuild "b" "e" hne).1.mp hfound,
    (hbuild "b_" "e" hne).2.mpr (.inr hstraddles)⟩

end Naming

end BemRules
