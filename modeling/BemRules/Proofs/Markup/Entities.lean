import BemRules.Markup.Word

namespace BemRules.Escape

/-- What makes the entities of a table readable. -/
structure Readable (t : Table) : Prop where
  guardsAmpersand : isGuarded t '&'
  opens : ∀ e ∈ t, e.2 = '&' :: e.2.tail
  /-- Behind its ampersand an entity has no guarded character. -/
  plain : ∀ e ∈ t, e.2.tail.all fun c => !isGuarded t c
  /-- No entity is the beginning of another. -/
  apart : ∀ e ∈ t, ∀ f ∈ t, e.2 <+: f.2 → e = f

variable {t : Table} {c : Char} {cs : List Char}

theorem readable_xml : Readable xml := by constructor <;> decide

theorem readable_attr : Readable attr := by constructor <;> decide

theorem readable_jsAttr : Readable jsAttr := by constructor <;> decide

theorem encodeChar_of_not_guarded (hc : isGuarded t c = false) : encodeChar t c = [c] := by
  have hnone : entity? t c = none := by simpa [isGuarded] using hc
  rw [encodeChar, hnone]
  rfl

theorem exists_entity_of_guarded (hc : isGuarded t c) :
    ∃ e ∈ t, e.1 = c ∧ encodeChar t c = e.2 := by
  obtain ⟨entity, hentity⟩ := Option.isSome_iff_exists.mp hc
  obtain ⟨earlier, later, rfl, -⟩ := List.lookup_eq_some_iff.mp hentity
  refine ⟨(c, entity), by simp, rfl, ?_⟩
  rw [encodeChar, hentity]
  rfl

theorem encodeChars_of_not_guarded (h : ∀ c ∈ cs, isGuarded t c = false) :
    encodeChars t cs = cs := by
  induction cs with
  | nil => rfl
  | cons c rest ih =>
    have hrest : encodeChars t rest = rest := ih fun d hd => h d (List.mem_cons_of_mem c hd)
    rw [encodeChars, List.flatMap_cons, encodeChar_of_not_guarded (h c List.mem_cons_self),
      List.singleton_append, ← encodeChars, hrest]

theorem toList_encode (t : Table) (s : String) : (encode t s).toList = encodeChars t s.toList := by
  have hsplit := List.takeWhile_append_dropWhile (p := fun c => !isGuarded t c) (l := s.toList)
  have hclean : encodeChars t (s.toList.takeWhile fun c => !isGuarded t c) =
      s.toList.takeWhile fun c => !isGuarded t c := by
    refine encodeChars_of_not_guarded fun c hc => ?_
    simpa using List.all_eq_true.mp List.all_takeWhile c hc
  rw [encode]
  generalize (s.toList.takeWhile fun c => !isGuarded t c) = clean at hsplit hclean
  generalize (s.toList.dropWhile fun c => !isGuarded t c) = rest at hsplit
  rw [← hsplit, encodeChars_append, hclean]
  cases rest with
  | nil => simpa [encodeChars] using hsplit.symm
  | cons c rest => simp

namespace Readable

variable (ht : Readable t)

include ht

theorem entityAt?_append {e : Char × List Char} (he : e ∈ t) (rest : List Char) :
    entityAt? t (e.2 ++ rest) = some e := by
  have hself : e.2.isPrefixOf (e.2 ++ rest) :=
    List.isPrefixOf_iff_prefix.mpr (List.prefix_append _ _)
  cases hf : entityAt? t (e.2 ++ rest) with
  | none => exact absurd hself (List.find?_eq_none.mp hf e he)
  | some f =>
    have hmem : f ∈ t := List.mem_of_find?_eq_some hf
    have hprefix : f.2 <+: e.2 ++ rest := List.isPrefixOf_iff_prefix.mp
      (List.find?_some (p := fun f : Char × List Char => f.2.isPrefixOf (e.2 ++ rest)) hf)
    rcases List.prefix_or_prefix_of_prefix hprefix (List.prefix_append _ _) with h | h
    · rw [ht.apart f hmem e he h]
    · rw [ht.apart e he f hmem h]

theorem entityAt?_cons_of_ne (hc : c ≠ '&') : entityAt? t (c :: cs) = none := by
  refine List.find?_eq_none.mpr fun e he hprefix => hc ?_
  rw [ht.opens e he] at hprefix
  exact (List.cons_prefix_cons.mp (List.isPrefixOf_iff_prefix.mp hprefix)).1.symm

theorem ne_ampersand (hc : isGuarded t c = false) : c ≠ '&' := by
  rintro rfl
  simp [ht.guardsAmpersand] at hc

theorem not_guarded_of_mem_tail {e : Char × List Char} (he : e ∈ t) (hc : c ∈ e.2.tail) :
    isGuarded t c = false := by
  simpa using List.all_eq_true.mp (ht.plain e he) c hc

theorem decodeChars_encodeChar_append (c : Char) (rest : List Char) :
    decodeChars t (encodeChar t c ++ rest) = c :: decodeChars t rest := by
  cases hc : isGuarded t c with
  | false =>
    rw [encodeChar_of_not_guarded hc, List.singleton_append, decodeChars,
      ht.entityAt?_cons_of_ne (ht.ne_ampersand hc)]
  | true =>
    obtain ⟨e, he, rfl, hencode⟩ := exists_entity_of_guarded hc
    have hfind : entityAt? t (e.2 ++ rest) = some e := ht.entityAt?_append he rest
    have hdrop : (e.2.tail ++ rest).drop (e.2.length - 1) = rest := by
      rw [← List.length_tail, List.drop_left]
    rw [hencode]
    rw [ht.opens e he, List.cons_append] at hfind ⊢
    rw [decodeChars, hfind]
    exact congrArg (e.1 :: decodeChars t ·) hdrop

theorem decodeChars_encodeChars (cs : List Char) : decodeChars t (encodeChars t cs) = cs := by
  induction cs with
  | nil => simp [encodeChars, decodeChars]
  | cons c rest ih =>
    rw [encodeChars, List.flatMap_cons, ht.decodeChars_encodeChar_append, ← encodeChars, ih]

theorem decode_encode (s : String) : decode t (encode t s) = s := by
  rw [decode, toList_encode, ht.decodeChars_encodeChars, String.ofList_toList]

/-- Of the guarded characters only the ampersand is written, and nothing else opens an entity. -/
theorem eq_ampersand_of_mem_encodeChar {d : Char} (hd : d ∈ encodeChar t c)
    (hg : isGuarded t d) : d = '&' := by
  cases hc : isGuarded t c with
  | false =>
    rw [encodeChar_of_not_guarded hc] at hd
    rw [List.mem_singleton.mp hd, hc] at hg
    cases hg
  | true =>
    obtain ⟨e, he, -, hencode⟩ := exists_entity_of_guarded hc
    rw [hencode, ht.opens e he] at hd
    rcases List.mem_cons.mp hd with hd | hd
    · exact hd
    · rw [ht.not_guarded_of_mem_tail he hd] at hg
      cases hg

theorem eq_ampersand_of_mem_encode {s : String} (hc : c ∈ (encode t s).toList)
    (hg : isGuarded t c) : c = '&' := by
  rw [toList_encode] at hc
  obtain ⟨d, -, hd⟩ := List.mem_flatMap.mp hc
  exact ht.eq_ampersand_of_mem_encodeChar hd hg

theorem entity_of_encodeChar_eq {before after : List Char}
    (h : encodeChar t c = before ++ '&' :: after) : before = [] ∧ ∃ e ∈ t, e.2 = '&' :: after := by
  cases hc : isGuarded t c with
  | false =>
    rw [encodeChar_of_not_guarded hc] at h
    have hmem : '&' ∈ [c] := by simp [h]
    exact absurd (List.mem_singleton.mp hmem).symm (ht.ne_ampersand hc)
  | true =>
    obtain ⟨e, he, -, hencode⟩ := exists_entity_of_guarded hc
    rw [hencode] at h
    cases before with
    | nil => exact ⟨rfl, e, he, h⟩
    | cons d before =>
      have htail : '&' ∈ e.2.tail := by simp [h]
      simpa [ht.not_guarded_of_mem_tail he htail] using ht.guardsAmpersand

theorem entity_of_encodeChars_eq {before after : List Char}
    (h : encodeChars t cs = before ++ '&' :: after) : ∃ e ∈ t, e.2 <+: '&' :: after := by
  induction cs generalizing before with
  | nil => simp [encodeChars] at h
  | cons c rest ih =>
    rw [encodeChars, List.flatMap_cons, ← encodeChars] at h
    rcases List.append_eq_append_iff.mp h with ⟨mid, hbefore, hrest⟩ | ⟨mid, hchar, hmid⟩
    · exact ih hrest
    · cases mid with
      | nil =>
        have hrest : encodeChars t rest = [] ++ '&' :: after := hmid.symm
        exact ih hrest
      | cons d mid =>
        rw [List.cons_append, List.cons.injEq] at hmid
        obtain ⟨rfl, rfl⟩ := hmid
        obtain ⟨-, e, he, heq⟩ := ht.entity_of_encodeChar_eq hchar
        refine ⟨e, he, ?_⟩
        rw [heq]
        exact ⟨encodeChars t rest, rfl⟩

end Readable

theorem encode_append (t : Table) (a b : String) :
    encode t (a ++ b) = encode t a ++ encode t b := by
  apply String.toList_inj.mp
  rw [String.toList_append, toList_encode, toList_encode, toList_encode, String.toList_append,
    encodeChars_append]

theorem encode_of_not_guarded {s : String} (h : ∀ c ∈ s.toList, isGuarded t c = false) :
    encode t s = s := by
  apply String.toList_inj.mp
  rw [toList_encode, encodeChars_of_not_guarded h]

theorem not_guarded_of_isWordChar (ht : t ∈ [xml, attr, jsAttr]) (hc : Markup.isWordChar c) :
    isGuarded t c = false := by
  have hwords : ∀ t ∈ [xml, attr, jsAttr], ∀ e ∈ t, Markup.isWordChar e.1 = false := by decide
  cases hg : isGuarded t c with
  | false => rfl
  | true =>
    obtain ⟨e, he, rfl, -⟩ := exists_entity_of_guarded hg
    rw [hwords t ht e he] at hc
    cases hc

theorem readable_of_mem (ht : t ∈ [xml, attr, jsAttr]) : Readable t := by
  simp only [List.mem_cons, List.not_mem_nil, or_false] at ht
  rcases ht with rfl | rfl | rfl
  · exact readable_xml
  · exact readable_attr
  · exact readable_jsAttr

/-- Encoded text reads back, so different texts are written differently. It has no guarded
character but the ampersands that open its entities, and it is the text with each character
replaced on its own. A text that may stand without quotes is written as it is. -/
theorem decode_encode_of_table (t : Table) (ht : t ∈ [xml, attr, jsAttr]) (s : String) :
    decode t (encode t s) = s ∧ (∀ r, encode t r = encode t s → r = s) ∧
      (∀ c ∈ (encode t s).toList, isGuarded t c → c = '&') ∧
      (∀ before after, (encode t s).toList = before ++ '&' :: after →
        ∃ e ∈ t, e.2 <+: '&' :: after) ∧
      (encode t s).toList = s.toList.flatMap (encodeChar t) ∧
      (∀ b, encode t (s ++ b) = encode t s ++ encode t b) ∧
      (Markup.isUnquotedAttr s → encode t s = s) := by
  have hread : Readable t := readable_of_mem ht
  refine ⟨hread.decode_encode s, ?_, fun c => hread.eq_ampersand_of_mem_encode, ?_,
    toList_encode t s, encode_append t s, ?_⟩
  · intro r hr
    rw [← hread.decode_encode r, hr, hread.decode_encode s]
  · intro before after h
    rw [toList_encode] at h
    exact hread.entity_of_encodeChars_eq h
  · intro hword
    rw [Markup.isUnquotedAttr, Bool.and_eq_true, List.all_eq_true] at hword
    exact encode_of_not_guarded fun c hc => not_guarded_of_isWordChar ht (hword.2 c hc)

example : [xml, attr, jsAttr].map (List.map Prod.fst) =
    [['&', '<', '>'], ['"', '&', '<', '>'], ['&', '\'']] :=
  rfl

theorem decode_encode_of_entity_text :
    decode jsAttr (encode jsAttr "it's &#39;") = "it's &#39;" ∧
      encode jsAttr "it's &#39;" = "it&#39;s &amp;#39;" ∧
      encode attr "data-x.y:z_1" = "data-x.y:z_1" := by
  obtain ⟨hread, -, -, -, hchars, -⟩ := decode_encode_of_table jsAttr (by decide) "it's &#39;"
  obtain ⟨-, -, -, -, -, -, hword⟩ := decode_encode_of_table attr (by decide) "data-x.y:z_1"
  exact ⟨hread, String.toList_inj.mp (hchars.trans (by decide)), hword (by decide)⟩

end BemRules.Escape
