import BemRules.Proofs.Value.Reading
import BemRules.Stored

namespace BemRules

open Stored

class LawfulStored (α : Type) [Stored α] : Prop where
  read?_write (x : α) : read? (write x) = some x
  legible_write (x : α) : (write x : Value).Legible

namespace Stored

def ReadsBack (α : Type) [Stored α] : Prop :=
  ∀ x : α, read? (write x) = some x ∧ (Value.ofText? (write x).text).bind read? = some x

theorem readsBack (α : Type) [Stored α] [LawfulStored α] : ReadsBack α := by
  intro x
  have hread := LawfulStored.read?_write x
  refine ⟨hread, ?_⟩
  rw [Value.ofText?_text (LawfulStored.legible_write x)]
  exact hread

theorem legible_alternative (name : String) {content : Value} (hc : content.Legible) :
    (Value.obj [(name, content)]).Legible := by
  have hd : Fields.Distinct [(name, content)] :=
    List.nodup_cons.mpr ⟨List.not_mem_nil, List.nodup_nil⟩
  refine .obj hd fun e he => ?_
  obtain rfl := List.mem_singleton.mp he
  exact hc

theorem legible_record (name : String) {fields : List (String × String)}
    (hd : Fields.Distinct fields) : (record name fields).Legible := by
  refine legible_alternative name (.obj ?_ fun e he => ?_)
  · rw [Fields.Distinct, Fields.keys, List.map_map]
    exact hd
  · obtain ⟨⟨k, s⟩, -, rfl⟩ := List.mem_map.mp he
    exact .str s

end Stored

instance : LawfulStored Naming where
  read?_write _ := rfl
  legible_write n := by
    have hd : ["elem", "modName", "modVal"].Nodup := by decide
    refine .obj hd ?_
    simp only [List.forall_mem_cons]
    exact ⟨.str n.elem, .str n.modName, .str n.modVal, nofun⟩

instance : LawfulStored Options where
  read?_write _ := rfl
  legible_write o := by
    have hd : ["escapeContent", "naming"].Nodup := by decide
    refine .obj hd ?_
    simp only [List.forall_mem_cons]
    exact ⟨.bool o.escapeContent, LawfulStored.legible_write o.naming, nofun⟩

instance : LawfulStored KeyPath where
  read?_write key := by
    cases key <;> rfl
  legible_write key := by
    cases key with
    | field name => exact legible_alternative _ (.str name)
    | path outer name =>
      refine legible_alternative _ (.arr ?_)
      simp only [List.forall_mem_cons]
      exact ⟨.str outer, .str name, nofun⟩

instance : LawfulStored MatchValue where
  read?_write p := by
    cases p <;> rfl
  legible_write p := by
    cases p with
    | present => exact .str _
    | exact text => exact legible_alternative _ (.str text)

instance : LawfulStored AddMode where
  read?_write mode := by
    cases mode <;> rfl
  legible_write mode := by
    cases mode <;> exact .str _

instance : LawfulStored RegisterError where
  read?_write e := by
    cases e <;> rfl
  legible_write e := by
    cases e with
    | missingPredicate => exact .str _
    | closedScope => exact .str _
    | invalidPredicate argument | unknownMethod name =>
      exact legible_record _ (List.nodup_cons.mpr ⟨List.not_mem_nil, List.nodup_nil⟩)
    | unexpectedArguments method arguments =>
      have hd : ["method", "arguments"].Nodup := by decide
      exact legible_record _ hd
    | invalidArgument method message =>
      have hd : ["method", "message"].Nodup := by decide
      exact legible_record _ hd

namespace Stored

section

variable {α : Type} [Stored α] {default x : α} {fields : Object} {name : String}

/-- A field that is read from an object holds what its entry says, and its default where the object
has no entry of that name. -/
def Holds (fields : Object) (name : String) (default x : α) : Prop :=
  (Fields.get? fields name = none ∧ x = default) ∨
    ∃ v, Fields.get? fields name = some v ∧ read? v = some x

theorem readOr_eq_some_iff :
    readOr default (Fields.get? fields name) = some x ↔ Holds fields name default x := by
  cases h : Fields.get? fields name <;> simp [readOr, Holds, h, eq_comm]

theorem readOr_eq_none_iff :
    readOr default (Fields.get? fields name) = none ↔
      ∃ v, Fields.get? fields name = some v ∧ (read? v : Option α) = none := by
  cases Fields.get? fields name <;> simp [readOr]

end

theorem read?_text_eq_none_iff (v : Value) :
    (read? v : Option String) = none ↔ ∀ s, v ≠ .str s := by
  cases v <;> simp [read?, Value.asStr?]

theorem read?_truth_eq_none_iff (v : Value) :
    (read? v : Option Bool) = none ↔ ∀ b, v ≠ .bool b := by
  cases v <;> simp [read?, Value.asBool?]

variable (fields : Object)

theorem read?_naming :
    (read? (.obj fields) : Option Naming) =
      (readOr "__" (Fields.get? fields "elem")).bind fun elem =>
        (readOr "_" (Fields.get? fields "modName")).bind fun modName =>
          (readOr "_" (Fields.get? fields "modVal")).bind fun modVal =>
            some ⟨elem, modName, modVal⟩ :=
  rfl

theorem read?_options :
    (read? (.obj fields) : Option Options) =
      (readOr true (Fields.get? fields "escapeContent")).bind fun escapeContent =>
        (readOr {} (Fields.get? fields "naming")).bind fun naming =>
          some ⟨escapeContent, naming⟩ :=
  rfl

theorem read?_naming_eq_some_iff (n : Naming) :
    read? (.obj fields) = some n ↔
      Holds fields "elem" "__" n.elem ∧ Holds fields "modName" "_" n.modName ∧
        Holds fields "modVal" "_" n.modVal := by
  rw [read?_naming, ← readOr_eq_some_iff, ← readOr_eq_some_iff, ← readOr_eq_some_iff]
  simp only [Option.bind_eq_some_iff, Option.some.injEq]
  constructor
  · rintro ⟨elem, helem, modName, hname, modVal, hval, rfl⟩
    exact ⟨helem, hname, hval⟩
  · rintro ⟨helem, hname, hval⟩
    exact ⟨_, helem, _, hname, _, hval, rfl⟩

theorem read?_options_eq_some_iff (o : Options) :
    read? (.obj fields) = some o ↔
      Holds fields "escapeContent" true o.escapeContent ∧
        Holds fields "naming" {} o.naming := by
  rw [read?_options, ← readOr_eq_some_iff, ← readOr_eq_some_iff]
  simp only [Option.bind_eq_some_iff, Option.some.injEq]
  constructor
  · rintro ⟨escapeContent, hescape, naming, hnaming, rfl⟩
    exact ⟨hescape, hnaming⟩
  · rintro ⟨hescape, hnaming⟩
    exact ⟨_, hescape, _, hnaming, rfl⟩

theorem read?_naming_eq_none_iff :
    (read? (.obj fields) : Option Naming) = none ↔
      ∃ name ∈ ["elem", "modName", "modVal"], ∃ v, Fields.get? fields name = some v ∧
        ∀ s, v ≠ .str s := by
  have hfails : (∃ name ∈ ["elem", "modName", "modVal"], ∃ v, Fields.get? fields name = some v ∧
      ∀ s, v ≠ .str s) ↔ readOr "__" (Fields.get? fields "elem") = none ∨
        readOr "_" (Fields.get? fields "modName") = none ∨
          readOr "_" (Fields.get? fields "modVal") = none := by
    simp only [List.mem_cons, List.not_mem_nil, or_false, exists_eq_or_imp, exists_eq_left,
      readOr_eq_none_iff, read?_text_eq_none_iff]
  rw [read?_naming, hfails]
  cases readOr "__" (Fields.get? fields "elem") with
  | none => simp
  | some elem =>
    cases readOr "_" (Fields.get? fields "modName") with
    | none => simp
    | some modName => cases readOr "_" (Fields.get? fields "modVal") <;> simp

theorem read?_options_eq_none_iff :
    (read? (.obj fields) : Option Options) = none ↔
      (∃ v, Fields.get? fields "escapeContent" = some v ∧ ∀ b, v ≠ .bool b) ∨
        ∃ v, Fields.get? fields "naming" = some v ∧ (read? v : Option Naming) = none := by
  have hfails : ((∃ v, Fields.get? fields "escapeContent" = some v ∧ ∀ b, v ≠ .bool b) ∨
      ∃ v, Fields.get? fields "naming" = some v ∧ (read? v : Option Naming) = none) ↔
        readOr true (Fields.get? fields "escapeContent") = none ∨
          readOr ({} : Naming) (Fields.get? fields "naming") = none := by
    simp only [readOr_eq_none_iff, read?_truth_eq_none_iff]
  rw [read?_options, hfails]
  cases readOr true (Fields.get? fields "escapeContent") with
  | none => simp
  | some escapeContent => cases readOr ({} : Naming) (Fields.get? fields "naming") <;> simp

end Stored

namespace Fields

variable {α : Type} {names : List String} {name : String}

theorem get?_filter (fs : Fields α) (hn : name ∈ names) :
    get? (fs.filter fun e => e.1 ∈ names) name = get? fs name := by
  induction fs with
  | nil => rfl
  | cons e rest ih =>
    by_cases he : e.1 ∈ names
    · rw [List.filter_cons_of_pos (by simpa using he), get?_cons, get?_cons, ih]
    · have hne : e.1 ≠ name := fun heq => he (heq ▸ hn)
      rw [List.filter_cons_of_neg (by simpa using he), ih, get?_cons, if_neg hne]

/-- The same entries under the given names, in whatever order and among whatever other entries. -/
def SameUnder (names : List String) (a b : Fields α) : Prop :=
  (a.filter fun e => e.1 ∈ names).Perm (b.filter fun e => e.1 ∈ names)

theorem SameUnder.get?_eq {a b : Fields α} (h : SameUnder names a b) (ha : Distinct a)
    (hn : name ∈ names) : get? a name = get? b name := by
  have hd : Distinct (a.filter fun e => e.1 ∈ names) :=
    List.Nodup.sublist (List.filter_sublist.map Prod.fst) ha
  rw [← get?_filter a hn, ← get?_filter b hn]
  exact get?_perm h hd name

end Fields

namespace Stored

variable {a b : Object}

theorem read?_naming_of_sameUnder (ha : Fields.Distinct a)
    (h : Fields.SameUnder ["elem", "modName", "modVal"] a b) :
    (read? (.obj a) : Option Naming) = read? (.obj b) := by
  have hget : ∀ name ∈ ["elem", "modName", "modVal"], Fields.get? a name = Fields.get? b name :=
    fun name hn => h.get?_eq ha hn
  rw [read?_naming, read?_naming, hget "elem" (by decide), hget "modName" (by decide),
    hget "modVal" (by decide)]

theorem read?_options_of_sameUnder (ha : Fields.Distinct a)
    (h : Fields.SameUnder ["escapeContent", "naming"] a b) :
    (read? (.obj a) : Option Options) = read? (.obj b) := by
  have hget : ∀ name ∈ ["escapeContent", "naming"], Fields.get? a name = Fields.get? b name :=
    fun name hn => h.get?_eq ha hn
  rw [read?_options, read?_options, hget "escapeContent" (by decide), hget "naming" (by decide)]

theorem read?_options_of_read?_naming {v w : Value}
    (h : (read? v : Option Naming) = read? w) (before after : Object) :
    (read? (.obj (before ++ ("naming", v) :: after)) : Option Options) =
      read? (.obj (before ++ ("naming", w) :: after)) := by
  have hne : "naming" ≠ "escapeContent" := by decide
  rw [read?_options, read?_options, Fields.get?_append_cons_of_ne hne,
    Fields.get?_append_cons_of_ne hne]
  refine congrArg (Option.bind _) (funext fun escapeContent => ?_)
  rw [Fields.get?_append, Fields.get?_append, Fields.get?_cons, Fields.get?_cons,
    if_pos rfl, if_pos rfl]
  cases Fields.get? before "naming" with
  | some u => rfl
  | none => exact congrArg (Option.bind · _) h

/-- Configurations, keys, match values, additive modes and errors are read back from what is written
for them and from its text. An object is read as a record by the fields that the record knows: one
without an entry keeps its default, entries under other names and the order of the entries count for
nothing, at either level, and only an entry of the wrong kind under a known name is refused. -/
theorem read_back :
    (ReadsBack Options ∧ ReadsBack Naming ∧ ReadsBack KeyPath ∧ ReadsBack MatchValue ∧
        ReadsBack AddMode ∧ ReadsBack RegisterError) ∧
      ∀ fields : Object,
        (∀ n : Naming, read? (.obj fields) = some n ↔
          Holds fields "elem" "__" n.elem ∧ Holds fields "modName" "_" n.modName ∧
            Holds fields "modVal" "_" n.modVal) ∧
        (∀ o : Options, read? (.obj fields) = some o ↔
          Holds fields "escapeContent" true o.escapeContent ∧
            Holds fields "naming" {} o.naming) ∧
        ((read? (.obj fields) : Option Naming) = none ↔
          ∃ name ∈ ["elem", "modName", "modVal"], ∃ v, Fields.get? fields name = some v ∧
            ∀ s, v ≠ .str s) ∧
        ((read? (.obj fields) : Option Options) = none ↔
          (∃ v, Fields.get? fields "escapeContent" = some v ∧ ∀ b, v ≠ .bool b) ∨
            ∃ v, Fields.get? fields "naming" = some v ∧ (read? v : Option Naming) = none) ∧
        (Fields.Distinct fields → ∀ other : Object,
          (Fields.SameUnder ["escapeContent", "naming"] fields other →
            (read? (.obj fields) : Option Options) = read? (.obj other)) ∧
          (Fields.SameUnder ["elem", "modName", "modVal"] fields other →
            (read? (.obj fields) : Option Naming) = read? (.obj other) ∧
              ∀ before after : Object,
                (read? (.obj (before ++ ("naming", .obj fields) :: after)) : Option Options) =
                  read? (.obj (before ++ ("naming", .obj other) :: after)))) := by
  refine ⟨⟨readsBack _, readsBack _, readsBack _, readsBack _, readsBack _, readsBack _⟩, ?_⟩
  intro fields
  refine ⟨read?_naming_eq_some_iff fields, read?_options_eq_some_iff fields,
    read?_naming_eq_none_iff fields, read?_options_eq_none_iff fields, ?_⟩
  intro hd other
  refine ⟨read?_options_of_sameUnder hd, fun h => ?_⟩
  have hnaming := read?_naming_of_sameUnder hd h
  exact ⟨hnaming, read?_options_of_read?_naming hnaming⟩

theorem read_back_of_partial :
    Fields.Distinct [("mod", Value.null), ("elem", .str "-")] ∧
      (read? (.obj [("lint", .null), ("naming", .obj [("mod", .null), ("elem", .str "-")])]) :
        Option Options) = some { naming := { elem := "-" } } := by
  have hd : Fields.Distinct [("mod", Value.null), ("elem", .str "-")] :=
    (by decide : ["mod", "elem"].Nodup)
  have hnaming := ((read_back.2 _).2.2.2.2 hd [("elem", .str "-")]).2 (.refl _)
  exact ⟨hd, (hnaming.2 [("lint", .null)] []).trans rfl⟩

end Stored

end BemRules
