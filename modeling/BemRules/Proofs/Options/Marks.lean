import BemRules.Proofs.Options.Merge
import BemRules.Proofs.Registry.Shortcut
import BemRules.Proofs.Selection.FirstMatch

namespace BemRules

structure Mark where
  moment : Nat
  marker : Object

namespace Mark

/-- The markers among predicates, at consecutive moments. -/
def ofPredicates (next : Nat) (ps : List Predicate) : List Mark :=
  ((ps.filterMap Predicate.marker?).zipIdx next).map fun (marker, moment) => ⟨moment, marker⟩

structure InOrder (next : Nat) (ms : List Mark) : Prop where
  moments : ms.Pairwise fun m n => m.moment < n.moment
  before : ∀ m ∈ ms, m.moment < next

/-- The moment of the mark is the place of its marker among all markers. -/
def At (markers : List Object) (m : Mark) : Prop := markers[m.moment]? = some m.marker

variable {next : Nat} {ps : List Predicate}

theorem map_marker_ofPredicates (next : Nat) (ps : List Predicate) :
    (ofPredicates next ps).map marker = ps.filterMap Predicate.marker? := by
  rw [ofPredicates, List.map_map]
  exact List.zipIdx_map_fst next _

theorem length_ofPredicates (next : Nat) (ps : List Predicate) :
    (ofPredicates next ps).length = (ps.filterMap Predicate.marker?).length := by
  rw [ofPredicates, List.length_map, List.length_zipIdx]

theorem mem_ofPredicates {m : Mark} (hm : m ∈ ofPredicates next ps) :
    next ≤ m.moment ∧ (ps.filterMap Predicate.marker?)[m.moment - next]? = some m.marker := by
  obtain ⟨⟨marker, moment⟩, hmem, rfl⟩ := List.mem_map.mp hm
  exact List.mk_mem_zipIdx_iff_le_and_getElem?_sub.mp hmem

theorem pairwise_ofPredicates (next : Nat) (ps : List Predicate) :
    (ofPredicates next ps).Pairwise fun m n => m.moment < n.moment := by
  have hmoments : (ofPredicates next ps).map moment =
      List.range' next (ps.filterMap Predicate.marker?).length := by
    rw [ofPredicates, List.map_map]
    exact List.zipIdx_map_snd next _
  rw [← List.pairwise_map (f := moment) (R := (· < ·)), hmoments]
  exact List.pairwise_lt_range'

theorem at_of_mem_ofPredicates {all : List Object} {m : Mark}
    (hall : ps.filterMap Predicate.marker? <+: all.drop next) (hm : m ∈ ofPredicates next ps) :
    m.At all := by
  obtain ⟨hle, hget⟩ := mem_ofPredicates hm
  obtain ⟨hlt, -⟩ := List.getElem?_eq_some_iff.mp hget
  obtain ⟨rest, hrest⟩ := hall
  rw [← List.getElem?_append_left hlt, hrest, List.getElem?_drop, Nat.add_sub_cancel' hle] at hget
  exact hget

theorem InOrder.mono {later : Nat} {ms : List Mark} (h : InOrder next ms) (hle : next ≤ later) :
    InOrder later ms := by
  refine ⟨h.moments, ?_⟩
  intro m hm
  exact Nat.lt_of_lt_of_le (h.before m hm) hle

theorem InOrder.append {outer : List Mark} (ho : InOrder next outer) (ps : List Predicate) :
    InOrder (next + (ofPredicates next ps).length) (outer ++ ofPredicates next ps) := by
  refine ⟨?_, ?_⟩
  · rw [List.pairwise_append]
    refine ⟨ho.moments, pairwise_ofPredicates next ps, ?_⟩
    intro m hm n hn
    exact Nat.lt_of_lt_of_le (ho.before m hm) (mem_ofPredicates hn).1
  · intro m hm
    rcases List.mem_append.mp hm with hm | hm
    · exact Nat.lt_add_right _ (ho.before m hm)
    · obtain ⟨hle, hget⟩ := mem_ofPredicates hm
      obtain ⟨hlt, -⟩ := List.getElem?_eq_some_iff.mp hget
      rw [length_ofPredicates]
      omega

end Mark

namespace Template

theorem markers_shortcutConditions (key : String) :
    (Method.shortcutConditions key).filterMap Predicate.marker? = [] := by
  rw [Method.shortcutConditions]
  split <;> rfl

theorem markers_of_mem_ofScope {scope : List Predicate} {b : Body} {t : Template}
    (ht : t ∈ ofScope scope b) : t.markers = scope.filterMap Predicate.marker? := by
  by_cases h : (∀ p ∈ scope, p.OfEntity) ∧ ∃ entries, b.HasEntries entries
  · obtain ⟨hs, entries, he⟩ := h
    rw [ofScope_of_entries scope b hs he] at ht
    obtain ⟨e, -, rfl⟩ := List.mem_map.mp ht
    rw [markers_build, List.filterMap_append, markers_shortcutConditions, List.append_nil]
  · rw [ofScope_of_not_entries scope b h] at ht
    obtain rfl := List.mem_singleton.mp ht
    exact markers_build scope b

end Template

namespace Entry

mutual

/-- The markers of an entry in the order of the calls that added them: those of a scope, and then
those of the scopes nested in it. -/
def markers : Entry → List Object
  | .scope conditions children => conditions.filterMap Predicate.marker? ++ markersOf children
  | .body _ => []

def markersOf : List Entry → List Object
  | [] => []
  | e :: rest => markers e ++ markersOf rest

end

mutual

/-- The marks around each template of an entry, where the markers of the entry are numbered from
`next` on. -/
def guards (above : List Predicate) (outer : List Mark) (next : Nat) : Entry → List (List Mark)
  | .scope conditions children =>
    let own := Mark.ofPredicates next conditions
    guardsOf (above ++ conditions) (outer ++ own) (next + own.length) children
  | .body b => (Template.ofScope above b).map fun _ => outer

def guardsOf (above : List Predicate) (outer : List Mark) (next : Nat) :
    List Entry → List (List Mark)
  | [] => []
  | e :: rest => guards above outer next e ++ guardsOf above outer (next + (markers e).length) rest

end

theorem map_marker_scope {above : List Predicate} {outer : List Mark}
    (houter : outer.map Mark.marker = above.filterMap Predicate.marker?) (next : Nat)
    (conditions : List Predicate) :
    (outer ++ Mark.ofPredicates next conditions).map Mark.marker =
      (above ++ conditions).filterMap Predicate.marker? := by
  rw [List.map_append, List.filterMap_append, houter, Mark.map_marker_ofPredicates]

mutual

theorem map_marker_guards {above : List Predicate} {outer : List Mark}
    (houter : outer.map Mark.marker = above.filterMap Predicate.marker?) (next : Nat) (e : Entry) :
    (e.guards above outer next).map (List.map Mark.marker) =
      (e.templates above).map Template.markers := by
  cases e with
  | scope conditions children =>
    rw [guards, templates]
    exact map_marker_guardsOf (map_marker_scope houter next conditions) _ children
  | body b =>
    rw [guards, templates, List.map_map]
    apply List.map_congr_left
    intro t ht
    exact houter.trans (Template.markers_of_mem_ofScope ht).symm

theorem map_marker_guardsOf {above : List Predicate} {outer : List Mark}
    (houter : outer.map Mark.marker = above.filterMap Predicate.marker?) (next : Nat)
    (es : List Entry) :
    (guardsOf above outer next es).map (List.map Mark.marker) =
      (templatesOf above es).map Template.markers := by
  cases es with
  | nil => rfl
  | cons e rest =>
    rw [guardsOf, templatesOf, List.map_append, List.map_append, map_marker_guards houter next e,
      map_marker_guardsOf houter _ rest]

end

mutual

theorem inOrder_of_mem_guards {above : List Predicate} {outer ms : List Mark} {next : Nat}
    (houter : Mark.InOrder next outer) (e : Entry) (hms : ms ∈ e.guards above outer next) :
    ms.Pairwise fun m n => m.moment < n.moment := by
  cases e with
  | scope conditions children =>
    rw [guards] at hms
    exact inOrder_of_mem_guardsOf (houter.append conditions) children hms
  | body b =>
    rw [guards] at hms
    obtain ⟨-, -, rfl⟩ := List.mem_map.mp hms
    exact houter.moments

theorem inOrder_of_mem_guardsOf {above : List Predicate} {outer ms : List Mark} {next : Nat}
    (houter : Mark.InOrder next outer) (es : List Entry) (hms : ms ∈ guardsOf above outer next es) :
    ms.Pairwise fun m n => m.moment < n.moment := by
  cases es with
  | nil => cases hms
  | cons e rest =>
    rw [guardsOf] at hms
    rcases List.mem_append.mp hms with hms | hms
    · exact inOrder_of_mem_guards houter e hms
    · exact inOrder_of_mem_guardsOf (houter.mono (Nat.le_add_right _ _)) rest hms

end

theorem prefix_drop_of_append {xs ys all : List Object} {next : Nat}
    (h : xs ++ ys <+: all.drop next) : ys <+: all.drop (next + xs.length) := by
  obtain ⟨rest, hrest⟩ := h
  rw [← List.drop_drop, ← hrest, List.append_assoc, List.drop_left]
  exact List.prefix_append ys rest

mutual

theorem at_of_mem_guards {above : List Predicate} {outer ms : List Mark} {next : Nat}
    {all : List Object} (houter : ∀ m ∈ outer, m.At all) (e : Entry)
    (hall : e.markers <+: all.drop next) (hms : ms ∈ e.guards above outer next) :
    ∀ m ∈ ms, m.At all := by
  cases e with
  | scope conditions children =>
    rw [guards] at hms
    rw [markers] at hall
    have hchildren := prefix_drop_of_append hall
    rw [← Mark.length_ofPredicates next] at hchildren
    have hown : ∀ m ∈ outer ++ Mark.ofPredicates next conditions, m.At all := by
      intro m hm
      rcases List.mem_append.mp hm with hm | hm
      · exact houter m hm
      · exact Mark.at_of_mem_ofPredicates ((List.prefix_append _ _).trans hall) hm
    exact at_of_mem_guardsOf hown children hchildren hms
  | body b =>
    rw [guards] at hms
    obtain ⟨-, -, rfl⟩ := List.mem_map.mp hms
    exact houter

theorem at_of_mem_guardsOf {above : List Predicate} {outer ms : List Mark} {next : Nat}
    {all : List Object} (houter : ∀ m ∈ outer, m.At all) (es : List Entry)
    (hall : markersOf es <+: all.drop next) (hms : ms ∈ guardsOf above outer next es) :
    ∀ m ∈ ms, m.At all := by
  cases es with
  | nil => cases hms
  | cons e rest =>
    rw [guardsOf] at hms
    rw [markersOf] at hall
    rcases List.mem_append.mp hms with hms | hms
    · exact at_of_mem_guards houter e ((List.prefix_append _ _).trans hall) hms
    · exact at_of_mem_guardsOf houter rest (prefix_drop_of_append hall) hms

end

end Entry

end BemRules
