import DecisionTable.Proofs.Json.Document
import Mathlib.Data.List.Nodup

/-!
# Documents with sorted members

Sorting the members of objects changes their order only: each object has the members that it had,
with the documents of these sorted as well.
-/

namespace DecisionTable

namespace Json

section Lookup

variable {α β : Type} {l l' : List (String × α)} {name : String} {a : α}

theorem lookup_eq_some (hnames : (l.map (·.1)).Nodup) :
    l.lookup name = some a ↔ (name, a) ∈ l := by
  induction l with
  | nil => simp
  | cons m l ih =>
    obtain ⟨other, b⟩ := m
    rw [List.map_cons, List.nodup_cons] at hnames
    rw [List.lookup_cons, List.mem_cons]
    by_cases hsame : name = other
    · subst hsame
      have hnot : (name, a) ∉ l := fun hmem => hnames.1 (List.mem_map.mpr ⟨_, hmem, rfl⟩)
      rw [beq_self_eq_true]
      simp only [Option.some.injEq, Prod.mk.injEq, true_and, hnot, or_false]
      exact eq_comm
    · rw [beq_false_of_ne hsame]
      simp only [ih hnames.2, Prod.mk.injEq, hsame, false_and, false_or]

theorem lookup_perm (h : l.Perm l') (hnames : (l.map (·.1)).Nodup) (name : String) :
    l.lookup name = l'.lookup name := by
  have hnames' : (l'.map (·.1)).Nodup := (h.map _).nodup_iff.mp hnames
  refine Option.ext ?_
  intro a
  rw [lookup_eq_some hnames, lookup_eq_some hnames', h.mem_iff]

theorem lookup_map (f : α → β) (l : List (String × α)) (name : String) :
    (l.map fun m => (m.1, f m.2)).lookup name = (l.lookup name).map f := by
  induction l with
  | nil => rfl
  | cons m l ih =>
    rw [List.map_cons, List.lookup_cons, List.lookup_cons, ih]
    cases name == m.1 with
    | true => rfl
    | false => rfl

end Lookup

variable {d e : Json} {members : List (String × Json)} {name : String}

theorem sortEach_eq (items : List Json) : sortEach items = items.map sortMembers := by
  induction items with
  | nil => rfl
  | cons item items ih => rw [sortEach, ih, List.map_cons]

theorem sortEachMember_eq (members : List (String × Json)) :
    sortEachMember members = members.map fun m => (m.1, m.2.sortMembers) := by
  induction members with
  | nil => rfl
  | cons m members ih =>
    obtain ⟨name, value⟩ := m
    rw [sortEachMember, ih, List.map_cons]

theorem names_sortEachMember (members : List (String × Json)) :
    (sortEachMember members).map (·.1) = members.map (·.1) := by
  rw [sortEachMember_eq, List.map_map]
  rfl

/-- The members of a sorted object are those of the object, sorted. -/
theorem get?_sortMembers (hnames : (members.map (·.1)).Nodup) (name : String) :
    (object members).sortMembers.get? name = ((object members).get? name).map sortMembers := by
  have hperm := List.mergeSort_perm (sortEachMember members) fun a b => decide (a.1 ≤ b.1)
  have hnames' := names_sortEachMember members ▸ hnames
  simp only [sortMembers, get?]
  rw [← lookup_perm hperm.symm hnames', sortEachMember_eq, lookup_map]

theorem Plain.sortMembers (hd : d.Plain) : d.sortMembers.Plain := by
  induction hd with
  | string s => exact .string s
  | array items _ ih =>
    rw [Json.sortMembers, sortEach_eq]
    refine .array _ ?_
    intro j hj
    obtain ⟨item, hitem, rfl⟩ := List.mem_map.mp hj
    exact ih item hitem
  | object members hnames _ ih =>
    have hperm := List.mergeSort_perm (sortEachMember members) fun a b => decide (a.1 ≤ b.1)
    rw [Json.sortMembers]
    refine .object _ ?_ ?_
    · rw [(hperm.map _).nodup_iff, names_sortEachMember]
      exact hnames
    · intro m hm
      rw [hperm.mem_iff, sortEachMember_eq] at hm
      obtain ⟨m', hm', rfl⟩ := List.mem_map.mp hm
      exact ih m' hm'

theorem Plain.get?_sortMembers (hd : d.Plain) (name : String) :
    d.sortMembers.get? name = (d.get? name).map Json.sortMembers := by
  cases hd with
  | string s => rfl
  | array items _ => rfl
  | object members hnames _ => exact Json.get?_sortMembers hnames name

/-- Documents that differ in the order of members at most. -/
structure Alike (d e : Json) : Prop where
  left : d.Plain
  right : e.Plain
  sorted : d.sortMembers = e.sortMembers

theorem Alike.member (h : Alike d e) (name : String) :
    (d.get? name).map sortMembers = (e.get? name).map sortMembers := by
  rw [← h.left.get?_sortMembers, ← h.right.get?_sortMembers, h.sorted]

theorem Alike.string (h : Alike d e) (name : String) {s s' : String}
    (hs : d.get? name = some (.string s)) (hs' : e.get? name = some (.string s')) : s = s' := by
  have hmember := h.member name
  rw [hs, hs'] at hmember
  have hsame : Json.string s = Json.string s' := Option.some.inj hmember
  exact Json.string.inj hsame

end Json

end DecisionTable
