import DecisionTable.Proofs.Compile.Blame
import DecisionTable.Tree.Analysis
import Mathlib.Algebra.BigOperators.Group.List.Lemmas
import Mathlib.Algebra.GroupWithZero.Nat
import Mathlib.Data.List.Dedup

/-!
# Names without repetition

Names are listed once each, in the order of their first use or in ascending order, and counted.
-/

namespace DecisionTable

variable {names : List String} {x : String}

theorem nodup_eraseDups (names : List String) : names.eraseDups.Nodup := by
  induction names using List.reverseRecOn with
  | nil => exact List.nodup_nil
  | append_singleton names x ih =>
    rw [List.eraseDups_append]
    by_cases hx : x ∈ names
    · simpa [List.removeAll, hx] using ih
    · have hlast : ([x].removeAll names).eraseDups = [x] := by
        simp [List.removeAll, hx, List.eraseDups_cons]
      rw [hlast]
      refine List.nodup_append.mpr ⟨ih, List.nodup_singleton x, ?_⟩
      intro y hy z hz hyz
      rw [hyz, List.mem_singleton.mp hz, List.mem_eraseDups] at hy
      exact hx hy

theorem mem_sortedSet : x ∈ sortedSet names ↔ x ∈ names := by
  unfold sortedSet sortTexts
  rw [(List.mergeSort_perm _ _).mem_iff, List.mem_eraseDups]

theorem sortedSet_sorted (names : List String) : (sortedSet names).Pairwise (· < ·) :=
  Table.sortTexts_sorted (nodup_eraseDups names)

theorem length_sortedSet (h : names.Nodup) : (sortedSet names).length = names.length := by
  have hperm : names.eraseDups.Perm names :=
    (List.perm_ext_iff_of_nodup (nodup_eraseDups names) h).mpr fun _ => List.mem_eraseDups
  unfold sortedSet sortTexts
  rw [List.length_mergeSort, hperm.length_eq]

/-- Names that are counted one by one are all of them. -/
theorem sum_map_count (names : List String) :
    (names.eraseDups.map names.count).sum = names.length := by
  have hperm : names.eraseDups.Perm names.dedup := by
    refine (List.perm_ext_iff_of_nodup (nodup_eraseDups names) (List.nodup_dedup names)).mpr ?_
    intro x
    rw [List.mem_eraseDups, List.mem_dedup]
  rw [(hperm.map names.count).sum_eq]
  exact List.sum_map_count_dedup_eq_length names

end DecisionTable
