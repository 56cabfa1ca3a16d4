import DecisionTable.Example
import DecisionTable.Proofs.Table.Index
import DecisionTable.Table.Reference
import Mathlib.Data.List.Nodup
import Mathlib.Data.List.Range

/-!
# Tables of chains

The rows of a chain are numbered, and each refers to the next one. Putting another text into the
true cell of the last row gives a chain that ends with that text.
-/

namespace DecisionTable.Example

/-! ### Ids -/

theorem toList_chainId (i : Nat) : (chainId i).toList = 'n' :: Nat.toDigits 10 i := by
  have hnumber : toString (i : Int) = Nat.repr i := by
    rw [Int.toString_eq_repr, Int.repr_eq_if, if_pos (Int.natCast_nonneg i), Int.toNat_natCast]
  have htext : chainId i = "n" ++ Nat.repr i := by
    rw [← hnumber]
    rfl
  rw [htext, String.toList_append, Nat.toList_repr]
  rfl

theorem chainId_injective : Function.Injective fun i : Nat => chainId i := by
  intro i j h
  have hlists := congrArg String.toList h
  simp only [toList_chainId, List.cons.injEq, true_and] at hlists
  calc
    i = Nat.ofDigitChars 10 (Nat.toDigits 10 i) 0 := Nat.ofDigitChars_ten_toDigits.symm
    _ = Nat.ofDigitChars 10 (Nat.toDigits 10 j) 0 := by rw [hlists]
    _ = j := Nat.ofDigitChars_ten_toDigits

/-! ### Rows -/

/-- A row of the chain of rows 0 to `m` whose last row has a given text in its true cell. -/
def chainRow (m : Nat) (identifier operand last : String) (i : Nat) : List String :=
  [chainId i, identifier, "gt", operand,
    if i < m then Reference.cell (chainId (i + 1 : Nat)) else last, "0"]

def chainEnding (m : Nat) (identifier operand last : String) : Table :=
  .ofRequired ((List.range (m + 1)).map (chainRow m identifier operand last))

variable {m i : Nat} {identifier operand last : String}

theorem chain_eq_ending (m : Nat) (identifier operand : String) :
    chain (m + 1 : Nat) identifier operand = chainEnding m identifier operand "1" := by
  have hlast : ((m + 1 : Nat) : Int) - 1 = m := by omega
  have hlinks : (List.range m).map (linkRow identifier operand)
      = (List.range m).map (chainRow m identifier operand "1") := by
    refine List.map_congr_left ?_
    intro i hi
    rw [chainRow, if_pos (List.mem_range.mp hi)]
    rfl
  rw [chain, hlast, Int.toNat_natCast, hlinks, chainEnding, List.range_succ, List.map_append,
    List.map_singleton, chainRow, if_neg (Nat.lt_irrefl m)]
  rfl

/-- The true cell of the last row is where a chain ends. -/
theorem setCell_chainEnding (m : Nat) (identifier operand last text : String) :
    (chainEnding m identifier operand last).setCell (-1) (requiredHeadings.idxOf trueHeading) text
      = .ok (chainEnding m identifier operand text) := by
  have hlength : (chainEnding m identifier operand last).rows.length = m + 1 := by
    simp only [chainEnding, Table.ofRequired, List.length_map, List.length_range]
  have hrow : Table.position? (-1) (m + 1) = some m := by
    have hindex : (-1 : Int) + (m + 1 : Nat) = m := by omega
    have hlt : (m : Int) < (m + 1 : Nat) := by omega
    simp only [Table.position?, if_pos (by decide : (-1 : Int) < 0), hindex, hlt]
    simp
  have hcells : ((chainEnding m identifier operand last).rows.getD m []).length = 6 := by
    simp [chainEnding, Table.ofRequired, chainRow]
  have hcolumn : Table.position? (requiredHeadings.idxOf trueHeading) 6 = some 4 := by decide
  have hrows : (chainEnding m identifier operand last).rows.modify m (·.set 4 text)
      = (chainEnding m identifier operand text).rows := by
    refine List.ext_getElem (by simp [chainEnding, Table.ofRequired]) ?_
    intro i hi hi'
    have him : i < m + 1 := by simpa [chainEnding, Table.ofRequired] using hi'
    simp only [chainEnding, Table.ofRequired, List.getElem_modify, List.getElem_map,
      List.getElem_range, chainRow]
    by_cases hmi : m = i
    · rw [if_pos hmi, if_neg (by omega), if_neg (by omega)]
      rfl
    · rw [if_neg hmi, if_pos (by omega), if_pos (by omega)]
  simp only [Table.setCell, hlength, hrow, hcells, hcolumn, hrows]
  rfl

theorem cell_chainEnding (hi : i ≤ m) (heading : String) :
    (chainEnding m identifier operand last).cell i heading
      = (chainEnding m identifier operand last).cellOf (chainRow m identifier operand last i)
          heading := by
  have hrow : (chainEnding m identifier operand last).rows[i]?
      = some (chainRow m identifier operand last i) := by
    rw [chainEnding, Table.ofRequired, List.getElem?_map, List.getElem?_range (by omega)]
    rfl
  simp only [Table.cell, List.getD, hrow, Option.getD_some]

theorem cell_link (hi : i < m) : (chainEnding m identifier operand last).cell i trueHeading
    = Reference.cell (chainId (i + 1 : Nat)) := by
  rw [cell_chainEnding hi.le]
  exact if_pos hi

theorem cell_last : (chainEnding m identifier operand last).cell m trueHeading = last := by
  rw [cell_chainEnding le_rfl]
  exact if_neg (Nat.lt_irrefl m)

theorem cell_otherwise (hi : i ≤ m) :
    (chainEnding m identifier operand last).cell i falseHeading = "0" := by
  rw [cell_chainEnding hi]
  rfl

theorem nodeIds_chainEnding (m : Nat) (identifier operand last : String) :
    (chainEnding m identifier operand last).nodeIds
      = (List.range (m + 1)).map fun i : Nat => chainId i := by
  rw [Table.nodeIds, chainEnding, Table.ofRequired, List.map_map]
  rfl

theorem indexed_chainEnding (m : Nat) (identifier operand last : String) :
    (chainEnding m identifier operand last).Indexed where
  headings := fun _ hh => hh
  nonempty := by simp [chainEnding, Table.ofRequired]
  distinct := by
    rw [nodeIds_chainEnding]
    exact List.nodup_range.map chainId_injective

end DecisionTable.Example
