import Mathlib.Data.List.Nodup

namespace ShadowCopy.Data

/-! Parts of one length, put in the order of their keys and joined. -/

theorem getElem?_flatMap_of_length {items : List α} {part : α → List β}
    {size : Nat} (hsize : 0 < size)
    (h : ∀ item ∈ items, (part item).length = size) (k : Nat) :
    (items.flatMap part)[k]? =
      items[k / size]?.bind fun item => (part item)[k % size]? := by
  induction items generalizing k with
  | nil => simp
  | cons item rest ih =>
      obtain ⟨hitem, hrest⟩ := List.forall_mem_cons.mp h
      rw [List.flatMap_cons]
      rcases Nat.lt_or_ge k size with hk | hk
      · rw [List.getElem?_append_left (by omega), Nat.div_eq_of_lt hk,
          Nat.mod_eq_of_lt hk]
        rfl
      · have hdiv : k / size = (k - size) / size + 1 :=
          Nat.div_eq_sub_div hsize hk
        rw [List.getElem?_append_right (by omega), hitem, ih hrest, hdiv,
          List.getElem?_cons_succ, Nat.mod_eq_sub_mod hk]

section Sorted

variable {κ : Type} [LE κ] [DecidableLE κ] [Std.IsLinearOrder κ]

theorem mergeSort_pairwise (key : α → κ) (items : List α) :
    (items.mergeSort fun a b => key a ≤ key b).Pairwise fun a b =>
      key a ≤ key b := by
  have htrans : ∀ a b c : α, decide (key a ≤ key b) = true →
      decide (key b ≤ key c) = true → decide (key a ≤ key c) = true := by
    intro a b c hab hbc
    exact decide_eq_true
      (Std.le_trans (of_decide_eq_true hab) (of_decide_eq_true hbc))
  have htotal : ∀ a b : α,
      (decide (key a ≤ key b) || decide (key b ≤ key a)) = true := by
    intro a b
    rw [Bool.or_eq_true, decide_eq_true_eq, decide_eq_true_eq]
    exact Std.le_total
  exact (List.pairwise_mergeSort htrans htotal items).imp of_decide_eq_true

theorem mergeSort_eq_of_perm {key : α → κ} {left right : List α}
    (h : left.Perm right) (hdistinct : (left.map key).Nodup) :
    left.mergeSort (fun a b => key a ≤ key b) =
      right.mergeSort fun a b => key a ≤ key b := by
  refine List.Perm.eq_of_pairwise ?_ (mergeSort_pairwise key left)
    (mergeSort_pairwise key right)
    ((left.mergeSort_perm _).trans (h.trans (right.mergeSort_perm _).symm))
  intro a b ha hb hab hba
  have hright := h.mem_iff.mpr (List.mem_mergeSort.mp hb)
  exact List.inj_on_of_nodup_map hdistinct (List.mem_mergeSort.mp ha) hright
    (Std.le_antisymm hab hba)

end Sorted

end ShadowCopy.Data
