import Mathlib.Data.List.Find
import Mathlib.Data.List.Induction

namespace ShadowCopy.Data

/-! Searching a list from its end. -/

/-- `items.iter().rfind(test)`. -/
def rfind? (test : α → Bool) (items : List α) : Option α :=
  items.reverse.find? test

/-- Change the last item that passes the test, the one
`items.iter_mut().rev().find(test)` yields. -/
def modifyLast (test : α → Bool) (change : α → α) : List α → List α
  | [] => []
  | item :: rest =>
      if rest.any test then
        item :: modifyLast test change rest
      else if test item then
        change item :: rest
      else
        item :: rest

@[simp] theorem rfind?_nil (test : α → Bool) :
    rfind? test ([] : List α) = none := rfl

theorem rfind?_append_singleton (test : α → Bool) (items : List α)
    (item : α) :
    rfind? test (items ++ [item]) =
      if test item then some item else rfind? test items := by
  simp only [rfind?, List.reverse_append, List.reverse_cons, List.reverse_nil,
    List.nil_append, List.singleton_append, List.find?_cons]
  cases test item <;> rfl

theorem rfind?_eq_none {test : α → Bool} {items : List α} :
    rfind? test items = none ↔ ∀ item ∈ items, test item = false := by
  simp [rfind?]

theorem rfind?_test {test : α → Bool} {items : List α} {item : α}
    (h : rfind? test items = some item) : test item = true :=
  List.find?_some h

theorem mem_of_rfind? {test : α → Bool} {items : List α} {item : α}
    (h : rfind? test items = some item) : item ∈ items :=
  List.mem_reverse.mp (List.mem_of_find?_eq_some h)

theorem rfind?_congr {test other : α → Bool} {items : List α}
    (h : ∀ item ∈ items, test item = other item) :
    rfind? test items = rfind? other items :=
  List.find?_congr fun item hmem => h item (List.mem_reverse.mp hmem)

theorem rfind?_filter {test keep : α → Bool} (items : List α)
    (h : ∀ item, test item = true → keep item = true) :
    rfind? test (items.filter keep) = rfind? test items := by
  induction items using List.reverseRecOn with
  | nil => rfl
  | append_singleton items item ih =>
      rw [List.filter_append, rfind?_append_singleton]
      cases hkeep : keep item with
      | true =>
          simp only [List.filter_cons_of_pos hkeep, List.filter_nil]
          rw [rfind?_append_singleton, ih]
      | false =>
          have htest : ¬ test item = true := fun htest => by
            rw [h item htest] at hkeep
            contradiction
          simp [hkeep, htest, ih]

/-- Where no two items pass the test, their order does not matter. -/
theorem rfind?_perm {test : α → Bool} {items others : List α}
    (hperm : items.Perm others)
    (honce : items.Pairwise fun item other =>
      ¬ (test item = true ∧ test other = true)) :
    rfind? test items = rfind? test others := by
  have hlast : ∀ items : List α,
      rfind? test items = (items.filter test).getLast? := by
    intro items
    induction items using List.reverseRecOn with
    | nil => rfl
    | append_singleton items item ih =>
        rw [rfind?_append_singleton, List.filter_append, ih]
        cases htest : test item <;> simp [htest]
  have hfiltered := hperm.filter test
  have hshort : (items.filter test).length ≤ 1 := by
    have hpairs := (List.pairwise_filter.mpr (honce.imp fun hne hitem hother =>
      hne ⟨hitem, hother⟩) : (items.filter test).Pairwise fun _ _ => False)
    cases hkept : items.filter test with
    | nil => exact Nat.zero_le _
    | cons item rest =>
        cases rest with
        | nil => exact Nat.le_refl _
        | cons other rest =>
            rw [hkept] at hpairs
            exact ((List.pairwise_cons.mp hpairs).1 other
              (List.mem_cons_self ..)).elim
  rw [hlast, hlast]
  apply congrArg
  cases hkept : items.filter test with
  | nil =>
      rw [hkept] at hfiltered
      exact hfiltered.nil_eq
  | cons item rest =>
      rw [hkept] at hfiltered hshort
      obtain rfl : rest = [] := List.eq_nil_of_length_eq_zero
        (Nat.le_zero.mp (Nat.le_of_succ_le_succ hshort))
      exact (List.perm_singleton.mp hfiltered.symm).symm

/-- What holds of every item, and survives the change, holds afterwards. -/
theorem forall_modifyLast {test : α → Bool} {change : α → α} {P : α → Prop}
    (hchange : ∀ item, P item → P (change item)) {items : List α}
    (h : ∀ item ∈ items, P item) :
    ∀ item ∈ modifyLast test change items, P item := by
  induction items with
  | nil => exact h
  | cons item rest ih =>
      have hitem := h item (List.mem_cons_self ..)
      have hrest : ∀ other ∈ rest, P other := fun other hmem =>
        h other (List.mem_cons_of_mem _ hmem)
      rw [modifyLast]
      split
      · exact List.forall_mem_cons.mpr ⟨hitem, ih hrest⟩
      · split
        · exact List.forall_mem_cons.mpr ⟨hchange item hitem, hrest⟩
        · exact h

theorem map_modifyLast {test : α → Bool} {change : α → α} {view : α → β}
    (h : ∀ item, view (change item) = view item) (items : List α) :
    (modifyLast test change items).map view = items.map view := by
  induction items with
  | nil => rfl
  | cons item rest ih =>
      rw [modifyLast]
      split
      · simp [ih]
      · split
        · simp [h]
        · rfl

theorem modifyLast_of_none {test : α → Bool} {change : α → α}
    {items : List α} (h : ∀ item ∈ items, test item = false) :
    modifyLast test change items = items := by
  induction items with
  | nil => rfl
  | cons item rest ih =>
      have hrest : rest.any test = false :=
        List.any_eq_false.mpr fun other hmem =>
          Bool.not_eq_true _ ▸ h other (List.mem_cons_of_mem _ hmem)
      rw [modifyLast, hrest, h item (List.mem_cons_self ..)]
      rfl

theorem modifyLast_append {test : α → Bool} {change : α → α} {item : α}
    {before after : List α} (hitem : test item = true)
    (hafter : ∀ other ∈ after, test other = false) :
    modifyLast test change (before ++ item :: after) =
      before ++ change item :: after := by
  induction before with
  | nil =>
      have hrest : after.any test = false :=
        List.any_eq_false.mpr fun other hmem =>
          Bool.not_eq_true _ ▸ hafter other hmem
      rw [List.nil_append, modifyLast, hrest, hitem]
      rfl
  | cons other rest ih =>
      have hrest : (rest ++ item :: after).any test = true := by
        simp [hitem]
      rw [List.cons_append, modifyLast, hrest, if_pos rfl, ih,
        List.cons_append]

theorem getElem?_modifyLast {test : α → Bool} {change : α → α} {item : α}
    {items : List α} {k : Nat} (hitem : test item = false)
    (h : items[k]? = some item) :
    (modifyLast test change items)[k]? = some item := by
  induction items generalizing k with
  | nil => exact h
  | cons head rest ih =>
      rw [modifyLast]
      split
      · cases k with
        | zero => exact h
        | succ k => exact ih h
      · split
        · rename_i htest
          cases k with
          | zero =>
              rw [Option.some.inj h, hitem] at htest
              contradiction
          | succ k => exact h
        · exact h

/-- Where at most one item can pass, changing the last is changing all. -/
theorem modifyLast_eq_map {test : α → Bool} {change : α → α} {items : List α}
    (h : items.Pairwise fun left right => ¬ (test left ∧ test right)) :
    modifyLast test change items =
      items.map fun item => if test item then change item else item := by
  induction items with
  | nil => rfl
  | cons item rest ih =>
      rw [List.pairwise_cons] at h
      rw [modifyLast, List.map_cons]
      by_cases hrest : rest.any test = true
      · obtain ⟨other, hmem, hother⟩ := List.any_eq_true.mp hrest
        have hitem : ¬ test item = true := fun hitem =>
          h.1 other hmem ⟨hitem, hother⟩
        rw [if_pos hrest, if_neg hitem, ih h.2]
      · have hnone : ∀ other ∈ rest, ¬ test other = true := by
          simpa using hrest
        have hmap : rest.map (fun item =>
            if test item then change item else item) = rest :=
          (List.map_congr_left fun other hmem =>
            if_neg (hnone other hmem)).trans (List.map_id' rest)
        rw [if_neg hrest, hmap]
        split <;> rfl

end ShadowCopy.Data
