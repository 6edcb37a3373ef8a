import Mathlib.Data.List.Nodup

namespace ShadowCopy.Data

/-! Values missing from a list, as open intervals between its members. -/

section Gaps

variable {α : Type} [LE α] [LT α] {items : List α} {low high value : α}

/-- Neighbours in the order, whatever the list's own order is. -/
structure Consecutive (items : List α) (low high : α) : Prop where
  low_mem : low ∈ items
  high_mem : high ∈ items
  lt : low < high
  clear : ∀ item ∈ items, item ≤ low ∨ high ≤ item

/-- The neighbouring pairs of a sorted list that `wide` keeps. -/
def gaps (wide : α → α → Bool) (items : List α) : List (α × α) :=
  (items.zip items.tail).filter fun pair => wide pair.1 pair.2

/-- `wide` keeps the pairs with a value between them. -/
def Discerns (wide : α → α → Bool) : Prop :=
  ∀ low high, wide low high = true ↔ ∃ value, low < value ∧ value < high

variable [Std.IsLinearOrder α] [Std.LawfulOrderLT α]

namespace Consecutive

variable {first second : α} {rest : List α}

omit [Std.LawfulOrderLT α] in
theorem head (hsorted : (first :: second :: rest).Pairwise (· ≤ ·))
    (hlt : first < second) :
    Consecutive (first :: second :: rest) first second where
  low_mem := List.mem_cons_self ..
  high_mem := List.mem_cons_of_mem _ (List.mem_cons_self ..)
  lt := hlt
  clear := by
    have hsecond := (List.pairwise_cons.mp (List.pairwise_cons.mp hsorted).2).1
    intro item hitem
    rcases List.mem_cons.mp hitem with rfl | hitem
    · exact .inl (Std.le_refl _)
    · rcases List.mem_cons.mp hitem with rfl | hitem
      · exact .inr (Std.le_refl _)
      · exact .inr (hsecond item hitem)

omit [Std.IsLinearOrder α] [Std.LawfulOrderLT α] in
theorem cons (h : Consecutive rest low high)
    (hfirst : ∀ item ∈ rest, first ≤ item) :
    Consecutive (first :: rest) low high where
  low_mem := List.mem_cons_of_mem _ h.low_mem
  high_mem := List.mem_cons_of_mem _ h.high_mem
  lt := h.lt
  clear := by
    intro item hitem
    rcases List.mem_cons.mp hitem with rfl | hitem
    · exact .inl (hfirst low h.low_mem)
    · exact h.clear item hitem

/-- The higher neighbour is never the first item of a sorted list. -/
theorem high_mem_tail (h : Consecutive (first :: rest) low high)
    (hfirst : ∀ item ∈ rest, first ≤ item) : high ∈ rest := by
  rcases List.mem_cons.mp h.high_mem with rfl | hhigh
  · rcases List.mem_cons.mp h.low_mem with rfl | hlow
    · exact absurd h.lt Std.lt_irrefl
    · exact absurd h.lt (Std.not_lt.mpr (hfirst low hlow))
  · exact hhigh

theorem tail (h : Consecutive (first :: rest) low high)
    (hfirst : ∀ item ∈ rest, first ≤ item) (hlow : low ∈ rest) :
    Consecutive rest low high where
  low_mem := hlow
  high_mem := h.high_mem_tail hfirst
  lt := h.lt
  clear := fun item hitem => h.clear item (List.mem_cons_of_mem _ hitem)

theorem eq_head (h : Consecutive (first :: second :: rest) low high)
    (hsorted : (first :: second :: rest).Pairwise (· ≤ ·))
    (hlow : low ∉ second :: rest) : low = first ∧ high = second := by
  obtain ⟨hfirst, hrest⟩ := List.pairwise_cons.mp hsorted
  have hsecond := (List.pairwise_cons.mp hrest).1
  have hmem : second ∈ second :: rest := List.mem_cons_self ..
  obtain rfl : low = first := by
    rcases List.mem_cons.mp h.low_mem with heq | hmem
    · exact heq
    · exact absurd hmem hlow
  have hle : high ≤ second := by
    rcases h.clear second (List.mem_cons_of_mem _ hmem) with hle | hle
    · exact absurd (Std.le_antisymm (hfirst second hmem) hle ▸ hmem) hlow
    · exact hle
  have hge : second ≤ high := by
    rcases List.mem_cons.mp (h.high_mem_tail hfirst) with rfl | hhigh
    · exact Std.le_refl _
    · exact hsecond high hhigh
  exact ⟨rfl, Std.le_antisymm hle hge⟩

end Consecutive

theorem mem_zip_tail_iff (hsorted : items.Pairwise (· ≤ ·))
    (hlt : low < high) :
    (low, high) ∈ items.zip items.tail ↔ Consecutive items low high := by
  induction items with
  | nil =>
      constructor
      · exact fun h => nomatch h
      · exact fun h => nomatch h.low_mem
  | cons first rest ih =>
      cases rest with
      | nil =>
          constructor
          · exact fun h => nomatch h
          · intro h
            rw [List.mem_singleton.mp h.low_mem,
              List.mem_singleton.mp h.high_mem] at hlt
            exact absurd hlt Std.lt_irrefl
      | cons second rest =>
          obtain ⟨hfirst, hrest⟩ := List.pairwise_cons.mp hsorted
          rw [List.tail_cons, List.zip_cons_cons, List.mem_cons]
          constructor
          · rintro (hpair | htail)
            · obtain ⟨rfl, rfl⟩ := Prod.mk.inj hpair
              exact .head hsorted hlt
            · exact ((ih hrest).mp htail).cons hfirst
          · intro h
            by_cases hlow : low ∈ second :: rest
            · exact .inr ((ih hrest).mpr (h.tail hfirst hlow))
            · obtain ⟨rfl, rfl⟩ := h.eq_head hsorted hlow
              exact .inl rfl

theorem mem_gaps_iff {wide : α → α → Bool} (hwide : Discerns wide)
    (hsorted : items.Pairwise (· ≤ ·)) :
    (low, high) ∈ gaps wide items ↔
      Consecutive items low high ∧ ∃ value, low < value ∧ value < high := by
  rw [gaps, List.mem_filter, hwide]
  constructor
  · rintro ⟨hpair, value, hlow, hhigh⟩
    exact ⟨(mem_zip_tail_iff hsorted (Std.lt_trans hlow hhigh)).mp hpair,
      value, hlow, hhigh⟩
  · rintro ⟨h, hvalue⟩
    exact ⟨(mem_zip_tail_iff hsorted h.lt).mpr h, hvalue⟩

theorem exists_pair_around (hsorted : items.Pairwise (· ≤ ·))
    (hvalue : value ∉ items) (hlow : ∃ low ∈ items, low < value)
    (hhigh : ∃ high ∈ items, value < high) :
    ∃ pair ∈ items.zip items.tail, pair.1 < value ∧ value < pair.2 := by
  induction items with
  | nil =>
      obtain ⟨_, hmem, _⟩ := hlow
      contradiction
  | cons first rest ih =>
      obtain ⟨low, hlowMem, hlow⟩ := hlow
      obtain ⟨high, hhighMem, hhigh⟩ := hhigh
      obtain ⟨hfirst, hrest⟩ := List.pairwise_cons.mp hsorted
      have hfirstLt : first < value := by
        rcases List.mem_cons.mp hlowMem with rfl | hmem
        · exact hlow
        · exact Std.lt_of_le_of_lt (hfirst low hmem) hlow
      have hhighRest : high ∈ rest := by
        rcases List.mem_cons.mp hhighMem with rfl | hmem
        · exact absurd (Std.lt_trans hhigh hfirstLt) Std.lt_irrefl
        · exact hmem
      cases rest with
      | nil => contradiction
      | cons second rest =>
          rw [List.tail_cons, List.zip_cons_cons]
          have hmem : second ∈ second :: rest := List.mem_cons_self ..
          by_cases hsecond : second < value
          · obtain ⟨pair, hpair, haround⟩ := ih hrest
              (fun h => hvalue (List.mem_cons_of_mem _ h))
              ⟨second, hmem, hsecond⟩ ⟨high, hhighRest, hhigh⟩
            exact ⟨pair, List.mem_cons_of_mem _ hpair, haround⟩
          · have hle : value ≤ second := Std.not_lt.mp hsecond
            have hne : value ≠ second := by
              intro heq
              rw [heq] at hvalue
              exact hvalue (List.mem_cons_of_mem _ hmem)
            exact ⟨(first, second), List.mem_cons_self .., hfirstLt,
              Std.lt_of_le_of_ne hle hne⟩

/-- The gaps cover exactly what is missing between the ends. -/
theorem covered_iff {wide : α → α → Bool} (hwide : Discerns wide)
    (hsorted : items.Pairwise (· ≤ ·)) :
    (∃ gap ∈ gaps wide items, gap.1 < value ∧ value < gap.2) ↔
      value ∉ items ∧ (∃ low ∈ items, low < value) ∧
        ∃ high ∈ items, value < high := by
  constructor
  · rintro ⟨⟨low, high⟩, hgap, hlow, hhigh⟩
    have h := ((mem_gaps_iff hwide hsorted).mp hgap).1
    refine ⟨fun hvalue => ?_, ⟨low, h.low_mem, hlow⟩, high, h.high_mem, hhigh⟩
    rcases h.clear value hvalue with hle | hle
    · exact Std.not_le.mpr hlow hle
    · exact Std.not_le.mpr hhigh hle
  · rintro ⟨hvalue, hlow, hhigh⟩
    obtain ⟨pair, hpair, haround⟩ :=
      exists_pair_around hsorted hvalue hlow hhigh
    exact ⟨pair, List.mem_filter.mpr
      ⟨hpair, (hwide pair.1 pair.2).mpr ⟨value, haround⟩⟩, haround⟩

omit [LT α] [Std.LawfulOrderLT α] in
/-- The gaps stand in increasing order and do not overlap. -/
theorem gaps_pairwise (wide : α → α → Bool)
    (hsorted : items.Pairwise (· ≤ ·)) :
    (gaps wide items).Pairwise fun left right => left.2 ≤ right.1 := by
  have hzip : (items.zip items.tail).Pairwise
      fun left right => left.2 ≤ right.1 := by
    induction items with
    | nil => exact List.Pairwise.nil
    | cons first rest ih =>
        obtain ⟨_, hrest⟩ := List.pairwise_cons.mp hsorted
        cases rest with
        | nil => exact List.Pairwise.nil
        | cons second rest =>
            rw [List.tail_cons, List.zip_cons_cons]
            refine List.pairwise_cons.mpr ⟨?_, ih hrest⟩
            intro pair hpair
            have hmem : pair.1 ∈ second :: rest := (List.of_mem_zip hpair).1
            rcases List.mem_cons.mp hmem with heq | hmem
            · exact heq ▸ Std.le_refl _
            · exact (List.pairwise_cons.mp hrest).1 _ hmem
  exact hzip.sublist (List.filter_sublist ..)

/-- The gaps depend on which values are there, not on how often. -/
theorem gaps_congr {wide : α → α → Bool} (hwide : Discerns wide)
    {left right : List α} (hleft : left.Pairwise (· ≤ ·))
    (hright : right.Pairwise (· ≤ ·))
    (hsame : ∀ item, item ∈ left ↔ item ∈ right) :
    gaps wide left = gaps wide right := by
  have hordered : ∀ {items : List α}, items.Pairwise (· ≤ ·) →
      (gaps wide items).Pairwise fun one other => one.1 < other.1 := by
    intro items hsorted
    refine (gaps_pairwise wide hsorted).imp_of_mem ?_
    intro one other hone _ hle
    exact Std.lt_of_lt_of_le ((mem_gaps_iff hwide hsorted).mp hone).1.lt hle
  have hnodup : ∀ {items : List α}, items.Pairwise (· ≤ ·) →
      (gaps wide items).Nodup := by
    intro items hsorted
    refine (hordered hsorted).imp ?_
    rintro one _ hlt rfl
    exact Std.lt_irrefl hlt
  have hmem : ∀ gap, gap ∈ gaps wide left ↔ gap ∈ gaps wide right := by
    rintro ⟨low, high⟩
    rw [mem_gaps_iff hwide hleft, mem_gaps_iff hwide hright]
    have hiff : Consecutive left low high ↔ Consecutive right low high := by
      constructor
      · rintro ⟨hlow, hhigh, hlt, hclear⟩
        exact ⟨(hsame low).mp hlow, (hsame high).mp hhigh, hlt,
          fun item hitem => hclear item ((hsame item).mpr hitem)⟩
      · rintro ⟨hlow, hhigh, hlt, hclear⟩
        exact ⟨(hsame low).mpr hlow, (hsame high).mpr hhigh, hlt,
          fun item hitem => hclear item ((hsame item).mp hitem)⟩
    rw [hiff]
  have hperm := (List.perm_ext_iff_of_nodup (hnodup hleft)
    (hnodup hright)).mpr hmem
  refine hperm.eq_of_pairwise ?_ (hordered hleft) (hordered hright)
  intro one other _ _ hlt hgt
  exact absurd (Std.lt_trans hlt hgt) Std.lt_irrefl

end Gaps

end ShadowCopy.Data
