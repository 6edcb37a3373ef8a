import Mathlib.Algebra.Order.BigOperators.Group.Finset
import Mathlib.Order.Interval.Finset.Nat
import ShadowCopy.Session.Calls

namespace ShadowCopy.Core

open ShadowCopy.Data

/-! Bounds that hold whatever the image says. -/

section Bounds

variable (image : Image)

theorem blockCalls_le (off : UInt64) : blockCalls image off ≤ 2 := by
  unfold blockCalls
  split
  · exact Nat.le_refl 2
  · exact Nat.zero_le 2

theorem VssVolume.openCalls_le (volume : VssVolume) :
    volume.openCalls image ≤ 3 + 2 * maxCatalogBlocks := by
  have hlength : (catalogInspected image volume.catalogOffset).length ≤
      maxCatalogBlocks := Links.length_inspected_le _ _ _ _
  unfold openCalls
  split <;> split <;> omega

theorem VssVolume.storeInfoCalls_le (volume : VssVolume) (index : Nat) :
    volume.storeInfoCalls image index ≤ 3 := by
  unfold storeInfoCalls
  split
  · exact Nat.zero_le 3
  · split
    · exact Nat.le_refl 3
    · exact Nat.zero_le 3

theorem VssVolume.snapshotCalls_le (volume : VssVolume) (index : Nat) :
    volume.snapshotCalls image index ≤ 4 * maxStoreBlocks := by
  have hlength : ∀ recordType first,
      (storeInspected image recordType first).length ≤ maxStoreBlocks :=
    fun _ _ => Links.length_inspected_le _ _ _ _
  unfold snapshotCalls
  split
  · exact Nat.zero_le _
  · split
    · rename_i headerOff bitmapOff _ _
      have hdiff := hlength diffAreaRecordType (diffStart headerOff)
      have hbitmap := hlength bitmapRecordType bitmapOff
      omega
    · exact Nat.zero_le _

namespace SnapshotState

/-- How many overlays a read of the block at `offset` applies. -/
def overlayCount (state : SnapshotState) (offset : UInt64) : Nat :=
  match state.blockMap[baseOf offset]? with
  | some descriptors => (descriptors.filter BlockDescriptor.isPatch).length
  | none => 0

/-- What reading the block at `offset` may cost: two calls for its base and
two for each overlay. -/
def blockBudget (state : SnapshotState) (offset : UInt64) : Nat :=
  2 * (1 + state.overlayCount offset)

theorem readBlockCalls_le [Target] (state : SnapshotState) (offset : UInt64) :
    state.readBlockCalls image offset ≤ state.blockBudget offset := by
  have hsum : ∀ descriptors : List BlockDescriptor,
      (descriptors.map fun d => blockCalls image d.storeOffset).sum ≤
        2 * descriptors.length := by
    intro descriptors
    induction descriptors with
    | nil => exact Nat.le_refl 0
    | cons d rest ih =>
        have hd := blockCalls_le image d.storeOffset
        rw [List.map_cons, List.sum_cons, List.length_cons]
        omega
  unfold readBlockCalls blockBudget overlayCount
  split
  · rename_i d rest hlookup
    rw [hlookup]
    dsimp only
    have hbase := blockCalls_le image
      (((rfind? BlockDescriptor.isPlain (d :: rest)).map
        BlockDescriptor.storeOffset).getD (baseOf offset))
    have hpatches := hsum ((d :: rest).filter BlockDescriptor.isPatch)
    omega
  · have hbase := blockCalls_le image (baseOf offset)
    split <;> omega

/-- The numbers of the blocks that hold the bytes of a read. -/
def touchedBlocks (offset : UInt64) (len : Nat) : Finset Nat :=
  (Finset.range len).image fun k => position offset k / blockSize

/-- What a read may cost if it reads each block it touches once. -/
def touchedBudget (state : SnapshotState) (offset : UInt64) (len : Nat) : Nat :=
  ∑ number ∈ touchedBlocks offset len,
    state.blockBudget (UInt64.ofNat (number * blockSize))

/-- What a read may cost: past the last position there is, the last block is
read again for every byte. -/
def readBudget (state : SnapshotState) (offset : UInt64) (len : Nat) : Nat :=
  state.touchedBudget offset len +
    (offset.toNat + len - 2 ^ 64) *
      state.blockBudget (UInt64.ofNat (2 ^ 64 - 1))

theorem readBudget_eq_touchedBudget {state : SnapshotState} {offset : UInt64}
    {len : Nat} (hend : offset.toNat + len ≤ 2 ^ 64) :
    state.readBudget offset len = state.touchedBudget offset len := by
  rw [readBudget, Nat.sub_eq_zero_of_le hend, Nat.zero_mul, Nat.add_zero]

theorem card_touchedBlocks_le (offset : UInt64) (len : Nat) :
    (touchedBlocks offset len).card ≤ len / blockSize + 2 := by
  have hcover : touchedBlocks offset len ⊆
      Finset.Ico (offset.toNat / blockSize)
        (offset.toNat / blockSize + (len / blockSize + 2)) := by
    intro number hnumber
    obtain ⟨k, hk, rfl⟩ := Finset.mem_image.mp hnumber
    have hlt := Finset.mem_range.mp hk
    have hoffset := offset.toNat_lt
    rw [Finset.mem_Ico]
    unfold position
    simp only [blockSize_eq]
    omega
  have hcard := Finset.card_le_card hcover
  rwa [Nat.card_Ico, Nat.add_sub_cancel_left] at hcard

theorem readBlockCalls_position_le [Target] (state : SnapshotState)
    (offset : UInt64) (k : Nat) :
    state.readBlockCalls image (UInt64.ofNat (position offset k)) ≤
      state.blockBudget
        (UInt64.ofNat (position offset k / blockSize * blockSize)) := by
  have hbase : UInt64.ofNat (position offset k / blockSize * blockSize) =
      baseOf (UInt64.ofNat (position offset k)) := by
    rw [← UInt64.toNat_ofNat_of_lt' (position_lt offset k), ← toNat_baseOf,
      UInt64.ofNat_toNat, UInt64.toNat_ofNat_of_lt' (position_lt offset k)]
  rw [hbase, ← readBlockCalls_baseOf]
  exact readBlockCalls_le image state _

/-- The beginnings short of the last position lie in blocks of their own. -/
theorem sum_early_le [Target] (state : SnapshotState) (offset : UInt64)
    (len : Nat) :
    ∑ k ∈ Finset.range len with beginsTurn offset k ∧
        offset.toNat + k < 2 ^ 64,
      state.readBlockCalls image (UInt64.ofNat (position offset k)) ≤
        state.touchedBudget offset len := by
  let early := (Finset.range len).filter fun k =>
    beginsTurn offset k ∧ offset.toNat + k < 2 ^ 64
  have hdistinct : Set.InjOn (fun k => position offset k / blockSize)
      early := by
    intro k hk l hl heq
    obtain ⟨_, hbegins, hshort⟩ := Finset.mem_filter.mp hk
    obtain ⟨_, hbegins', hshort'⟩ := Finset.mem_filter.mp hl
    simp only [beginsTurn, Bool.or_eq_true, beq_iff_eq,
      decide_eq_true_eq, blockSize_eq] at hbegins hbegins'
    simp only [position, blockSize_eq] at heq
    omega
  calc ∑ k ∈ early,
        state.readBlockCalls image (UInt64.ofNat (position offset k))
      ≤ ∑ k ∈ early, state.blockBudget
          (UInt64.ofNat (position offset k / blockSize * blockSize)) :=
        Finset.sum_le_sum fun k _ =>
          readBlockCalls_position_le image state offset k
    _ = ∑ number ∈ early.image fun k => position offset k / blockSize,
          state.blockBudget (UInt64.ofNat (number * blockSize)) :=
        by rw [Finset.sum_image hdistinct]
    _ ≤ state.touchedBudget offset len :=
        Finset.sum_le_sum_of_subset
          (Finset.image_subset_image (Finset.filter_subset _ _))

theorem sum_late_le [Target] (state : SnapshotState) (offset : UInt64)
    (len : Nat) :
    ∑ k ∈ Finset.range len with ¬ offset.toNat + k < 2 ^ 64,
      state.readBlockCalls image (UInt64.ofNat (position offset k)) ≤
        (offset.toNat + len - 2 ^ 64) *
          state.blockBudget (UInt64.ofNat (2 ^ 64 - 1)) := by
  let late := (Finset.range len).filter fun k => ¬ offset.toNat + k < 2 ^ 64
  have hlast : ∀ k ∈ late, state.readBlockCalls image
      (UInt64.ofNat (position offset k)) ≤
        state.blockBudget (UInt64.ofNat (2 ^ 64 - 1)) := by
    intro k hk
    have hlate := (Finset.mem_filter.mp hk).2
    have hposition : position offset k = 2 ^ 64 - 1 := by
      unfold position
      omega
    rw [hposition]
    exact readBlockCalls_le image state _
  have hcover : late ⊆ Finset.Ico (2 ^ 64 - offset.toNat) len := by
    intro k hk
    obtain ⟨hrange, hlate⟩ := Finset.mem_filter.mp hk
    rw [Finset.mem_Ico]
    exact ⟨by omega, Finset.mem_range.mp hrange⟩
  have hcard : late.card ≤ offset.toNat + len - 2 ^ 64 := by
    have hle := Finset.card_le_card hcover
    have hoffset := offset.toNat_lt
    rw [Nat.card_Ico] at hle
    omega
  exact Nat.le_trans (Finset.sum_le_card_nsmul late _ _ hlast)
    (Nat.mul_le_mul_right _ hcard)

theorem readAtCalls_le [Target] (state : SnapshotState) (offset : UInt64)
    (len : Nat) :
    state.readAtCalls image offset len ≤ state.readBudget offset len := by
  have hcalls : state.readAtCalls image offset len =
      ∑ k ∈ Finset.range len with beginsTurn offset k,
        state.readBlockCalls image (UInt64.ofNat (position offset k)) := by
    rw [readAtCalls, ← List.sum_toFinset _ (List.nodup_range.filter _),
      List.toFinset_filter, List.toFinset_range]
  have hlate : (Finset.range len).filter (fun k => beginsTurn offset k ∧
      ¬ offset.toNat + k < 2 ^ 64) ⊆
        (Finset.range len).filter fun k => ¬ offset.toNat + k < 2 ^ 64 :=
    Finset.monotone_filter_right _ fun k _ hk => hk.2
  rw [hcalls, ← Finset.sum_filter_add_sum_filter_not _
    (fun k => offset.toNat + k < 2 ^ 64), Finset.filter_filter,
    Finset.filter_filter]
  exact Nat.add_le_add (sum_early_le image state offset len)
    (Nat.le_trans (Finset.sum_le_sum_of_subset hlate)
      (sum_late_le image state offset len))

end SnapshotState

end Bounds

end ShadowCopy.Core
