import ShadowCopy.Reconstruction.View

namespace ShadowCopy.Core

open ShadowCopy.Data

/-! A block map without its not-used descriptors. -/

def stateWith (image : Image) (blockMap : BlockMap) (bitmap : List UInt8) :
    SnapshotState where
  volumeSize := UInt64.ofNat image.size
  blockMap := blockMap
  bitmap := bitmap

def descriptorsAt (blockMap : BlockMap) (base : UInt64) :
    List BlockDescriptor :=
  blockMap[base]?.getD []

def withoutNotUsed (blockMap : BlockMap) : BlockMap :=
  Groups.keepItems (fun d => !d.flags.isNotUsed) blockMap

/-- A byte of a block that has none but not-used descriptors and is marked as
unallocated, where the live volume is not zero. -/
structure Exposed [Target] (image : Image) (blockMap : BlockMap)
    (bitmap : List UInt8) (offset : UInt64) (j : Nat) : Prop where
  described : descriptorsAt blockMap (baseOf offset) ≠ []
  notUsed : ∀ d ∈ descriptorsAt blockMap (baseOf offset),
    d.flags.isNotUsed = true
  unallocated : (stateWith image blockMap bitmap).bit
    (offset / UInt64.ofNat blockSize) = true
  live : sourceByte image (baseOf offset) j ≠ 0

theorem descriptorsAt_withoutNotUsed (blockMap : BlockMap) (base : UInt64) :
    descriptorsAt (withoutNotUsed blockMap) base =
      (descriptorsAt blockMap base).filter fun d => !d.flags.isNotUsed :=
  Groups.getElem?_keepItems _ blockMap base

section Blocks

variable [Target] {image : Image} {blockMap : BlockMap} {bitmap : List UInt8}

/-- The bitmap does not see which descriptors are filed. -/
theorem bit_withoutNotUsed (n : UInt64) :
    (stateWith image (withoutNotUsed blockMap) bitmap).bit n =
      (stateWith image blockMap bitmap).bit n := rfl

theorem getElem_blockOf_stateWith (offset : UInt64) (j : Nat)
    (hj : j < blockSize) :
    ((stateWith image blockMap bitmap).blockOf image offset)[j] =
      if descriptorsAt blockMap (baseOf offset) = [] then
        if (stateWith image blockMap bitmap).bit
            (offset / UInt64.ofNat blockSize) then
          0
        else
          sourceByte image (baseOf offset) j
      else
        (storeLayer image (descriptorsAt blockMap (baseOf offset))).onto
          (sourceByte image (baseOf offset)) j := by
  have hundescribed : (if (stateWith image blockMap bitmap).bit
      (offset / UInt64.ofNat blockSize) then zeroBlock
        else sourceBlock image (baseOf offset))[j] =
      if (stateWith image blockMap bitmap).bit
          (offset / UInt64.ofNat blockSize) then
        0
      else
        sourceByte image (baseOf offset) j := by
    split
    · exact getElem_zeroBlock j hj
    · exact getElem_sourceBlock image _ j hj
  have hmap : (stateWith image blockMap bitmap).blockMap = blockMap := rfl
  unfold descriptorsAt SnapshotState.blockOf
  rw [hmap]
  cases blockMap[baseOf offset]? with
  | none => exact hundescribed
  | some descriptors =>
      cases descriptors with
      | nil => exact hundescribed
      | cons d rest => exact getElem_describedBlock image _ _ j hj

theorem blockOf_withoutNotUsed_iff (offset : UInt64) (j : Nat)
    (hj : j < blockSize) :
    ((stateWith image (withoutNotUsed blockMap) bitmap).blockOf image
        offset)[j] =
      ((stateWith image blockMap bitmap).blockOf image offset)[j] ↔
      ¬ Exposed image blockMap bitmap offset j := by
  rw [getElem_blockOf_stateWith, getElem_blockOf_stateWith,
    descriptorsAt_withoutNotUsed, storeLayer_filter, bit_withoutNotUsed]
  by_cases hnone : descriptorsAt blockMap (baseOf offset) = []
  · rw [hnone]
    exact iff_of_true rfl fun h => h.described hnone
  · by_cases hused : (descriptorsAt blockMap (baseOf offset)).filter
        (fun d => !d.flags.isNotUsed) = []
    · have hall : ∀ d ∈ descriptorsAt blockMap (baseOf offset),
          d.flags.isNotUsed = true := by
        intro d hd
        have hdrop := List.filter_eq_nil_iff.mp hused d hd
        simpa using hdrop
      have hlayer : storeLayer image
          (descriptorsAt blockMap (baseOf offset)) j = none := by
        rw [← storeLayer_filter, hused]
        rfl
      rw [if_pos hused, if_neg hnone, Layer.onto, hlayer, Option.getD_none]
      constructor
      · intro h hexposed
        rw [if_pos hexposed.unallocated] at h
        exact hexposed.live h.symm
      · intro h
        split
        · rename_i hset
          by_contra hlive
          exact h ⟨hnone, hall, hset, fun hzero => hlive hzero.symm⟩
        · rfl
    · rw [if_neg hused, if_neg hnone]
      refine iff_of_true rfl fun h => hused ?_
      apply List.filter_eq_nil_iff.mpr
      intro d hd
      rw [h.notUsed d hd]
      exact Bool.false_ne_true

theorem byteOf_withoutNotUsed_iff (position : Nat) :
    (stateWith image (withoutNotUsed blockMap) bitmap).byteOf image position =
      (stateWith image blockMap bitmap).byteOf image position ↔
      ¬ Exposed image blockMap bitmap (UInt64.ofNat position)
        (position % blockSize) :=
  blockOf_withoutNotUsed_iff _ _ (mod_blockSize_lt position)

theorem blockOf_withoutNotUsed_eq_iff (offset : UInt64) :
    (stateWith image (withoutNotUsed blockMap) bitmap).blockOf image offset =
      (stateWith image blockMap bitmap).blockOf image offset ↔
      ∀ j, j < blockSize → ¬ Exposed image blockMap bitmap offset j := by
  constructor
  · intro hsame j hj
    exact (blockOf_withoutNotUsed_iff offset j hj).mp (by rw [hsame])
  · intro h
    apply Vector.ext
    intro j hj
    exact (blockOf_withoutNotUsed_iff offset j hj).mpr (h j hj)

theorem readAtOf_withoutNotUsed_eq_iff (offset : UInt64) (len : Nat) :
    (stateWith image (withoutNotUsed blockMap) bitmap).readAtOf image offset
        len =
      (stateWith image blockMap bitmap).readAtOf image offset len ↔
      ∀ k, k < len → ¬ Exposed image blockMap bitmap
        (UInt64.ofNat (SnapshotState.position offset k))
        (SnapshotState.position offset k % blockSize) := by
  have hget : ∀ state : SnapshotState, ∀ k (hk : k < len),
      (state.readAtOf image offset len)[k] =
        state.byteOf image (SnapshotState.position offset k) := by
    intro state k hk
    rw [SnapshotState.readAtOf, Vector.getElem_ofFn]
  constructor
  · intro hsame k hk
    apply (byteOf_withoutNotUsed_iff _).mp
    rw [← hget _ k hk, ← hget _ k hk, hsame]
  · intro h
    apply Vector.ext
    intro k hk
    rw [hget, hget]
    exact (byteOf_withoutNotUsed_iff _).mpr (h k hk)

theorem blockOf_withoutNotUsed {offset : UInt64}
    (h : ∀ d ∈ descriptorsAt blockMap (baseOf offset),
      d.flags.isNotUsed = true) :
    (stateWith image (withoutNotUsed blockMap) bitmap).blockOf image offset =
      if (stateWith image blockMap bitmap).bit
          (offset / UInt64.ofNat blockSize) then
        zeroBlock
      else
        sourceBlock image (baseOf offset) := by
  have hnone : descriptorsAt (withoutNotUsed blockMap) (baseOf offset) =
      [] := by
    rw [descriptorsAt_withoutNotUsed]
    apply List.filter_eq_nil_iff.mpr
    intro d hd
    rw [h d hd]
    exact Bool.false_ne_true
  apply Vector.ext
  intro j hj
  rw [getElem_blockOf_stateWith, if_pos hnone, bit_withoutNotUsed]
  split
  · exact (getElem_zeroBlock j hj).symm
  · exact (getElem_sourceBlock image _ j hj).symm

end Blocks

/-- Dropping the not-used descriptors of a block map changes exactly the bytes
they expose: those of a live block that the bitmap marks as unallocated. -/
theorem notUsed_dropped_iff [Target] (image : Image) (blockMap : BlockMap)
    (bitmap : List UInt8) :
    (∀ offset, ∃ kept dropped,
      Returns image ((stateWith image blockMap bitmap).readBlock offset) kept ∧
      Returns image ((stateWith image (withoutNotUsed blockMap)
        bitmap).readBlock offset) dropped ∧
      (dropped = kept ↔ ∀ j, j < blockSize →
        ¬ Exposed image blockMap bitmap offset j)) ∧
    (∀ len, len < Target.usizeSize → ∀ offset (buf : Vector UInt8 len),
      ∃ kept dropped,
        Returns image ((stateWith image blockMap bitmap).readAt offset buf)
          kept ∧
        Returns image ((stateWith image (withoutNotUsed blockMap)
          bitmap).readAt offset buf) dropped ∧
        (dropped = kept ↔ ∀ k, k < len →
          ¬ Exposed image blockMap bitmap
            (UInt64.ofNat (SnapshotState.position offset k))
            (SnapshotState.position offset k % blockSize))) ∧
    ∀ offset, (∀ d ∈ descriptorsAt blockMap (baseOf offset),
        d.flags.isNotUsed = true) →
      Returns image ((stateWith image (withoutNotUsed blockMap)
          bitmap).readBlock offset)
        (if (stateWith image blockMap bitmap).bit
            (offset / UInt64.ofNat blockSize) then
          zeroBlock
        else
          sourceBlock image (baseOf offset)) := by
  refine ⟨fun offset => ?_, fun len hlen offset buf => ?_, fun offset h => ?_⟩
  · exact ⟨_, _, (SnapshotState.readBlock_runs rfl offset).yields rfl,
      (SnapshotState.readBlock_runs rfl offset).yields rfl,
      blockOf_withoutNotUsed_eq_iff offset⟩
  · exact ⟨_, _, (SnapshotState.readAt_runs rfl hlen offset buf).yields rfl,
      (SnapshotState.readAt_runs rfl hlen offset buf).yields rfl,
      readAtOf_withoutNotUsed_eq_iff offset len⟩
  · exact (SnapshotState.readBlock_runs rfl offset).yields
      (congrArg Outcome.ok (blockOf_withoutNotUsed h))

/-! A block whose only descriptor is not used. -/

def unused : Image :=
  sample [(98456, [4]), (114817, [1])]

theorem unused_volumeOf : volumeOf unused = volumeOf (sample []) :=
  sample_volumeOf (by decide)

theorem unused_newer : (volumeOf unused).stores[1]? =
    some ⟨sampleGuid 2, 0, 0, 0, 2, some 81920, some 114688⟩ := by
  rw [unused_volumeOf]
  exact sample_newer

theorem unused_descriptors :
    descriptorsFor unused (diffStart 81920) 131072 =
      [⟨131072, 0, 147456, ⟨4⟩, 0⟩] := by
  have hdiff : ChainEnd unused diffAreaRecordType (diffStart 81920) := by
    decide +kernel
  rw [descriptorsFor, hdiff.diffDescriptors]
  decide +kernel

theorem unused_bitmap_byte :
    (bitmapOf unused 114688)[1]? = some 1 := by
  have hbitmap : ChainEnd unused bitmapRecordType 114688 := by decide +kernel
  rw [hbitmap.bitmapOf, List.getElem?_drop, Image.blockAt,
    Vector.getElem?_toList, Vector.getElem?_eq_getElem (by decide),
    Image.getElem_read]
  decide +kernel

theorem unused_live : sourceByte unused 131072 0 = 0xAA := by
  decide +kernel

theorem exposed_of_unused {image : Image} {blockMap : BlockMap}
    {bitmap : List UInt8}
    (hmap : descriptorsAt blockMap 131072 = [⟨131072, 0, 147456, ⟨4⟩, 0⟩])
    (hbyte : bitmap[1]? = some 1) (hlive : sourceByte image 131072 0 = 0xAA) :
    let _ := Target.bits64
    Exposed image blockMap bitmap 131072 0 := by
  intro _
  have hnumber : (131072 : UInt64) / UInt64.ofNat blockSize = 8 := rfl
  have hbase : baseOf 131072 = 131072 := baseOf_eq_self rfl
  have hplace : usizeTryFrom ((8 : UInt64) / 8) = some 1 := by decide
  constructor
  · rw [hbase, hmap]
    exact List.cons_ne_nil _ _
  · rw [hbase, hmap]
    intro d hd
    rw [List.mem_singleton.mp hd]
    rfl
  · rw [hnumber, SnapshotState.bit, hplace, Option.bind_some, stateWith,
      hbyte]
    rfl
  · rw [hbase, hlive]
    decide

theorem notUsed_dropped_unused : let _ := Target.bits64
    ∃ volume snapshot kept dropped,
      openVolume.runOn unused = .ok volume ∧
      (volume.snapshot 1).runOn unused = .ok snapshot ∧
      (SnapshotState.readBlock snapshot 131072).runOn unused = .ok kept ∧
      (SnapshotState.readBlock { snapshot with
          blockMap := withoutNotUsed (SnapshotState.blockMap snapshot) }
        131072).runOn unused = .ok dropped ∧
      dropped ≠ kept := by
  intro _
  have hstore := unused_newer
  have hdescriptors := unused_descriptors
  have hbyte := unused_bitmap_byte
  have hlive := unused_live
  generalize unused = image at *
  have hsnapshot := taken_of_store hstore rfl rfl
  have hmap : descriptorsAt (blockMapOf image (diffStart 81920)) 131072 =
      [⟨131072, 0, 147456, ⟨4⟩, 0⟩] := by
    rw [descriptorsAt, blockMapOf_get?, hdescriptors]
    rfl
  have hexposed := exposed_of_unused hmap hbyte hlive
  have hstate : stateOf image 81920 114688 = stateWith image
      (blockMapOf image (diffStart 81920)) (bitmapOf image 114688) := by
    rw [stateOf, stateWith]
  rw [hstate] at hsnapshot
  generalize blockMapOf image (diffStart 81920) = blockMap at *
  generalize bitmapOf image 114688 = bitmap at *
  refine ⟨volumeOf image, _, _, _, (openVolume_runs image).runOn, hsnapshot,
    (SnapshotState.readBlock_runs rfl 131072).runOn,
    (SnapshotState.readBlock_runs rfl 131072).runOn, fun hsame => ?_⟩
  refine (blockOf_withoutNotUsed_iff 131072 0 (by decide)).mp ?_ hexposed
  exact congrArg (fun block : Block => block.get ⟨0, by decide⟩) hsame

end ShadowCopy.Core
