import ShadowCopy.Reconstruction.Supply

namespace ShadowCopy.Core

open ShadowCopy.Data

/-! When the order of the records of a diff area is of no consequence. -/

/-- No block has two plain records, or two overlays of one sub-block. -/
def Unambiguous (records : List BlockDescriptor) : Prop :=
  records.Pairwise fun d e => d.originalOffset = e.originalOffset →
    ¬ (d.isPlain = true ∧ e.isPlain = true) ∧
      ∀ sub, ¬ ((d.isPatch = true ∧ d.allocationBitmap.toNat.testBit sub) ∧
        e.isPatch = true ∧ e.allocationBitmap.toNat.testBit sub)

/-- The state of a snapshot with these records. -/
def stateFrom (image : Image) (records : List BlockDescriptor)
    (bitmap : List UInt8) : SnapshotState where
  volumeSize := UInt64.ofNat image.size
  blockMap := records.foldl (Groups.push BlockDescriptor.originalOffset) ∅
  bitmap := bitmap

theorem stateOf_eq_stateFrom (image : Image) (headerOff bitmapOff : UInt64) :
    stateOf image headerOff bitmapOff =
      stateFrom image (diffDescriptors image (diffStart headerOff))
        (bitmapOf image bitmapOff) := by
  rw [stateOf, blockMapOf, stateFrom]

section Order

variable {image : Image} {records others : List BlockDescriptor}

/-- The records of one block supply the same bytes in any order. -/
theorem storeLayer_perm (hperm : records.Perm others)
    (h : Unambiguous records) {base : UInt64}
    (hbase : ∀ d ∈ records, d.originalOffset = base) :
    storeLayer image records = storeLayer image others := by
  have hsame : ∀ {d e}, d ∈ records → e ∈ records →
      d.originalOffset = e.originalOffset := fun hd he =>
    (hbase _ hd).trans (hbase _ he).symm
  funext j
  have hpatch : rfind? (fun d => d.isPatch && d.covers image j) records =
      rfind? (fun d => d.isPatch && d.covers image j) others := by
    apply rfind?_perm hperm
    refine h.imp_of_mem fun hd he hpair hboth => ?_
    simp only [BlockDescriptor.covers, Bool.and_eq_true] at hboth
    exact (hpair (hsame hd he)).2 (j / subBlockSize)
      ⟨⟨hboth.1.1, hboth.1.2.2⟩, hboth.2.1, hboth.2.2.2⟩
  have hplain : rfind? BlockDescriptor.isPlain records =
      rfind? BlockDescriptor.isPlain others := by
    apply rfind?_perm hperm
    exact h.imp_of_mem fun hd he hpair => (hpair (hsame hd he)).1
  rw [storeLayer_apply, storeLayer_apply, plainLayer, plainLayer, hpatch,
    hplain]

theorem Unambiguous.filter (h : Unambiguous records)
    (keep : BlockDescriptor → Bool) : Unambiguous (records.filter keep) :=
  List.Pairwise.filter keep h

theorem describedBlock_perm (hperm : records.Perm others)
    (h : Unambiguous records) {base : UInt64}
    (hbase : ∀ d ∈ records, d.originalOffset = base) :
    describedBlock image base records = describedBlock image base others := by
  apply Vector.ext
  intro j hj
  rw [getElem_describedBlock, getElem_describedBlock,
    storeLayer_perm hperm h hbase]

theorem blockMap_stateFrom (bitmap : List UInt8) (base : UInt64) :
    (stateFrom image records bitmap).blockMap[base]? =
      if records.filter (fun d => d.originalOffset = base) = [] then none
      else some (records.filter fun d => d.originalOffset = base) := by
  rw [stateFrom, Groups.getElem?_foldl_push]
  simp

theorem blockOf_perm [Target] (hperm : records.Perm others)
    (h : Unambiguous records) (bitmap : List UInt8) (offset : UInt64) :
    (stateFrom image records bitmap).blockOf image offset =
      (stateFrom image others bitmap).blockOf image offset := by
  have hlisted := hperm.filter fun d => d.originalOffset = baseOf offset
  have hblock : describedBlock image (baseOf offset) _ =
      describedBlock image (baseOf offset) _ :=
    describedBlock_perm hlisted (h.filter _) fun d hd =>
      of_decide_eq_true (List.mem_filter.mp hd).2
  have hbit : (stateFrom image records bitmap).bit =
      (stateFrom image others bitmap).bit := rfl
  unfold SnapshotState.blockOf
  rw [blockMap_stateFrom, blockMap_stateFrom, hbit]
  generalize records.filter (fun d => d.originalOffset = baseOf offset) =
    left at hlisted hblock
  generalize others.filter (fun d => d.originalOffset = baseOf offset) =
    right at hlisted hblock
  cases left with
  | nil =>
      obtain rfl := hlisted.nil_eq
      rfl
  | cons d rest =>
      cases right with
      | nil => exact absurd hlisted.eq_nil (List.cons_ne_nil _ _)
      | cons e more => simpa using hblock

end Order

/-- A snapshot reads by the records of its diff area. However they are ordered,
it reads the same, as long as no two of them compete for a sub-block. -/
theorem record_order_is_free [Target] {image : Image}
    {records others : List BlockDescriptor} (hperm : records.Perm others)
    (h : Unambiguous records) (bitmap : List UInt8) {len : Nat}
    (hlen : len < Target.usizeSize) (offset : UInt64)
    (buf : Vector UInt8 len) :
    (∀ headerOff bitmapOff, stateOf image headerOff bitmapOff =
      stateFrom image (diffDescriptors image (diffStart headerOff))
        (bitmapOf image bitmapOff)) ∧
    (∃ block, Returns image
        ((stateFrom image records bitmap).readBlock offset) block ∧
      Returns image ((stateFrom image others bitmap).readBlock offset) block) ∧
    ∃ bytes, Returns image
        ((stateFrom image records bitmap).readAt offset buf) bytes ∧
      Returns image ((stateFrom image others bitmap).readAt offset buf)
        bytes := by
  have hblock : ∀ cursor,
      (stateFrom image others bitmap).blockOf image cursor =
        (stateFrom image records bitmap).blockOf image cursor :=
    fun cursor => (blockOf_perm hperm h bitmap cursor).symm
  have hbytes : (stateFrom image others bitmap).readAtOf image offset len =
      (stateFrom image records bitmap).readAtOf image offset len := by
    apply Vector.ext
    intro k hk
    simp only [SnapshotState.readAtOf, SnapshotState.byteOf, Vector.getElem_ofFn,
      hblock]
  refine ⟨stateOf_eq_stateFrom image, ?_, ?_⟩
  · exact ⟨_, (SnapshotState.readBlock_runs rfl offset).yields rfl,
      (SnapshotState.readBlock_runs rfl offset).yields
        (congrArg Outcome.ok (hblock offset))⟩
  · exact ⟨_, (SnapshotState.readAt_runs rfl hlen offset buf).yields rfl,
      (SnapshotState.readAt_runs rfl hlen offset buf).yields
        (congrArg Outcome.ok hbytes)⟩

/-! A saved block and an overlay of its first sub-block. -/

def pairRecords : List BlockDescriptor :=
  [⟨0, 0, 16384, ⟨0⟩, 0⟩, ⟨0, 0, 32768, ⟨2⟩, 1⟩]

def pairImage : Image :=
  .ofPatches 49153 (by decide) [(16384, [0xAA, 0xAA]), (32768, [0xBB])]

theorem pairRecords_unambiguous : Unambiguous pairRecords := by
  refine List.pairwise_cons.mpr ⟨fun e he _ => ?_, List.pairwise_singleton _ _⟩
  rw [List.mem_singleton.mp he]
  exact ⟨by decide, fun sub h => absurd h.1.1 (by decide)⟩

theorem record_order_is_free_pair : let _ := Target.bits64
    ∃ bytes,
      Returns pairImage ((stateFrom pairImage pairRecords []).readAt 0
        (Vector.replicate 2 0)) bytes ∧
      Returns pairImage ((stateFrom pairImage pairRecords.reverse []).readAt 0
        (Vector.replicate 2 0)) bytes := by
  intro _
  exact (record_order_is_free (List.reverse_perm pairRecords).symm
    pairRecords_unambiguous [] (by decide) 0 (Vector.replicate 2 0)).2.2

end ShadowCopy.Core
