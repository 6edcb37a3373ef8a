import ShadowCopy.Reconstruction.Supply

namespace ShadowCopy.Core

open ShadowCopy.Data

/-- Two images of one length that agree on all a snapshot depends on: the
metadata its construction reads, the saved blocks, and those live blocks that
it still shows. -/
structure AgreesOn [Target] (left right : Image) (volume : VssVolume)
    (snapshot : Snapshot) (headerOff bitmapOff : UInt64) : Prop where
  size : left.size = right.size
  header : left.read 0x1E00 128 = right.read 0x1E00 128
  catalog : ∀ off ∈ catalogInspected left volume.catalogOffset,
    left.blockAt off = right.blockAt off
  diffArea : ∀ off ∈ storeInspected left diffAreaRecordType
      (diffStart headerOff), left.blockAt off = right.blockAt off
  bitmap : ∀ off ∈ storeInspected left bitmapRecordType bitmapOff,
    left.blockAt off = right.blockAt off
  saved : ∀ d ∈ diffDescriptors left (diffStart headerOff),
    d.isPlain = true ∨ d.isPatch = true →
      inRange left d.storeOffset = true →
        left.blockAt d.storeOffset = right.blockAt d.storeOffset
  live : ∀ base : UInt64, base.toNat % blockSize = 0 →
    inRange left base = true →
      (descriptorsFor left (diffStart headerOff) base = [] ∧
          snapshot.bit (base / UInt64.ofNat blockSize) = false) ∨
        (descriptorsFor left (diffStart headerOff) base ≠ [] ∧
          ∀ d ∈ descriptorsFor left (diffStart headerOff) base,
            d.isPlain = false) →
      left.blockAt base = right.blockAt base

theorem baseOf_mod_blockSize (offset : UInt64) :
    (baseOf offset).toNat % blockSize = 0 := by
  rw [toNat_baseOf]
  exact Nat.mul_mod_left _ _

theorem baseOf_div_blockSize (offset : UInt64) :
    baseOf offset / UInt64.ofNat blockSize =
      offset / UInt64.ofNat blockSize := by
  rw [← UInt64.toNat_inj, toNat_div_blockSize, toNat_div_blockSize,
    toNat_baseOf]
  exact Nat.mul_div_cancel _ (by decide)

section Isolation

variable [Target] {left right : Image} {headerOff bitmapOff : UInt64}

theorem AgreesOn.blockOf_eq {volume : VssVolume}
    (h : AgreesOn left right volume (stateOf left headerOff bitmapOff)
      headerOff bitmapOff) (offset : UInt64) :
    (stateOf left headerOff bitmapOff).blockOf left offset =
      (stateOf left headerOff bitmapOff).blockOf right offset := by
  have hlive := h.live (baseOf offset) (baseOf_mod_blockSize offset)
  rw [baseOf_div_blockSize] at hlive
  rw [SnapshotState.blockOf, SnapshotState.blockOf, stateOf_blockMap,
    blockMapOf_get?]
  cases hdescriptors : descriptorsFor left (diffStart headerOff)
      (baseOf offset) with
  | nil =>
      simp only [if_true]
      cases hbit : (stateOf left headerOff bitmapOff).bit
          (offset / UInt64.ofNat blockSize) with
      | true => simp only [if_true]
      | false =>
          simp only [Bool.false_eq_true, if_false]
          exact sourceBlock_congr h.size fun hrange =>
            hlive hrange (.inl ⟨hdescriptors, hbit⟩)
  | cons d rest =>
      simp only [reduceCtorEq, if_false]
      rw [hdescriptors] at hlive
      apply describedBlock_congr h.size
      · intro d hd
        apply h.saved d
        rw [← hdescriptors] at hd
        exact List.mem_of_mem_filter hd
      · intro hplain hrange
        exact hlive hrange (.inr ⟨List.cons_ne_nil _ _, hplain⟩)

theorem snapshot_isolated {volume : VssVolume} {index : Nat}
    {snapshot : Snapshot} {d : StoreDescriptor}
    (hopen : openVolume.runOn left = .ok volume)
    (hsnapshot : (volume.snapshot index).runOn left = .ok snapshot)
    (hstore : volume.stores[index]? = some d)
    (hheader : d.storeHeaderOffset = some headerOff)
    (hbitmap : d.storeBitmapOffset = some bitmapOff)
    (hagree : AgreesOn left right volume snapshot headerOff bitmapOff) :
    openVolume.runOn right = .ok volume ∧
      (volume.snapshot index).runOn right = .ok snapshot ∧
      ∀ len : Nat, len < Target.usizeSize →
        ∀ (offset : UInt64) (buf : Vector UInt8 len), ∃ bytes,
          (Snapshot.readAt snapshot offset buf).runOn left = .ok bytes ∧
            (Snapshot.readAt snapshot offset buf).runOn right = .ok bytes := by
  have hvolume := volume_eq_volumeOf hopen
  have hsame : volumeOf left = volumeOf right := by
    apply volumeOf_congr hagree.size hagree.header
    rw [← hvolume]
    exact hagree.catalog
  have hright : openVolume.runOn right = .ok volume := by
    rw [hvolume, hsame]
    exact (openVolume_runs right).runOn
  have hstate : snapshot = stateOf left headerOff bitmapOff := by
    have htaken := taken_of_store (hvolume ▸ hstore) hheader hbitmap
    rw [← hvolume] at htaken
    exact Outcome.ok.inj (hsnapshot.symm.trans htaken)
  subst hstate
  have hstateRight := stateOf_congr hagree.size hagree.diffArea hagree.bitmap
  have hsnapshotRight : (volume.snapshot index).runOn right =
      .ok (stateOf left headerOff bitmapOff) := by
    rw [hstateRight, hvolume, hsame]
    exact taken_of_store (hsame ▸ hvolume ▸ hstore) hheader hbitmap
  refine ⟨hright, hsnapshotRight, fun len hlen offset buf =>
    ⟨_, readAt_of_taken hopen hsnapshot hlen offset buf, ?_⟩⟩
  rw [readAt_of_taken hright hsnapshotRight hlen offset buf]
  apply congrArg Outcome.ok
  apply Vector.ext
  intro k hk
  simp only [SnapshotState.readAtOf, Vector.getElem_ofFn, SnapshotState.byteOf,
    hagree.blockOf_eq]

end Isolation

/-! Overwriting a saved live block of the sample. -/

def overwritten : Image := sample [(131072, [0xDD])]

theorem overwritten_read {off len : Nat}
    (h : off + len ≤ 131072 ∨ 131072 < off) :
    (sample []).read off len = overwritten.read off len :=
  sample_read fun patch hpatch => by
    rw [List.mem_singleton.mp hpatch, List.length_singleton]
    omega

theorem overwritten_blockAt {off : UInt64}
    (h : off.toNat + blockSize ≤ 131072 ∨ 131072 < off.toNat) :
    (sample []).blockAt off = overwritten.blockAt off :=
  congrArg Vector.toList (overwritten_read h)

theorem overwritten_agrees [Target] : AgreesOn (sample []) overwritten
    (volumeOf (sample [])) (stateOf (sample []) 81920 114688) 81920 114688 where
  size := rfl
  header := overwritten_read (.inl (by decide))
  catalog := by
    rw [sample_catalogInspected]
    exact fun off hoff => overwritten_blockAt
      (by rw [List.mem_singleton.mp hoff]; decide)
  diffArea := by
    rw [storeInspected, sample_newer_diffArea.inspected (by decide)]
    exact fun off hoff => overwritten_blockAt
      (by rw [List.mem_singleton.mp hoff]; decide +kernel)
  bitmap := by
    rw [storeInspected, sample_newer_bitmap.inspected (by decide)]
    exact fun off hoff => overwritten_blockAt
      (by rw [List.mem_singleton.mp hoff]; decide)
  saved := by
    rw [sample_newer_descriptors]
    exact fun d hd _ _ => overwritten_blockAt
      (by rw [List.mem_singleton.mp hd]; decide)
  live := by
    intro base hbase _ hshown
    apply overwritten_blockAt
    rw [blockSize_eq] at hbase ⊢
    by_cases hsaved : base = 131072
    · rw [hsaved, descriptorsFor, sample_newer_descriptors] at hshown
      rcases hshown with ⟨hnone, _⟩ | ⟨_, hplain⟩
      · exact absurd hnone (by decide)
      · exact absurd (hplain sampleDescriptor (by decide)) (by decide)
    · have hne : base.toNat ≠ 131072 := fun h => hsaved
        (UInt64.toNat_inj.mp h)
      omega

theorem snapshot_isolated_overwritten : let _ := Target.bits64
    openVolume.runOn overwritten = .ok (volumeOf (sample [])) ∧
      ((volumeOf (sample [])).snapshot 1).runOn overwritten =
        .ok (stateOf (sample []) 81920 114688) := by
  intro _
  have h := snapshot_isolated (openVolume_runs (sample [])).runOn
    (taken_of_store sample_newer rfl rfl) sample_newer rfl rfl
    overwritten_agrees
  exact ⟨h.1, h.2.1⟩

end ShadowCopy.Core
