import ShadowCopy.Reconstruction.Supply

namespace ShadowCopy.Core

open ShadowCopy.Data

/-! Reads in the last block of the volume, and past it. -/

section Taken

variable [Target] {image : Image} {volume : VssVolume} {index : Nat}
  {snapshot : Snapshot}

theorem byteOf_taken (hopen : openVolume.runOn image = .ok volume)
    (hsnapshot : (volume.snapshot index).runOn image = .ok snapshot)
    (position : UInt64) :
    snapshot.byteOf image position.toNat =
      (storeLayer image
        (volume.descriptorsOf image index (baseOf position))).onto
          (beneath image (volume.descriptorsOf image index (baseOf position))
            (snapshot.bit (position / UInt64.ofNat blockSize))
            (baseOf position))
          (position.toNat % blockSize) := by
  rw [SnapshotState.byteOf, UInt64.ofNat_toNat,
    ← getElem_blockOf hopen hsnapshot position _ (mod_blockSize_lt _)]
  rfl

omit [Target] in
theorem sourceByte_position (image : Image) (position : UInt64) :
    sourceByte image (baseOf position) (position.toNat % blockSize) =
      if position.toNat / blockSize * blockSize + blockSize ≤ image.size then
        image.byteAt position.toNat
      else
        0 := by
  rw [sourceByte, inRange, baseOf_toNat_add_mod, toNat_baseOf]
  simp only [decide_eq_true_eq]

theorem openSource_of_taken (hopen : openVolume.runOn image = .ok volume)
    (hsnapshot : (volume.snapshot index).runOn image = .ok snapshot) :
    (VssSnapshotSource.openSource index).runOn image =
      .ok (VssSnapshotSource.sourceOf image snapshot) := by
  have hstate := snapshotStateOf_of_taken hopen hsnapshot
  rw [volume_eq_volumeOf hopen] at hstate
  rw [(VssSnapshotSource.openSource_runs index).runOn, hstate]

omit [Target] in
theorem position_eq {offset position : UInt64} {k : Nat}
    (h : offset.toNat + k = position.toNat) :
    SnapshotState.position offset k = position.toNat := by
  have hlt := position.toNat_lt
  unfold SnapshotState.position
  omega

theorem byteOf_passthrough (hopen : openVolume.runOn image = .ok volume)
    (hsnapshot : (volume.snapshot index).runOn image = .ok snapshot)
    (position : UInt64)
    (hnone : volume.descriptorsOf image index (baseOf position) = [])
    (hbit : snapshot.bit (position / UInt64.ofNat blockSize) = false) :
    snapshot.byteOf image position.toNat =
      if position.toNat / blockSize * blockSize + blockSize ≤ image.size then
        image.byteAt position.toNat
      else
        0 := by
  rw [byteOf_taken hopen hsnapshot, hnone, hbit, ← sourceByte_position]
  simp [Layer.onto, storeLayer_nil, beneath]

/-- A byte that no store has saved and the bitmap does not mark is passed
through, unless it lies in a last block that is not whole: there it reads as
zero. -/
theorem readAt_passthrough_iff (hopen : openVolume.runOn image = .ok volume)
    (hsnapshot : (volume.snapshot index).runOn image = .ok snapshot)
    (position : UInt64) (hposition : position.toNat < image.size)
    (hnone : ∀ store, store < volume.storeCount →
      volume.descriptorsOf image store (baseOf position) = [])
    (hbit : snapshot.bit (position / UInt64.ofNat blockSize) = false)
    {len : Nat} (hlen : len < Target.usizeSize) (offset : UInt64)
    (buf : Vector UInt8 len) (k : Nat) (hk : k < len)
    (hoffset : offset.toNat + k = position.toNat) :
    (∃ bytes, (Snapshot.readAt snapshot offset buf).runOn image = .ok bytes ∧
      (bytes[k] = image.byteAt position.toNat ↔
        position.toNat / blockSize * blockSize + blockSize ≤ image.size ∨
          image.byteAt position.toNat = 0)) ∧
    ∃ source count bytes,
      (VssSnapshotSource.openSource index).runOn image = .ok source ∧
      source.len.toNat = image.size ∧
      (source.readAt offset buf).runOn image = .ok (count, bytes) ∧
      k < count ∧
      (bytes[k] = image.byteAt position.toNat ↔
        position.toNat / blockSize * blockSize + blockSize ≤ image.size ∨
          image.byteAt position.toNat = 0) := by
  have hbyte := byteOf_passthrough hopen hsnapshot position
    (hnone index (index_lt_of_taken hopen hsnapshot)) hbit
  have hiff : snapshot.byteOf image position.toNat =
      image.byteAt position.toNat ↔
        position.toNat / blockSize * blockSize + blockSize ≤ image.size ∨
          image.byteAt position.toNat = 0 := by
    rw [hbyte]
    split
    · rename_i hwhole
      exact ⟨fun _ => .inl hwhole, fun _ => rfl⟩
    · rename_i hpartial
      exact ⟨fun h => .inr h.symm, fun h =>
        (h.resolve_left hpartial).symm⟩
  constructor
  · refine ⟨_, readAt_of_taken hopen hsnapshot hlen offset buf, ?_⟩
    rw [SnapshotState.readAtOf, Vector.getElem_ofFn, position_eq hoffset]
    exact hiff
  · have hsize : (VssSnapshotSource.sourceOf image snapshot).state.volumeSize =
        UInt64.ofNat image.size := volumeSize_of_taken hopen hsnapshot
    have hread := VssSnapshotSource.readAt_runs hsize hlen offset buf
    have hcount : k < (VssSnapshotSource.sourceOf image snapshot).want offset
        len := by
      rw [VssSnapshotSource.want_eq _ hlen]
      change k < min len ((UInt64.ofNat image.size).toNat - offset.toNat)
      rw [image.toNat_volumeSize]
      omega
    refine ⟨_, _, _, openSource_of_taken hopen hsnapshot,
      image.toNat_volumeSize, hread.runOn, hcount, ?_⟩
    rw [VssSnapshotSource.readAtOf, Vector.getElem_ofFn, if_pos hcount,
      position_eq hoffset]
    exact hiff

end Taken

theorem sample_descriptorsOf_eq_nil {base : UInt64} (hbase : base ≠ 131072)
    (store : Nat) (hstore : store < (volumeOf (sample [])).storeCount) :
    (volumeOf (sample [])).descriptorsOf (sample []) store base = [] := by
  have hcount : (volumeOf (sample [])).storeCount = 2 := by
    rw [VssVolume.storeCount, sample_stores]
    rfl
  have hcases : store = 0 ∨ store = 1 := by omega
  rcases hcases with rfl | rfl
  · rw [VssVolume.descriptorsOf_eq sample_older rfl, descriptorsFor,
      sample_older_descriptors]
    rfl
  · rw [VssVolume.descriptorsOf_eq sample_newer rfl, descriptorsFor,
      sample_newer_descriptors]
    simp [sampleDescriptor, hbase.symm]

theorem readAt_passthrough_whole : let _ := Target.bits64
    ∃ bytes : Vector UInt8 1,
      (Snapshot.readAt (stateOf (sample []) 32768 65536) 0x1E00
        (Vector.replicate 1 0)).runOn (sample []) = .ok bytes ∧
      bytes[0] = 0x6b := by
  intro _
  obtain ⟨bytes, hread, hbyte⟩ := (readAt_passthrough_iff
    (openVolume_runs (sample [])).runOn (taken_of_store sample_older rfl rfl)
    0x1E00 (by decide) (sample_descriptorsOf_eq_nil (by decide +kernel))
    (sample_older_bit _) (by decide) 0x1E00 (Vector.replicate 1 0) 0
    (by decide) rfl).1
  refine ⟨bytes, hread, (hbyte.mpr (.inl (by decide))).trans ?_⟩
  decide +kernel

/-- The last byte of a volume whose last block is not whole. -/
theorem readAt_passthrough_tail : let _ := Target.bits64
    ∃ volume snapshot, openVolume.runOn (sample []) = .ok volume ∧
      (volume.snapshot 0).runOn (sample []) = .ok snapshot ∧
      163840 < (sample []).size ∧
      (∀ store, store < volume.storeCount →
        volume.descriptorsOf (sample []) store 163840 = []) ∧
      snapshot.bit (163840 / UInt64.ofNat blockSize) = false ∧
      ∃ bytes : Vector UInt8 1,
        (Snapshot.readAt snapshot 163840 (Vector.replicate 1 0)).runOn
          (sample []) = .ok bytes ∧
        bytes[0] ≠ (sample []).byteAt 163840 := by
  intro _
  have hopen := (openVolume_runs (sample [])).runOn
  have hsnapshot := taken_of_store sample_older rfl rfl
  have hnone := sample_descriptorsOf_eq_nil
    (show (163840 : UInt64) ≠ 131072 by decide)
  have hbit := sample_older_bit (163840 / UInt64.ofNat blockSize)
  refine ⟨_, _, hopen, hsnapshot, by decide, hnone, hbit, _,
    readAt_of_taken hopen hsnapshot (by decide) 163840 (Vector.replicate 1 0),
    ?_⟩
  have hbase : baseOf 163840 = 163840 := by decide +kernel
  have hbyte := byteOf_passthrough hopen hsnapshot 163840
    (hbase.symm ▸ hnone 0 (index_lt_of_taken hopen hsnapshot)) hbit
  rw [SnapshotState.readAtOf, Vector.getElem_ofFn]
  change SnapshotState.byteOf _ _ (163840 : UInt64).toNat ≠ _
  rw [hbyte]
  decide +kernel

section PastEnd

variable [Target] {image : Image} {volume : VssVolume} {index : Nat}
  {snapshot : Snapshot}

/-- What a snapshot supplies for a byte is zero, if anything. -/
def SuppliesZero (volume : VssVolume) (image : Image) (index : Nat)
    (base : UInt64) (j : Nat) : Prop :=
  ∀ value, storeLayer image (volume.descriptorsOf image index base) j =
    some value → value = 0

omit [Target] in
theorem onto_eq_zero_iff {unallocated : Bool} {base : UInt64} {j : Nat}
    (h : image.size ≤ base.toNat + j) :
    (storeLayer image (volume.descriptorsOf image index base)).onto
        (beneath image (volume.descriptorsOf image index base) unallocated
          base) j = 0 ↔
      SuppliesZero volume image index base j := by
  have hbeneath : beneath image (volume.descriptorsOf image index base)
      unallocated base j = 0 := by
    unfold beneath sourceByte
    rw [Image.byteAt_eq_zero h]
    simp
  rw [SuppliesZero, Layer.onto, hbeneath]
  cases storeLayer image (volume.descriptorsOf image index base) j <;> simp

/-- A byte past the end of the volume is zero unless the store's diff area
supplies it: descriptors are looked up before the end is. -/
theorem read_past_end_iff (hopen : openVolume.runOn image = .ok volume)
    (hsnapshot : (volume.snapshot index).runOn image = .ok snapshot) :
    (∀ len : Nat, len < Target.usizeSize →
      ∀ (offset : UInt64) (buf : Vector UInt8 len), ∃ bytes,
        (Snapshot.readAt snapshot offset buf).runOn image = .ok bytes ∧
        ∀ k (hk : k < len), image.size ≤ offset.toNat + k →
          (bytes[k] = 0 ↔
            SuppliesZero volume image index
              (baseOf (UInt64.ofNat (SnapshotState.position offset k)))
              (SnapshotState.position offset k % blockSize))) ∧
    ∀ offset : UInt64, ∃ block,
      (Snapshot.readBlock snapshot offset).runOn image = .ok block ∧
      ∀ j (hj : j < blockSize),
        image.size ≤ offset.toNat / blockSize * blockSize + j →
          (block[j] = 0 ↔
            SuppliesZero volume image index (baseOf offset) j) := by
  constructor
  · intro len hlen offset buf
    refine ⟨_, readAt_of_taken hopen hsnapshot hlen offset buf,
      fun k hk hend => ?_⟩
    have hlt := image.size_lt
    have hnat : (UInt64.ofNat (SnapshotState.position offset k)).toNat =
        SnapshotState.position offset k :=
      UInt64.toNat_ofNat_of_lt' (SnapshotState.position_lt offset k)
    have hpast : image.size ≤ SnapshotState.position offset k := by
      unfold SnapshotState.position
      omega
    rw [SnapshotState.readAtOf, Vector.getElem_ofFn]
    have hbyte := byteOf_taken hopen hsnapshot
      (UInt64.ofNat (SnapshotState.position offset k))
    rw [hnat] at hbyte
    rw [hbyte]
    apply onto_eq_zero_iff
    have hsplit := baseOf_toNat_add_mod
      (UInt64.ofNat (SnapshotState.position offset k))
    rw [hnat] at hsplit
    rw [hsplit]
    exact hpast
  · intro offset
    refine ⟨_, readBlock_of_taken hopen hsnapshot offset, fun j hj hend => ?_⟩
    rw [getElem_blockOf hopen hsnapshot]
    apply onto_eq_zero_iff
    rw [toNat_baseOf]
    exact hend

end PastEnd

theorem read_past_end_sample : let _ := Target.bits64
    ∃ block : Block,
      (Snapshot.readBlock (stateOf (sample []) 32768 65536) 180224).runOn
        (sample []) = .ok block ∧ ∀ hj : 0 < blockSize, block[0] = 0 := by
  intro _
  have hopen := (openVolume_runs (sample [])).runOn
  have hsnapshot := taken_of_store sample_older rfl rfl
  obtain ⟨block, hread, hbytes⟩ :=
    (read_past_end_iff hopen hsnapshot).2 180224
  refine ⟨block, hread, fun hj => (hbytes 0 hj (by decide)).mpr ?_⟩
  have hbase : baseOf 180224 = 180224 := by decide +kernel
  rw [SuppliesZero, hbase, sample_descriptorsOf_eq_nil (by decide) 0
    (index_lt_of_taken hopen hsnapshot), storeLayer_nil]
  exact fun _ h => nomatch h

def strayed : Image :=
  sample [(49280, encodeU64 180224), (49296, encodeU64 147456)]

theorem strayed_older : (volumeOf strayed).stores[0]? =
    some ⟨sampleGuid 1, 0, 0, 0, 1, some 32768, some 65536⟩ := by
  rw [strayed, sample_volumeOf (by decide)]
  exact sample_older

theorem strayed_descriptors :
    diffDescriptors strayed (diffStart 32768) =
      [⟨180224, 0, 147456, ⟨0⟩, 0⟩] := by
  have hdiff : ChainEnd strayed diffAreaRecordType (diffStart 32768) := by
    decide +kernel
  rw [hdiff.diffDescriptors]
  decide +kernel

theorem read_past_end_strayed : let _ := Target.bits64
    ∃ volume snapshot, openVolume.runOn strayed = .ok volume ∧
      (volume.snapshot 0).runOn strayed = .ok snapshot ∧
      strayed.size ≤ 180224 ∧
      ∃ bytes : Vector UInt8 1,
        (Snapshot.readAt snapshot 180224 (Vector.replicate 1 0)).runOn strayed =
          .ok bytes ∧ bytes[0] ≠ 0 := by
  intro _
  have hopen := (openVolume_runs strayed).runOn
  have hsnapshot := taken_of_store strayed_older rfl rfl
  refine ⟨_, _, hopen, hsnapshot, by decide, _,
    readAt_of_taken hopen hsnapshot (by decide) 180224 (Vector.replicate 1 0),
    ?_⟩
  rw [SnapshotState.readAtOf, Vector.getElem_ofFn]
  change SnapshotState.byteOf _ _ (180224 : UInt64).toNat ≠ _
  have hbase : baseOf 180224 = 180224 := by decide +kernel
  rw [byteOf_taken hopen hsnapshot, hbase,
    VssVolume.descriptorsOf_eq strayed_older rfl, descriptorsFor,
    strayed_descriptors, onto_storeLayer]
  decide +kernel

end ShadowCopy.Core
