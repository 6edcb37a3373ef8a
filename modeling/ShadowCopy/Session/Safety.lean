import ShadowCopy.Catalog.Pairing
import ShadowCopy.Core.Agreement
import ShadowCopy.Core.ReadAt

namespace ShadowCopy.Core

open ShadowCopy.Data

/-! Which outcome an operation has, by the first condition that fails. -/

/-- An outcome the caller can meet on a healthy reader: not a panic and not an
I/O error. -/
def Settled (answer : Outcome VssError α) : Prop :=
  answer ≠ .panic ∧ ∀ error, answer ≠ .err (.io error)

structure StoreInfoAnswer (volume : VssVolume) (index : Nat)
    (answer : Outcome VssError StoreInfo) : Prop where
  indexOutOfRange :
    answer = .err (.storeIndexOutOfRange index volume.storeCount) ↔
      volume.storeCount ≤ index
  unavailable :
    answer = .err (.storeInfoUnavailable index) ↔
      ∃ d, volume.stores[index]? = some d ∧ d.storeHeaderOffset = none
  offsetOutOfBounds : ∀ headerOff,
    answer =
        .err (.storeOffsetOutOfBounds index headerOff volume.volumeSize) ↔
      ∃ d, volume.stores[index]? = some d ∧
        d.storeHeaderOffset = some headerOff ∧
        volume.volumeSize.toNat < headerOff.toNat + storeBlockHeaderLen
  ok : (∃ info, answer = .ok info) ↔
    ∃ d headerOff, volume.stores[index]? = some d ∧
      d.storeHeaderOffset = some headerOff ∧
      headerOff.toNat + storeBlockHeaderLen ≤ volume.volumeSize.toNat
  settled : Settled answer

structure SnapshotAnswer (volume : VssVolume) (index : Nat)
    (answer : Outcome VssError Snapshot) : Prop where
  indexOutOfRange :
    answer = .err (.storeIndexOutOfRange index volume.storeCount) ↔
      volume.storeCount ≤ index
  unavailable :
    answer = .err (.storeInfoUnavailable index) ↔
      ∃ d, volume.stores[index]? = some d ∧ d.storeHeaderOffset = none
  ok : (∃ snapshot, answer = .ok snapshot) ↔
    ∃ d headerOff, volume.stores[index]? = some d ∧
      d.storeHeaderOffset = some headerOff
  settled : Settled answer

section Answers

variable [Target] {image : Image}

structure ReadsSucceed (image : Image) (snapshot : Snapshot) : Prop where
  readBlock : ∀ offset, Yields image (snapshot.readBlock offset)
    fun answer => ∃ block, answer = .ok block
  readAt : ∀ len, len < Target.usizeSize → ∀ offset (buf : Vector UInt8 len),
    Yields image (snapshot.readAt offset buf)
      fun answer => ∃ filled, answer = .ok filled

omit [Target] in
theorem storeCount_le_iff {volume : VssVolume} {index : Nat} :
    volume.storeCount ≤ index ↔ volume.stores[index]? = none :=
  List.getElem?_eq_none_iff.symm

theorem storeInfoOf_answer {volume : VssVolume}
    (hsize : volume.volumeSize.toNat = image.size) (index : Nat) :
    StoreInfoAnswer volume index (volume.storeInfoOf image index) := by
  unfold VssVolume.storeInfoOf
  cases hstore : volume.stores[index]? with
  | none =>
      have hcount : volume.stores.length ≤ index :=
        storeCount_le_iff.mpr hstore
      constructor <;> simp [hcount, Settled, VssVolume.storeCount]
  | some d =>
      have hcount : ¬ volume.storeCount ≤ index := by
        simp [storeCount_le_iff, hstore]
      cases hpointer : d.storeHeaderOffset with
      | none =>
          constructor <;> simp [hstore, hcount, hpointer, Settled]
      | some headerOff =>
          by_cases hfits :
              headerOff.toNat + storeBlockHeaderLen ≤ image.size
          · constructor <;>
              simp [hstore, hcount, hpointer, hsize, hfits, Settled]
          · have hlt := Nat.not_le.mp hfits
            constructor <;>
              simp [hstore, hcount, hpointer, hsize, hfits, hlt, Settled]

omit [Target] in
theorem snapshotStateOf_answer {volume : VssVolume}
    (hpaired : ∀ d ∈ volume.stores, d.Paired) (index : Nat) :
    SnapshotAnswer volume index (volume.snapshotStateOf image index) := by
  unfold VssVolume.snapshotStateOf
  cases hstore : volume.stores[index]? with
  | none =>
      have hcount : volume.stores.length ≤ index :=
        storeCount_le_iff.mpr hstore
      constructor <;> simp [hcount, Settled, VssVolume.storeCount]
  | some d =>
      have hcount : ¬ volume.storeCount ≤ index := by
        simp [storeCount_le_iff, hstore]
      have hboth : d.storeHeaderOffset.isSome = d.storeBitmapOffset.isSome :=
        hpaired d (List.mem_of_getElem? hstore)
      cases hheader : d.storeHeaderOffset with
      | none =>
          constructor <;> simp [hstore, hcount, hheader, Settled]
      | some headerOff =>
          -- a header pointer never comes without its bitmap pointer
          rw [hheader] at hboth
          obtain ⟨bitmapOff, hbitmap⟩ := Option.isSome_iff_exists.mp hboth.symm
          constructor <;> simp [hstore, hcount, hheader, hbitmap, Settled]

theorem readsSucceed {snapshot : Snapshot}
    (hsize : SnapshotState.volumeSize snapshot = UInt64.ofNat image.size) :
    ReadsSucceed image snapshot where
  readBlock := fun offset =>
    ((SnapshotState.readBlock_runs hsize offset).mapErr VssError.io
      fun _ => rfl).yields ⟨_, rfl⟩
  readAt := fun _ hlen offset buf =>
    ((SnapshotState.readAt_runs hsize hlen offset buf).mapErr VssError.io
      fun _ => rfl).yields ⟨_, rfl⟩

/-- Over any image every operation settles, and in which way is decided by
the store list alone. -/
theorem operations_settle (image : Image) :
    ∃ volume : VssVolume, volume.volumeSize.toNat = image.size ∧
      Yields image openVolume (fun answer => answer = .ok volume) ∧
      ∀ index,
        Yields image (volume.storeInfo index)
          (StoreInfoAnswer volume index) ∧
        Yields image (volume.snapshot index) fun answer =>
          SnapshotAnswer volume index answer ∧
            ∀ snapshot, answer = .ok snapshot → ReadsSucceed image snapshot := by
  refine ⟨volumeOf image, image.toNat_volumeSize,
    (openVolume_runs image).yields rfl, fun index => ⟨?_, ?_⟩⟩
  · apply (VssVolume.storeInfo_runs rfl index).yields
    exact storeInfoOf_answer image.toNat_volumeSize index
  · apply (VssVolume.snapshotState_runs rfl index).yields
    refine ⟨snapshotStateOf_answer (volumeOf_paired image) index, ?_⟩
    intro snapshot hsnapshot
    exact readsSucceed (VssVolume.volumeSize_of_state hsnapshot)

end Answers

theorem operations_settle_sample : let _ := Target.bits64
    ∃ (volume : VssVolume) (snapshot : Snapshot),
      openVolume.runOn (sample []) = .ok volume ∧
      (volume.snapshot 0).runOn (sample []) = .ok snapshot ∧
      ∃ filled, (snapshot.readAt 0xFFFFFFFFFFFFFFFF
        (Vector.replicate 3 0)).runOn (sample []) = .ok filled := by
  intro _
  have holder := sample_older
  generalize sample [] = image at *
  obtain ⟨volume, _, hopen, hrest⟩ := operations_settle image
  have hvolume := hopen.runOn
  obtain ⟨hanswer, hreads⟩ := (hrest 0).2.runOn
  obtain rfl := Outcome.ok.inj
    ((openVolume_runs image).runOn.symm.trans hvolume)
  obtain ⟨snapshot, hsnapshot⟩ := hanswer.ok.mpr ⟨_, _, holder, rfl⟩
  have hlen : 3 < Target.usizeSize :=
    Target.lt_usizeSize (by decide)
  have hread := (hreads snapshot hsnapshot).readAt 3 hlen 0xFFFFFFFFFFFFFFFF
    (Vector.replicate 3 0)
  exact ⟨_, snapshot, hvolume, hsnapshot, hread.runOn⟩

end ShadowCopy.Core
