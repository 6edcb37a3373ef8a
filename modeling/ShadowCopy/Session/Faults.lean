import ShadowCopy.Session.Budget
import ShadowCopy.Session.History

namespace ShadowCopy.Core

open ShadowCopy.Data

section Serves

variable [Target] {reader : Reader}

theorem volumeSize_of_snapshot {image : Image} {index : Nat}
    {snapshot : Snapshot}
    (h : ((volumeOf image).snapshot index).runOn image = .ok snapshot) :
    SnapshotState.volumeSize snapshot = UInt64.ofNat image.size := by
  have hruns : Runs image none ((volumeOf image).snapshot index)
      ((volumeOf image).snapshotStateOf image index) none :=
    VssVolume.snapshotState_runs rfl index
  exact VssVolume.volumeSize_of_state (hruns.runOn.symm.trans h)

theorem openVolume_serves (reader : Reader) :
    Serves reader (openVolume reader) (.ok (volumeOf reader.image))
      ((volumeOf reader.image).openCalls reader.image) :=
  openVolume_failFast.serves (openVolume_runs _) (openVolume_calls _) rfl

theorem VssVolume.storeInfo_serves {volume : VssVolume}
    (hsize : volume.volumeSize = UInt64.ofNat reader.image.size)
    (index : Nat) :
    Serves reader (volume.storeInfo index reader)
      ((volume.storeInfo index).runOn reader.image)
      (volume.storeInfoCalls reader.image index) := by
  rw [(storeInfo_runs hsize index).runOn]
  exact (volume.storeInfo_failFast index).serves (storeInfo_runs hsize index)
    (storeInfo_calls hsize index) rfl

theorem VssVolume.snapshot_serves {volume : VssVolume}
    (hsize : volume.volumeSize = UInt64.ofNat reader.image.size)
    (index : Nat) :
    Serves reader (volume.snapshot index reader)
      ((volume.snapshot index).runOn reader.image)
      (volume.snapshotCalls reader.image index) := by
  have hruns := snapshotState_runs hsize index
  rw [show (volume.snapshot index).runOn reader.image = _ from hruns.runOn]
  exact (volume.snapshotState_failFast index).serves hruns
    (snapshotState_calls hsize index) rfl

theorem Snapshot.readBlock_serves {snapshot : Snapshot}
    (hsize : SnapshotState.volumeSize snapshot =
      UInt64.ofNat reader.image.size) (offset : UInt64) :
    Serves reader (snapshot.readBlock offset reader)
      ((snapshot.readBlock offset).runOn reader.image)
      (SnapshotState.readBlockCalls snapshot reader.image offset) := by
  have hruns := (SnapshotState.readBlock_runs hsize offset).mapErr VssError.io
    fun _ => rfl
  rw [show (snapshot.readBlock offset).runOn reader.image = _ from hruns.runOn]
  exact ((SnapshotState.readBlock_failFast snapshot offset).mapErr VssError.io
    fun _ => rfl).serves hruns
      ((SnapshotState.readBlock_calls hsize offset).mapErr VssError.io) rfl

theorem Snapshot.readAt_serves {snapshot : Snapshot}
    (hsize : SnapshotState.volumeSize snapshot =
      UInt64.ofNat reader.image.size) {len : Nat}
    (hlen : len < Target.usizeSize) (offset : UInt64)
    (buf : Vector UInt8 len) :
    Serves reader (snapshot.readAt offset buf reader)
      ((snapshot.readAt offset buf).runOn reader.image)
      (SnapshotState.readAtCalls snapshot reader.image offset len) := by
  have hruns := (SnapshotState.readAt_runs hsize hlen offset buf).mapErr
    VssError.io fun _ => rfl
  rw [show (snapshot.readAt offset buf).runOn reader.image = _ from
    hruns.runOn]
  exact ((SnapshotState.readAtLoop_failFast snapshot _ _ _ buf).mapErr
    VssError.io fun _ => rfl).serves hruns
      ((SnapshotState.readAt_calls hsize hlen offset buf).mapErr VssError.io)
      rfl

namespace VssSnapshotSource

theorem openSource_serves (index : Nat) :
    Serves reader (openSource index reader)
      ((openSource index).runOn reader.image)
      ((volumeOf reader.image).openCalls reader.image +
        (volumeOf reader.image).snapshotCalls reader.image index) := by
  have hruns := @openSource_runs _ reader.image index
  rw [hruns.runOn]
  exact (openSource_failFast index).serves hruns
    (openSource_calls reader.image index) rfl

theorem readAt_serves {source : VssSnapshotSource}
    (hsize : source.state.volumeSize = UInt64.ofNat reader.image.size)
    {len : Nat} (hlen : len < Target.usizeSize) (offset : UInt64)
    (buf : Vector UInt8 len) :
    Serves reader (source.readAt offset buf reader)
      ((source.readAt offset buf).runOn reader.image)
      (source.state.readAtCalls reader.image offset
        (source.want offset len)) := by
  have hruns := readAt_runs hsize hlen offset buf
  rw [hruns.runOn]
  exact (source.readAt_failFast offset buf).serves hruns
    (readAt_calls hsize hlen offset buf) rfl

end VssSnapshotSource

/-- Opening a volume or a source, reading a store's information and taking a
snapshot end at the first call that fails, with that call's error; and the
number of calls they make otherwise is known. -/
theorem opening_ends_at_first_fault (reader : Reader) :
    ∃ volume : VssVolume, openVolume.runOn reader.image = .ok volume ∧
      Serves reader (openVolume reader) (.ok volume)
        (volume.openCalls reader.image) ∧
      ∀ index,
        Serves reader (volume.storeInfo index reader)
          ((volume.storeInfo index).runOn reader.image)
          (volume.storeInfoCalls reader.image index) ∧
        Serves reader (volume.snapshot index reader)
          ((volume.snapshot index).runOn reader.image)
          (volume.snapshotCalls reader.image index) ∧
        Serves reader (VssSnapshotSource.openSource index reader)
          ((VssSnapshotSource.openSource index).runOn reader.image)
          (volume.openCalls reader.image +
            volume.snapshotCalls reader.image index) := by
  refine ⟨_, (openVolume_runs _).runOn, openVolume_serves reader,
    fun index => ⟨?_, ?_, ?_⟩⟩
  · exact VssVolume.storeInfo_serves rfl index
  · exact VssVolume.snapshot_serves rfl index
  · exact VssSnapshotSource.openSource_serves index

/-- So do the reads of a snapshot and of a source. -/
theorem reads_end_at_first_fault (reader : Reader) {index : Nat}
    {source : VssSnapshotSource}
    (hopen : (VssSnapshotSource.openSource index).runOn reader.image =
      .ok source) :
    ∀ offset,
      Serves reader (Snapshot.readBlock source.state offset reader)
        ((Snapshot.readBlock source.state offset).runOn reader.image)
        (source.state.readBlockCalls reader.image offset) ∧
      ∀ len (buf : Vector UInt8 len), len < Target.usizeSize →
        Serves reader (Snapshot.readAt source.state offset buf reader)
          ((Snapshot.readAt source.state offset buf).runOn reader.image)
          (source.state.readAtCalls reader.image offset len) ∧
        Serves reader (source.readAt offset buf reader)
          ((source.readAt offset buf).runOn reader.image)
          (source.state.readAtCalls reader.image offset
            (source.want offset len)) := by
  have hsize := VssSnapshotSource.volumeSize_of_openSource hopen
  intro offset
  refine ⟨Snapshot.readBlock_serves hsize offset, fun len buf hlen => ⟨?_, ?_⟩⟩
  · exact Snapshot.readAt_serves hsize hlen offset buf
  · exact VssSnapshotSource.readAt_serves hsize hlen offset buf

/-- Neither a lying image nor a failing reader makes an operation go on for
longer than the blocks it touches and their overlays account for. -/
theorem calls_are_bounded (reader : Reader) :
    ∃ volume : VssVolume, openVolume.runOn reader.image = .ok volume ∧
      (openVolume reader).2.calls ≤
        reader.calls + (3 + 2 * maxCatalogBlocks) ∧
      (∀ index,
        (volume.storeInfo index reader).2.calls ≤ reader.calls + 3 ∧
        (volume.snapshot index reader).2.calls ≤
          reader.calls + 4 * maxStoreBlocks ∧
        (VssSnapshotSource.openSource index reader).2.calls ≤
          reader.calls + (3 + 2 * maxCatalogBlocks + 4 * maxStoreBlocks) ∧
        (∀ snapshot : Snapshot,
          (volume.snapshot index).runOn reader.image = .ok snapshot →
          ∀ offset,
            (snapshot.readBlock offset reader).2.calls ≤
              reader.calls + SnapshotState.blockBudget snapshot offset ∧
            ∀ len (buf : Vector UInt8 len), len < Target.usizeSize →
              (snapshot.readAt offset buf reader).2.calls ≤
                reader.calls +
                  SnapshotState.readBudget snapshot offset len) ∧
        ∀ source : VssSnapshotSource,
          (VssSnapshotSource.openSource index).runOn reader.image =
            .ok source →
          ∀ offset len (buf : Vector UInt8 len), len < Target.usizeSize →
            (source.readAt offset buf reader).2.calls ≤
              reader.calls +
                source.state.touchedBudget offset (source.want offset len)) ∧
      ∀ offset len, (SnapshotState.touchedBlocks offset len).card ≤
        len / blockSize + 2 := by
  refine ⟨_, (openVolume_runs _).runOn, ?_, fun index =>
    ⟨?_, ?_, ?_, fun snapshot hsnapshot offset => ⟨?_, fun len buf hlen => ?_⟩,
      fun source hopen offset len buf hlen => ?_⟩,
    SnapshotState.card_touchedBlocks_le⟩
  · exact (openVolume_serves reader).calls_le (VssVolume.openCalls_le _ _)
  · exact (VssVolume.storeInfo_serves rfl index).calls_le
      (VssVolume.storeInfoCalls_le _ _ index)
  · exact (VssVolume.snapshot_serves rfl index).calls_le
      (VssVolume.snapshotCalls_le _ _ index)
  · exact (VssSnapshotSource.openSource_serves index).calls_le
      (Nat.add_le_add (VssVolume.openCalls_le _ _)
        (VssVolume.snapshotCalls_le _ _ index))
  · exact (Snapshot.readBlock_serves (volumeSize_of_snapshot hsnapshot)
      offset).calls_le (SnapshotState.readBlockCalls_le _ _ offset)
  · exact (Snapshot.readAt_serves (volumeSize_of_snapshot hsnapshot) hlen offset
      buf).calls_le (SnapshotState.readAtCalls_le _ _ offset len)
  · have hsize := VssSnapshotSource.volumeSize_of_openSource hopen
    rw [← SnapshotState.readBudget_eq_touchedBudget
      (source.add_want_le hlen offset)]
    exact (VssSnapshotSource.readAt_serves hsize hlen offset buf).calls_le
      (SnapshotState.readAtCalls_le _ _ offset _)

end Serves

/-- The block the newer store saved costs a seek and a read. -/
theorem reads_end_at_first_fault_sample : let _ := Target.bits64
    ∃ source : VssSnapshotSource,
      (VssSnapshotSource.openSource 1).runOn (sample []) = .ok source ∧
      source.state.readBlockCalls (sample []) 131072 = 2 ∧
      ∀ reader : Reader, reader.image = sample [] →
        Serves reader (Snapshot.readBlock source.state 131072 reader)
          ((Snapshot.readBlock source.state 131072).runOn reader.image)
          (source.state.readBlockCalls reader.image 131072) := by
  intro _
  have hcalls : (stateOf (sample []) 81920 114688).readBlockCalls (sample [])
      131072 = 2 := by
    rw [SnapshotState.readBlockCalls, stateOf_blockMap, blockMapOf_get?,
      descriptorsFor, sample_newer_descriptors]
    decide +kernel
  have hnewer := sample_newer
  generalize sample [] = image at *
  have hstate : (volumeOf image).snapshotStateOf image 1 =
      .ok (stateOf image 81920 114688) :=
    VssVolume.snapshotStateOf_eq_ok.mpr ⟨_, _, _, hnewer, rfl, rfl, rfl⟩
  have hopen := (@VssSnapshotSource.openSource_runs _ image 1).runOn
  rw [hstate] at hopen
  refine ⟨_, hopen, hcalls, fun reader himage => ?_⟩
  subst himage
  exact (reads_end_at_first_fault reader hopen 131072).1

end ShadowCopy.Core
