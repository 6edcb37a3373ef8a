import ShadowCopy.Core.Vfs
import ShadowCopy.Data.FailFast

namespace ShadowCopy.Core

open ShadowCopy.Data

/-! Every program of the volume, the snapshot and the source gives up at the
first reader call that fails. -/

theorem ChainWalk.run_failFast [FromIoError ε] (walk : ChainWalk ε η σ)
    (volumeSize : UInt64) (remaining : Nat) (visited : List UInt64)
    (first : UInt64) (state : σ) :
    FailFast (walk.run volumeSize remaining visited first state) := by
  induction remaining generalizing visited first state with
  | zero => exact FailFast.pure state
  | succ remaining ih =>
      rw [run]
      split
      · exact FailFast.pure state
      · split
        · exact FailFast.pure state
        · split
          · exact FailFast.pure state
          · split
            · refine FailFast.bind (FailFast.seekStart first) fun _ => ?_
              refine FailFast.bind (FailFast.readExact _) fun block => ?_
              refine FailFast.bind (FailFast.lift _) fun header => ?_
              cases header with
              | none => exact FailFast.pure state
              | some header =>
                  refine FailFast.bind (FailFast.lift _) fun state => ?_
                  exact FailFast.bind (FailFast.lift _) fun following =>
                    ih (first :: visited) following state
            · exact FailFast.pure state

section FailFast

variable [Target]

theorem openVolume_failFast : FailFast openVolume := by
  refine FailFast.bind FailFast.seekEnd fun volumeSize => ?_
  refine FailFast.bind ?_ fun header => ?_
  · unfold openHeader
    split
    · refine FailFast.bind (FailFast.seekStart _) fun _ => ?_
      refine FailFast.bind (FailFast.readExact _) fun hdr => ?_
      exact FailFast.bind (FailFast.lift _) fun _ => FailFast.pure _
    · exact FailFast.pure _
  · refine FailFast.bind ?_ fun stores => FailFast.pure _
    unfold openStores
    split
    · exact ChainWalk.run_failFast _ _ _ _ _ _
    · exact FailFast.pure _

theorem VssVolume.storeInfo_failFast (volume : VssVolume) (index : Nat) :
    FailFast (volume.storeInfo index) := by
  unfold storeInfo
  refine FailFast.bind (FailFast.lift _) fun descriptor => ?_
  refine FailFast.bind (FailFast.lift _) fun headerOff => ?_
  refine FailFast.bind (FailFast.lift _) fun headerEnd => ?_
  refine FailFast.bind (FailFast.seekStart headerOff) fun _ => ?_
  refine FailFast.bind (FailFast.readExact _) fun hbuf => ?_
  refine FailFast.bind (FailFast.lift _) fun header => ?_
  exact FailFast.bind (FailFast.readExact _) fun ibuf => FailFast.lift _

theorem VssVolume.snapshotState_failFast (volume : VssVolume) (index : Nat) :
    FailFast (volume.snapshotState index) := by
  unfold snapshotState
  refine FailFast.bind (FailFast.lift _) fun d => ?_
  refine FailFast.bind (FailFast.lift _) fun header => ?_
  refine FailFast.bind (FailFast.lift _) fun bitmapOff => ?_
  refine FailFast.bind (ChainWalk.run_failFast _ _ _ _ _ _) fun blockMap => ?_
  refine FailFast.bind ?_ fun bitmap => FailFast.pure _
  exact FailFast.bind (ChainWalk.run_failFast _ _ _ _ _ _) fun pieces =>
    FailFast.pure _

omit [Target] in
theorem readBlockAt_failFast (offset volumeSize : UInt64) :
    FailFast (readBlockAt offset volumeSize) := by
  unfold readBlockAt
  split
  · split
    · refine FailFast.bind (FailFast.seekStart offset) fun _ => ?_
      exact FailFast.bind (FailFast.readExact _) fun out => FailFast.pure _
    · exact FailFast.pure _
  · exact FailFast.pure _

namespace SnapshotState

theorem patchOverlay_failFast (state : SnapshotState) (out : Block)
    (d : BlockDescriptor) : FailFast (state.patchOverlay out d) := by
  refine FailFast.bind (readBlockAt_failFast _ _) fun found => ?_
  obtain ⟨inRange, overlay⟩ := found
  cases inRange with
  | false => exact FailFast.pure out
  | true => exact FailFast.lift _

theorem readBlock_failFast (state : SnapshotState) (offset : UInt64) :
    FailFast (state.readBlock offset) := by
  have hplain : ∀ blockNumber base,
      FailFast (state.readUndescribed blockNumber base) := by
    intro blockNumber base
    refine FailFast.bind (FailFast.lift _) fun unallocated => ?_
    cases unallocated with
    | true => exact FailFast.pure zeroBlock
    | false =>
        exact FailFast.bind (readBlockAt_failFast _ _) fun found =>
          FailFast.pure _
  unfold readBlock
  dsimp only
  split
  · split
    · refine FailFast.bind (readBlockAt_failFast _ _) fun found => ?_
      exact FailFast.foldlM _ _ fun out d _ => patchOverlay_failFast state out d
    · exact hplain _ _
  · exact hplain _ _

theorem readAtLoop_failFast (state : SnapshotState) {len : Nat} (fuel : Nat)
    (written : Nat) (cursor : UInt64) (buf : Vector UInt8 len) :
    FailFast (state.readAtLoop fuel written cursor buf) := by
  induction fuel generalizing written cursor buf with
  | zero => exact FailFast.lift _
  | succ fuel ih =>
      rw [readAtLoop]
      split
      · refine FailFast.bind (FailFast.lift _) fun within => ?_
        refine FailFast.bind (readBlock_failFast state _) fun block => ?_
        refine FailFast.bind (FailFast.lift _) fun left => ?_
        refine FailFast.bind (FailFast.lift _) fun room => ?_
        refine FailFast.bind (FailFast.lift _) fun stop => ?_
        refine FailFast.bind (FailFast.lift _) fun sourceStop => ?_
        refine FailFast.bind (FailFast.lift _) fun source => ?_
        exact FailFast.bind (FailFast.lift _) fun buf => ih _ _ _
      · exact FailFast.pure buf

end SnapshotState

namespace VssSnapshotSource

theorem openSource_failFast (index : Nat) : FailFast (openSource index) := by
  refine FailFast.bind openVolume_failFast fun volume => ?_
  exact FailFast.bind (volume.snapshotState_failFast index) fun state =>
    FailFast.pure _

theorem readAt_failFast (source : VssSnapshotSource) {len : Nat}
    (offset : UInt64) (buf : Vector UInt8 len) :
    FailFast (source.readAt offset buf) := by
  unfold readAt
  split
  · exact FailFast.pure _
  · refine FailFast.bind ?_ fun filled => FailFast.pure _
    exact (SnapshotState.readAtLoop_failFast _ _ _ _ _).mapErr
      (VfsError.io "vss snapshot read") fun _ => rfl

end VssSnapshotSource

end FailFast

end ShadowCopy.Core
