import ShadowCopy.Core.ReadAt

namespace ShadowCopy.Core

open ShadowCopy.Data

inductive VfsError where
  | io (op : String) (source : IoError)
  deriving DecidableEq, Repr

instance : FromIoError VfsError := ⟨.io "vss snapshot read"⟩

/-- An owned snapshot; its reader sits behind the lock and is threaded here. -/
structure VssSnapshotSource where
  state : SnapshotState
  volumeSize : UInt64

namespace VssSnapshotSource

section Programs

variable [Target]

/-- `VssSnapshotSource::open`. -/
def openSource (index : Nat) : ReadM VssError VssSnapshotSource := do
  let volume ← openVolume
  let state ← volume.snapshotState index
  return { state, volumeSize := volume.volumeSize }

def len (source : VssSnapshotSource) : UInt64 :=
  source.volumeSize

/-- How many of `len` bytes a read at `offset` returns. -/
def want (source : VssSnapshotSource) (offset : UInt64) (len : Nat) : Nat :=
  match checkedSub source.volumeSize offset with
  | none => 0
  | some remaining =>
      min ((usizeTryFrom remaining).getD (Target.usizeSize - 1)) len

/-- `ImageSource::read_at`: the count and the buffer afterwards. -/
def readAt (source : VssSnapshotSource) {len : Nat} (offset : UInt64)
    (buf : Vector UInt8 len) : ReadM VfsError (Nat × Vector UInt8 len) :=
  if source.want offset len = 0 then
    return (0, buf)
  else do
    let head : Vector UInt8 (source.want offset len) :=
      Vector.ofFn fun j => buf[j.val]?.getD 0
    let filled ← (source.state.readAt offset head).mapErr
      (VfsError.io "vss snapshot read")
    return (source.want offset len,
      Vector.ofFn fun j => (filled[j.val]?).getD (buf.get j))

end Programs

/-! What the adapter computes over an image. -/

def sourceOf (image : Image) (state : SnapshotState) : VssSnapshotSource where
  state := state
  volumeSize := UInt64.ofNat image.size

/-- The buffer after a read: the snapshot's bytes up to the volume end, the
old ones from there. -/
def readAtOf [Target] (source : VssSnapshotSource) (image : Image)
    {len : Nat} (offset : UInt64) (buf : Vector UInt8 len) : Vector UInt8 len :=
  Vector.ofFn fun k =>
    if k.val < source.want offset len then
      source.state.byteOf image (SnapshotState.position offset k.val)
    else
      buf.get k

section Runs

variable [Target] {image : Image}

theorem openSource_runs (index : Nat) :
    Runs image none (openSource index)
      (match (volumeOf image).snapshotStateOf image index with
        | .ok state => .ok (sourceOf image state)
        | .err error => .err error
        | .panic => .panic) none := by
  refine Runs.bind_ok (openVolume_runs image) ?_
  have hstate : Runs image none ((volumeOf image).snapshotState index)
      ((volumeOf image).snapshotStateOf image index) none :=
    VssVolume.snapshotState_runs rfl index
  cases hvalue : (volumeOf image).snapshotStateOf image index with
  | ok state => exact Runs.bind_ok (hstate.congr hvalue) (Runs.pure _)
  | err error => exact Runs.bind_err (hstate.congr hvalue)
  | panic =>
      unfold VssVolume.snapshotStateOf at hvalue
      split at hvalue
      · contradiction
      · split at hvalue <;> contradiction

theorem want_le (source : VssSnapshotSource) (offset : UInt64)
    (len : Nat) : source.want offset len ≤ len := by
  unfold want
  split
  · exact Nat.zero_le len
  · exact Nat.min_le_right _ _

/-- The count clips to the volume end: no buffer is longer than `usize::MAX`. -/
theorem want_eq (source : VssSnapshotSource) {len : Nat} (hlen : len < Target.usizeSize)
    (offset : UInt64) :
    source.want offset len =
      min len (source.volumeSize.toNat - offset.toNat) := by
  unfold want checkedSub
  by_cases hbefore : offset ≤ source.volumeSize
  · have hsub := UInt64.toNat_sub_of_le _ _ hbefore
    simp only [if_pos hbefore, usizeTryFrom]
    split
    · simp only [Option.getD_some]
      omega
    · simp only [Option.getD_none]
      omega
  · rw [UInt64.le_iff_toNat_le] at hbefore
    simp only [if_neg (mt UInt64.le_iff_toNat_le.mp hbefore)]
    omega

theorem add_want_le (source : VssSnapshotSource) {len : Nat}
    (hlen : len < Target.usizeSize) (offset : UInt64) :
    offset.toNat + source.want offset len ≤ 2 ^ 64 := by
  have hoffset := offset.toNat_lt
  have hvolume := source.volumeSize.toNat_lt
  rw [want_eq source hlen offset]
  omega

theorem readAt_runs {source : VssSnapshotSource}
    (hsize : source.state.volumeSize = UInt64.ofNat image.size)
    {len : Nat} (hlen : len < Target.usizeSize) (offset : UInt64)
    (buf : Vector UInt8 len) :
    Runs image none (source.readAt offset buf)
      (.ok (source.want offset len, source.readAtOf image offset buf))
      none := by
  have hwant := want_le source offset len
  unfold readAt
  by_cases hzero : source.want offset len = 0
  · rw [if_pos hzero]
    have hbuf : source.readAtOf image offset buf = buf := by
      apply Vector.ext
      intro k hk
      simp [readAtOf, hzero, Vector.get]
    rw [hbuf, hzero]
    exact Runs.pure _
  · rw [if_neg hzero]
    have hread := SnapshotState.readAt_runs hsize
      (Nat.lt_of_le_of_lt hwant hlen) offset
      (Vector.ofFn fun j : Fin (source.want offset len) => buf[j.val]?.getD 0)
    refine Runs.bind_ok
      (hread.mapErr (VfsError.io "vss snapshot read") fun _ => rfl) ?_
    have hbuf : (Vector.ofFn fun j : Fin len =>
        ((source.state.readAtOf image offset
          (source.want offset len))[j.val]?).getD (buf.get j)) =
        source.readAtOf image offset buf := by
      apply Vector.ext
      intro k hk
      simp only [Vector.getElem_ofFn, readAtOf]
      by_cases hin : k < source.want offset len
      · simp [hin, SnapshotState.readAtOf]
      · simp [hin]
    rw [← hbuf]
    exact Runs.pure _

end Runs

end VssSnapshotSource

end ShadowCopy.Core
