import ShadowCopy.Core.Vfs

namespace ShadowCopy.Core

open ShadowCopy.Data

/-! The two ways to a snapshot and the ways to read it. -/

section Programs

variable [Target]

/-- `VssVolume::open` followed by `snapshot`. -/
def openSnapshot (index : Nat) : ReadM VssError Snapshot := do
  let volume ← openVolume
  volume.snapshot index

/-- Reads in a row, each into its own buffer and from where the last one
ended. -/
def Snapshot.readParts (snapshot : Snapshot) :
    Nat → List ((len : Nat) × Vector UInt8 len) → ReadM VssError (List UInt8)
  | _, [] => return []
  | position, ⟨len, buf⟩ :: rest => do
      let filled ← snapshot.readAt (UInt64.ofNat position) buf
      let later ← snapshot.readParts (position + len) rest
      return filled.toList ++ later

end Programs

def partsLength : List ((len : Nat) × Vector UInt8 len) → Nat
  | [] => 0
  | ⟨len, _⟩ :: rest => len + partsLength rest

def headOf (n : Nat) (buf : Vector UInt8 len) : Vector UInt8 n :=
  Vector.ofFn fun j => buf[j.val]?.getD 0

section Agreement

variable [Target]

/-- A snapshot and a source over the same shadow copy read the same bytes. -/
structure ReadsAgree (image : Image) (source : VssSnapshotSource)
    (snapshot : Snapshot) : Prop where
  bytes : ∀ len, len < Target.usizeSize → ∀ (offset : UInt64)
    (buf : Vector UInt8 len), offset.toNat + len ≤ 2 ^ 64 →
    ∃ filled, Yields image (snapshot.readAt offset buf)
        (fun answer => answer = .ok filled) ∧
      ∀ k (hk : k < len), ∃ block, Yields image
          (snapshot.readBlock (UInt64.ofNat (offset.toNat + k)))
          (fun answer => answer = .ok block) ∧
        filled[k] = block.get ⟨(offset.toNat + k) % blockSize,
          mod_blockSize_lt (offset.toNat + k)⟩
  blocks : ∀ left right : UInt64,
    left.toNat / blockSize = right.toNat / blockSize →
    ∃ block,
      Yields image (snapshot.readBlock left) (fun answer =>
        answer = .ok block) ∧
      Yields image (snapshot.readBlock right) fun answer =>
        answer = .ok block
  parts : ∀ parts, partsLength parts < Target.usizeSize →
    ∀ offset : UInt64, offset.toNat + partsLength parts ≤ 2 ^ 64 →
    ∀ buf : Vector UInt8 (partsLength parts),
    ∃ filled, Yields image (snapshot.readAt offset buf)
        (fun answer => answer = .ok filled) ∧
      Yields image (snapshot.readParts offset.toNat parts) fun answer =>
        answer = .ok filled.toList
  clipped : ∀ len, len < Target.usizeSize → ∀ (offset : UInt64)
    (buf : Vector UInt8 len),
    ∃ n filled after, n = min len (source.len.toNat - offset.toNat) ∧
      Yields image (source.readAt offset buf)
        (fun answer => answer = .ok (n, after)) ∧
      Yields image (snapshot.readAt offset (headOf n buf))
        (fun answer => answer = .ok filled) ∧
      ∀ k (hk : k < len),
        after[k] = if h : k < n then filled[k] else buf[k]

variable {image : Image} {snapshot : Snapshot}

theorem Snapshot.readAt_runs
    (hsize : SnapshotState.volumeSize snapshot = UInt64.ofNat image.size)
    {len : Nat} (hlen : len < Target.usizeSize) (offset : UInt64)
    (buf : Vector UInt8 len) :
    Runs image none (snapshot.readAt offset buf)
      (.ok (SnapshotState.readAtOf snapshot image offset len)) none :=
  (SnapshotState.readAt_runs hsize hlen offset buf).mapErr VssError.io
    fun _ => rfl

theorem Snapshot.readBlock_runs
    (hsize : SnapshotState.volumeSize snapshot = UInt64.ofNat image.size)
    (offset : UInt64) :
    Runs image none (snapshot.readBlock offset)
      (.ok (SnapshotState.blockOf snapshot image offset)) none :=
  (SnapshotState.readBlock_runs hsize offset).mapErr VssError.io
    fun _ => rfl

omit [Target] in
theorem SnapshotState.position_of_le {offset : UInt64} {k len : Nat}
    (hk : k < len) (h : offset.toNat + len ≤ 2 ^ 64) :
    position offset k = offset.toNat + k := by
  unfold position
  omega

theorem SnapshotState.readAtOf_toList {state : SnapshotState}
    {position len : Nat} (h : position + len ≤ 2 ^ 64) :
    (state.readAtOf image (UInt64.ofNat position) len).toList =
      (List.range len).map fun k => state.byteOf image (position + k) := by
  apply List.ext_getElem
  · simp
  · intro k hleft hright
    have hk : k < len := by simpa using hleft
    have hnat : (UInt64.ofNat position).toNat = position :=
      UInt64.toNat_ofNat_of_lt' (show position < 2 ^ 64 by omega)
    have hposition := position_of_le hk (hnat.symm ▸ h)
    simp only [Vector.getElem_toList, List.getElem_map, List.getElem_range,
      SnapshotState.readAtOf, Vector.getElem_ofFn, hposition, hnat]

/-- Reading part after part gives the bytes of the whole range: induction on
the parts. -/
theorem Snapshot.readParts_runs
    (hsize : SnapshotState.volumeSize snapshot = UInt64.ofNat image.size)
    {parts : List ((len : Nat) × Vector UInt8 len)} {position : Nat}
    (hlen : partsLength parts < Target.usizeSize)
    (h : position + partsLength parts ≤ 2 ^ 64) :
    Runs image none (snapshot.readParts position parts)
      (.ok ((List.range (partsLength parts)).map fun k =>
        SnapshotState.byteOf snapshot image (position + k))) none := by
  induction parts generalizing position with
  | nil => exact Runs.pure []
  | cons part rest ih =>
      obtain ⟨len, buf⟩ := part
      rw [partsLength] at hlen h
      have hlater := @ih (position + len) (by omega) (by omega)
      have hbytes : (List.range (len + partsLength rest)).map (fun k =>
          SnapshotState.byteOf snapshot image (position + k)) =
          (SnapshotState.readAtOf snapshot image (UInt64.ofNat position)
            len).toList ++
          (List.range (partsLength rest)).map fun k =>
            SnapshotState.byteOf snapshot image (position + len + k) := by
        rw [SnapshotState.readAtOf_toList (by omega), List.range_add,
          List.map_append, List.map_map]
        simp only [Function.comp_def, Nat.add_assoc]
      rw [partsLength, hbytes]
      refine Runs.bind_ok (Snapshot.readAt_runs hsize (by omega) _ buf) ?_
      exact Runs.bind_ok hlater (Runs.pure _)

theorem readsAgree {source : VssSnapshotSource}
    (hsize : SnapshotState.volumeSize snapshot = UInt64.ofNat image.size)
    (hsource : source = VssSnapshotSource.sourceOf image snapshot) :
    ReadsAgree image source snapshot := by
  constructor
  · intro len hlen offset buf hend
    refine ⟨_, (Snapshot.readAt_runs hsize hlen offset buf).yields rfl, ?_⟩
    intro k hk
    refine ⟨_, (Snapshot.readBlock_runs hsize _).yields rfl, ?_⟩
    rw [SnapshotState.readAtOf, Vector.getElem_ofFn,
      SnapshotState.position_of_le hk hend]
    rfl
  · intro left right hsame
    refine ⟨_, (Snapshot.readBlock_runs hsize left).yields rfl, ?_⟩
    rw [SnapshotState.blockOf_congr hsame]
    exact (Snapshot.readBlock_runs hsize right).yields rfl
  · intro parts hlen offset hend buf
    refine ⟨_, (Snapshot.readAt_runs hsize hlen offset buf).yields rfl, ?_⟩
    have hlist := @SnapshotState.readAtOf_toList _ image snapshot offset.toNat
      (partsLength parts) hend
    rw [UInt64.ofNat_toNat] at hlist
    rw [hlist]
    exact (Snapshot.readParts_runs hsize hlen hend).yields rfl
  · intro len hlen offset buf
    have hwant := VssSnapshotSource.want_eq source hlen offset
    have hfits := VssSnapshotSource.want_le source offset len
    have hstate : source.state = snapshot := by rw [hsource]; rfl
    have hread := Snapshot.readAt_runs hsize
      (Nat.lt_of_le_of_lt hfits hlen) offset
      (headOf (source.want offset len) buf)
    refine ⟨source.want offset len, _, _, hwant,
      (VssSnapshotSource.readAt_runs (hstate ▸ hsize) hlen offset buf).yields
        rfl, hread.yields rfl, ?_⟩
    intro k hk
    simp only [VssSnapshotSource.readAtOf, SnapshotState.readAtOf,
      Vector.getElem_ofFn, hstate]
    rfl

end Agreement

/-- Both ways to a shadow copy fail alike, and all ways to read it agree. -/
structure PathsAgree [Target] (image : Image) (index : Nat) : Prop where
  fails : ∀ error,
    (VssSnapshotSource.openSource index).runOn image = .err error ↔
      (openSnapshot index).runOn image = .err error
  settled :
    (VssSnapshotSource.openSource index).runOn image ≠ .panic ∧
      (openSnapshot index).runOn image ≠ .panic
  reads : ∀ source snapshot,
    (VssSnapshotSource.openSource index).runOn image = .ok source →
    (openSnapshot index).runOn image = .ok snapshot →
      ReadsAgree image source snapshot

theorem read_paths_agree [Target] (image : Image) (index : Nat) :
    PathsAgree image index := by
  have hsource :=
    (@VssSnapshotSource.openSource_runs _ image index).runOn
  have hsnapshot : (openSnapshot index).runOn image =
      (volumeOf image).snapshotStateOf image index :=
    (Runs.bind_ok (openVolume_runs image)
      (VssVolume.snapshotState_runs rfl index)).runOn
  have hanswer : (volumeOf image).snapshotStateOf image index ≠ .panic := by
    unfold VssVolume.snapshotStateOf
    split
    · exact fun h => nomatch h
    · split <;> exact fun h => nomatch h
  cases hstate : (volumeOf image).snapshotStateOf image index with
  | panic => exact absurd hstate hanswer
  | err error =>
      rw [hstate] at hsource hsnapshot
      refine ⟨fun other => ?_, ?_, ?_⟩
      · rw [hsource, hsnapshot, Outcome.err.injEq, Outcome.err.injEq]
      · rw [hsource, hsnapshot]
        constructor <;> exact fun h => nomatch h
      · intro source snapshot h
        rw [hsource] at h
        contradiction
  | ok state =>
      rw [hstate] at hsource hsnapshot
      refine ⟨fun other => ?_, ?_, ?_⟩
      · rw [hsource, hsnapshot]
        constructor <;> exact fun h => nomatch h
      · rw [hsource, hsnapshot]
        constructor <;> exact fun h => nomatch h
      · intro source snapshot hopen htaken
        obtain rfl := Outcome.ok.inj (hsnapshot.symm.trans htaken)
        exact readsAgree (VssVolume.volumeSize_of_state hstate)
          (Outcome.ok.inj (hopen.symm.trans hsource))

end ShadowCopy.Core
