import ShadowCopy.Core.Reconstruct

namespace ShadowCopy.Core

open ShadowCopy.Data

theorem blockSize_eq : blockSize = 16384 := rfl

theorem subBlockSize_eq : subBlockSize = 512 := rfl

theorem mod_blockSize_lt (position : Nat) : position % blockSize < blockSize :=
  Nat.mod_lt _ (by decide)

theorem foldl_append_singleton (view : α → β) (items : List α)
    (start : List β) :
    items.foldl (fun pieces item => pieces ++ [view item]) start =
      start ++ items.map view := by
  induction items generalizing start with
  | nil => simp
  | cons item rest ih => rw [List.foldl_cons, ih]; simp

/-! The metadata a snapshot is built from, as functions of the image. -/

def storeBlockAccepted (recordType : UInt32) (block : List UInt8) : Bool :=
  u32At block 20 == recordType

/-- The blocks a store-chain walk collects from. -/
def storeChain (image : Image) (recordType : UInt32) (first : UInt64) :
    List UInt64 :=
  (image.links (storeBlockAccepted recordType) (u64At · 40)).collected
    maxStoreBlocks [] first

/-- The descriptors of one diff-area block, up to its first zero record. -/
def blockDescriptors (block : List UInt8) : List BlockDescriptor :=
  ((records block blockDescriptorLen storeBlockHeaderLen 508).takeWhile
    fun record => !record.all (· == 0)).map BlockDescriptor.decode

/-- Every descriptor of a diff area, in chain then slot order. -/
def diffDescriptors (image : Image) (first : UInt64) : List BlockDescriptor :=
  (storeChain image diffAreaRecordType first).flatMap fun off =>
    blockDescriptors (image.blockAt off)

def descriptorsFor (image : Image) (first base : UInt64) :
    List BlockDescriptor :=
  (diffDescriptors image first).filter fun d => d.originalOffset = base

def blockMapOf (image : Image) (first : UInt64) : BlockMap :=
  (diffDescriptors image first).foldl
    (Groups.push BlockDescriptor.originalOffset) ∅

def bitmapPiece (block : List UInt8) : UInt64 × List UInt8 :=
  (u64At block 24, block.drop storeBlockHeaderLen)

theorem joinPieces_map (piece : α → UInt64 × List UInt8) (items : List α) :
    joinPieces (items.map piece) =
      (items.mergeSort fun v w => (piece v).1 ≤ (piece w).1).flatMap
        fun v => (piece v).2 := by
  have hsort := List.map_mergeSort
    (r := fun v w => (piece v).1 ≤ (piece w).1)
    (s := fun left right => left.1 ≤ right.1)
    (f := piece) (l := items) fun _ _ _ _ => rfl
  rw [joinPieces, ← hsort, List.flatMap_map]

def bitmapOf (image : Image) (first : UInt64) : List UInt8 :=
  joinPieces ((storeChain image bitmapRecordType first).map fun off =>
    bitmapPiece (image.blockAt off))

def diffStart (headerOff : UInt64) : UInt64 :=
  saturatingAdd headerOff (UInt64.ofNat blockSize)

def stateOf (image : Image) (headerOff bitmapOff : UInt64) :
    SnapshotState where
  volumeSize := UInt64.ofNat image.size
  blockMap := blockMapOf image (diffStart headerOff)
  bitmap := bitmapOf image bitmapOff

theorem stateOf_blockMap (image : Image) (headerOff bitmapOff : UInt64) :
    (stateOf image headerOff bitmapOff).blockMap =
      blockMapOf image (diffStart headerOff) := by
  rw [stateOf]

def VssVolume.snapshotStateOf (volume : VssVolume) (image : Image)
    (index : Nat) : Outcome VssError SnapshotState :=
  match volume.stores[index]? with
  | none => .err (.storeIndexOutOfRange index volume.stores.length)
  | some d =>
      match d.storeHeaderOffset, d.storeBitmapOffset with
      | some headerOff, some bitmapOff => .ok (stateOf image headerOff bitmapOff)
      | _, _ => .err (.storeInfoUnavailable index)

theorem VssVolume.snapshotStateOf_eq_ok {volume : VssVolume} {image : Image}
    {index : Nat} {state : SnapshotState} :
    volume.snapshotStateOf image index = .ok state ↔
      ∃ d headerOff bitmapOff, volume.stores[index]? = some d ∧
        d.storeHeaderOffset = some headerOff ∧
        d.storeBitmapOffset = some bitmapOff ∧
        state = stateOf image headerOff bitmapOff := by
  unfold snapshotStateOf
  cases hstore : volume.stores[index]? with
  | none => simp
  | some d =>
      cases hheader : d.storeHeaderOffset with
      | none => simp [hheader]
      | some headerOff =>
          cases hbitmap : d.storeBitmapOffset with
          | none => simp [hheader, hbitmap]
          | some bitmapOff => simp [hheader, hbitmap, eq_comm]

theorem VssVolume.volumeSize_of_state {volume : VssVolume} {image : Image}
    {index : Nat} {state : SnapshotState}
    (h : volume.snapshotStateOf image index = .ok state) :
    state.volumeSize = UInt64.ofNat image.size := by
  obtain ⟨d, headerOff, bitmapOff, _, _, _, rfl⟩ := snapshotStateOf_eq_ok.mp h
  rfl

theorem blockMapOf_get? (image : Image) (first base : UInt64) :
    (blockMapOf image first)[base]? =
      if descriptorsFor image first base = [] then none
      else some (descriptorsFor image first base) := by
  rw [blockMapOf, Groups.getElem?_foldl_push]
  simp [descriptorsFor]

/-! The blocks a snapshot reads, as functions of the image. -/

def inRange (image : Image) (off : UInt64) : Bool :=
  decide (off.toNat + blockSize ≤ image.size)

def sourceBlock (image : Image) (off : UInt64) : Block :=
  if inRange image off then image.read off.toNat blockSize else zeroBlock

/-- Replace the 512-byte sub-blocks an allocation bitmap selects. -/
def overlaid (out overlay : Block) (allocationBitmap : UInt32) : Block :=
  Vector.ofFn fun j : Fin blockSize =>
    if allocationBitmap.toNat.testBit (j.val / subBlockSize) then overlay[j]
    else out[j]

def patched (image : Image) (out : Block) (d : BlockDescriptor) : Block :=
  if inRange image d.storeOffset then
    overlaid out (image.read d.storeOffset.toNat blockSize) d.allocationBitmap
  else
    out

def describedBlock (image : Image) (base : UInt64)
    (descriptors : List BlockDescriptor) : Block :=
  (descriptors.filter BlockDescriptor.isPatch).foldl (patched image)
    (sourceBlock image (((rfind? BlockDescriptor.isPlain descriptors).map
      BlockDescriptor.storeOffset).getD base))

def baseOf (offset : UInt64) : UInt64 :=
  saturatingMul (offset / UInt64.ofNat blockSize) (UInt64.ofNat blockSize)

namespace SnapshotState

variable [Target]

/-- Bit `n` of the bitmap, least significant first; clear past its end. -/
def bit (state : SnapshotState) (n : UInt64) : Bool :=
  match (usizeTryFrom (n / 8)).bind (state.bitmap[·]?) with
  | none => false
  | some value => value.toNat.testBit (n % 8).toNat

def blockOf (state : SnapshotState) (image : Image) (offset : UInt64) :
    Block :=
  match state.blockMap[baseOf offset]? with
  | some (d :: rest) => describedBlock image (baseOf offset) (d :: rest)
  | _ =>
      if state.bit (offset / UInt64.ofNat blockSize) then zeroBlock
      else sourceBlock image (baseOf offset)

/-- The position a read at `offset` takes its byte `k` from: the cursor of
`read_at` saturates. -/
def position (offset : UInt64) (k : Nat) : Nat :=
  min (offset.toNat + k) (2 ^ 64 - 1)

def byteOf (state : SnapshotState) (image : Image) (position : Nat) : UInt8 :=
  (state.blockOf image (UInt64.ofNat position)).get
    ⟨position % blockSize, mod_blockSize_lt position⟩

def readAtOf (state : SnapshotState) (image : Image) (offset : UInt64)
    (len : Nat) : Vector UInt8 len :=
  Vector.ofFn fun k => state.byteOf image (position offset k.val)

end SnapshotState

/-! The programs compute these values. -/

section Runs

variable [Target] {image : Image}

theorem storeWalk_computes {recordType : UInt32}
    {collect : σ → StoreBlockHeader → List UInt8 → Outcome VssError σ}
    {gather : σ → List UInt8 → σ}
    (h : ∀ block state, block.length = blockSize →
      collect state (StoreBlockHeader.decode block) block =
        .ok (gather state block)) :
    (storeWalk recordType collect).Computes (storeBlockAccepted recordType)
      (u64At · 40) gather where
  rejected := by
    intro block _ hrejected
    have hne : ((StoreBlockHeader.decode block).recordType != recordType) =
        true := by
      simpa [storeBlockAccepted, StoreBlockHeader.decode] using hrejected
    simp only [storeWalk, StoreBlockHeader.parse_ok, Outcome.ok_bind, hne,
      if_true]
    rfl
  accepted := by
    intro block hblock haccepted
    have heq : ((StoreBlockHeader.decode block).recordType != recordType) =
        false := by
      simpa [storeBlockAccepted, StoreBlockHeader.decode] using haccepted
    refine ⟨StoreBlockHeader.decode block, ?_, fun state => h block state hblock,
      rfl⟩
    simp only [storeWalk, StoreBlockHeader.parse_ok, Outcome.ok_bind, heq]
    rfl

theorem collectRecord_ok (map : BlockMap) (record : List UInt8) :
    collectRecord map record =
      .ok (if !record.all (· == 0) then
        .next (Groups.push BlockDescriptor.originalOffset map
          (BlockDescriptor.decode record))
      else
        .stop map) := by
  rw [collectRecord, BlockDescriptor.parse_ok]
  cases record.all (· == 0) <;> rfl

theorem diffAreaWalk_computes :
    diffAreaWalk.Computes (storeBlockAccepted diffAreaRecordType)
      (u64At · 40)
      (fun map block => (blockDescriptors block).foldl
        (Groups.push BlockDescriptor.originalOffset) map) := by
  apply storeWalk_computes
  intro block map hblock
  rw [scanRecords_ok (ε := VssError) blockDescriptorLen collectRecord _
    (fun map record _ => collectRecord_ok map record) hblock 508 blockSize
    storeBlockHeaderLen map (by decide) (by decide) (by decide) (by decide),
    foldFlow_takeWhile (fun record => !record.all (· == 0))
      (fun map record => Groups.push BlockDescriptor.originalOffset map
        (BlockDescriptor.decode record)), blockDescriptors, List.foldl_map]

theorem buildBlockMap_runs (first : UInt64) :
    Runs image none (buildBlockMap first (UInt64.ofNat image.size))
      (.ok (blockMapOf image first)) none := by
  have h := ChainWalk.run_runs diffAreaWalk_computes image maxStoreBlocks []
    first ∅
  rw [blockMapOf, diffDescriptors, List.foldl_flatMap]
  exact h

theorem bitmapWalk_computes :
    bitmapWalk.Computes (storeBlockAccepted bitmapRecordType) (u64At · 40)
      (fun pieces block => pieces ++ [bitmapPiece block]) := by
  apply storeWalk_computes
  intro block pieces hblock
  have htake : (block.drop storeBlockHeaderLen).take
      (blockSize - storeBlockHeaderLen) = block.drop storeBlockHeaderLen :=
    List.take_of_length_le (by rw [List.length_drop, hblock])
  rw [sliceRange_ok (by decide) (Nat.le_of_eq hblock.symm), htake]
  rfl

theorem buildBitmap_runs (first : UInt64) :
    Runs image none (buildBitmap first (UInt64.ofNat image.size))
      (.ok (bitmapOf image first)) none := by
  have h := ChainWalk.run_runs bitmapWalk_computes image maxStoreBlocks []
    first []
  rw [foldl_append_singleton fun off => bitmapPiece (image.blockAt off)] at h
  exact Runs.bind_ok h (Runs.pure _)

theorem VssVolume.snapshotState_runs {volume : VssVolume}
    (hsize : volume.volumeSize = UInt64.ofNat image.size) (index : Nat) :
    Runs image none (volume.snapshotState index)
      (volume.snapshotStateOf image index) none := by
  unfold snapshotState snapshotStateOf
  cases hstore : volume.stores[index]? with
  | none => exact Runs.bind_err (Runs.lift _)
  | some d =>
      refine Runs.bind_ok (Runs.lift _) ?_
      cases hheader : d.storeHeaderOffset with
      | none =>
          simp only [hheader]
          exact Runs.bind_err (Runs.lift _)
      | some headerOff =>
          simp only [hheader]
          refine Runs.bind_ok (Runs.lift _) ?_
          cases hbitmap : d.storeBitmapOffset with
          | none => exact Runs.bind_err (Runs.lift _)
          | some bitmapOff =>
              simp only [hsize]
              refine Runs.bind_ok (Runs.lift _) ?_
              refine Runs.bind_ok (buildBlockMap_runs _) ?_
              refine Runs.bind_ok (buildBitmap_runs _) ?_
              exact Runs.pure (stateOf image headerOff bitmapOff)

omit [Target] in
theorem readBlockAt_runs (offset : UInt64) :
    Runs image none (readBlockAt offset (UInt64.ofNat image.size))
      (.ok (inRange image offset, sourceBlock image offset)) none := by
  unfold readBlockAt sourceBlock inRange
  rcases image.rangeCheck offset (show blockSize < 2 ^ 64 by decide) with
    ⟨hrange, stop, hstop, hle, _⟩ | ⟨hrange, hpast⟩
  · simp only [hstop, if_pos hle, decide_eq_true hrange, if_true]
    refine Runs.bind_ok (Runs.seekStart offset) ?_
    refine Runs.bind_ok (Runs.readExact _ _ hrange).forget ?_
    exact Runs.pure _
  · simp only [decide_eq_false hrange, Bool.false_eq_true, if_false]
    cases hstop : checkedAdd offset (UInt64.ofNat blockSize) with
    | none => exact Runs.pure _
    | some stop =>
        simp only [if_neg (hpast stop hstop)]
        exact Runs.pure _

def overlaidSub (overlay : Block) (allocationBitmap : UInt32) (out : Block)
    (i : Nat) : Block :=
  Vector.ofFn fun j : Fin blockSize =>
    if allocationBitmap.toNat.testBit i ∧ j.val / subBlockSize = i then
      overlay[j]
    else
      out[j]

omit [Target] in
theorem foldl_overlaidSub (out overlay : Block) (allocationBitmap : UInt32)
    (count j : Nat) (hj : j < blockSize) :
    ((List.range count).foldl (overlaidSub overlay allocationBitmap) out)[j] =
      if j / subBlockSize < count ∧
          allocationBitmap.toNat.testBit (j / subBlockSize) then
        overlay[j]
      else
        out[j] := by
  induction count with
  | zero => simp
  | succ count ih =>
      rw [List.range_succ, List.foldl_append, List.foldl_cons, List.foldl_nil,
        overlaidSub, Vector.getElem_ofFn]
      change (if _ ∧ j / subBlockSize = count then overlay[j] else
        ((List.range count).foldl (overlaidSub overlay allocationBitmap)
          out)[j]) = _
      rw [ih]
      by_cases hlast : j / subBlockSize = count
      · simp [hlast]
      · have hlt : j / subBlockSize < count + 1 ↔ j / subBlockSize < count := by
          omega
        simp [hlast, hlt]

theorem overlayTurn_ok (overlay : Block) (allocationBitmap : UInt32)
    (out : Block) {i : Nat} (hi : i < subBlockCount) :
    (do
      let mask ← shlU32 1 i
      if allocationBitmap &&& mask ≠ 0 then
        let start ← mulUsize i subBlockSize
        let stop ← addUsize start subBlockSize
        let source ← sliceRange overlay.toList start stop
        copyFromSlice out start stop source
      else
        return out : Outcome IoError Block) =
      .ok (overlaidSub overlay allocationBitmap out i) := by
  have hi : i < 32 := hi
  obtain ⟨mask, hmask, htest⟩ := shlU32_ok (ε := IoError) hi
  rw [hmask, Outcome.ok_bind]
  cases hbit : allocationBitmap.toNat.testBit i with
  | false =>
      have hclear : ¬ allocationBitmap &&& mask ≠ 0 := by
        rw [htest, hbit]
        exact Bool.false_ne_true
      rw [if_neg hclear]
      apply congrArg Outcome.ok
      apply Vector.ext
      intro j hj
      simp [overlaidSub, hbit]
  | true =>
      have hfits : i * subBlockSize + subBlockSize ≤ blockSize := by
        rw [subBlockSize_eq, blockSize_eq]
        omega
      have hsmall : blockSize < 2 ^ 32 := by decide
      obtain ⟨source, result, hslice, hcopy, hresult⟩ :=
        copySlice_ok (ε := IoError) overlay out hfits hfits
      rw [if_pos ((htest _).mpr hbit), mulUsize_ok (by omega),
        Outcome.ok_bind, addUsize_ok (by omega), Outcome.ok_bind, hslice,
        Outcome.ok_bind, hcopy]
      apply congrArg Outcome.ok
      apply Vector.ext
      intro j hj
      rw [hresult j hj, overlaidSub, Vector.getElem_ofFn]
      have hsub : (i * subBlockSize ≤ j ∧ j < i * subBlockSize + subBlockSize) ↔
          j / subBlockSize = i := by
        rw [subBlockSize_eq]
        omega
      simp only [hsub, hbit, true_and]
      split
      · rename_i hin
        rw [Nat.add_sub_cancel' (hsub.mpr hin).1]
        simp [hj]
      · rfl

theorem applyOverlay_ok (out overlay : Block) (allocationBitmap : UInt32) :
    applyOverlay out overlay allocationBitmap =
      .ok (overlaid out overlay allocationBitmap) := by
  rw [applyOverlay, Outcome.foldlM_ok _ _ fun out i hmem =>
    overlayTurn_ok overlay allocationBitmap out (List.mem_range.mp hmem)]
  apply congrArg Outcome.ok
  apply Vector.ext
  intro j hj
  have hcount : j / subBlockSize < subBlockCount := by
    rw [subBlockSize_eq, show subBlockCount = 32 from rfl]
    rw [blockSize_eq] at hj
    omega
  rw [foldl_overlaidSub, overlaid, Vector.getElem_ofFn]
  simp [hcount]

namespace SnapshotState

theorem isUnallocated_ok (state : SnapshotState) (n : UInt64) :
    state.isUnallocated n = .ok (state.bit n) := by
  unfold isUnallocated bit
  dsimp only
  cases (usizeTryFrom (n / 8)).bind (state.bitmap[·]?) with
  | none => rfl
  | some value =>
      have hbit : (n % 8).toNat < 8 := by
        rw [UInt64.toNat_mod]
        exact Nat.mod_lt _ (by decide)
      obtain ⟨mask, hmask, htest⟩ := shlU8_ok (ε := IoError) hbit
      dsimp only
      rw [hmask, Outcome.ok_bind]
      apply congrArg Outcome.ok
      rw [Bool.eq_iff_iff, bne_iff_ne]
      exact htest value

variable {state : SnapshotState}

theorem patchOverlay_runs (hsize : state.volumeSize = UInt64.ofNat image.size)
    (out : Block) (d : BlockDescriptor) :
    Runs image none (state.patchOverlay out d) (.ok (patched image out d))
      none := by
  unfold patchOverlay patched
  rw [hsize]
  refine Runs.bind_ok (readBlockAt_runs d.storeOffset) ?_
  dsimp only
  unfold sourceBlock
  cases inRange image d.storeOffset with
  | false => exact Runs.pure out
  | true => exact (Runs.lift _).congr (applyOverlay_ok _ _ _)

theorem readDescribed_runs
    (hsize : state.volumeSize = UInt64.ofNat image.size) (base : UInt64)
    (descriptors : List BlockDescriptor) :
    Runs image none (state.readDescribed base descriptors)
      (.ok (describedBlock image base descriptors)) none := by
  unfold readDescribed describedBlock
  dsimp only
  nth_rewrite 1 [hsize]
  refine Runs.bind_ok (readBlockAt_runs _) ?_
  exact Runs.foldlM _ _ fun out d _ => patchOverlay_runs hsize out d

theorem readUndescribed_runs
    (hsize : state.volumeSize = UInt64.ofNat image.size)
    (blockNumber base : UInt64) :
    Runs image none (state.readUndescribed blockNumber base)
      (.ok (if state.bit blockNumber then zeroBlock
        else sourceBlock image base)) none := by
  unfold readUndescribed
  rw [hsize, isUnallocated_ok]
  refine Runs.bind_ok (Runs.lift _) ?_
  cases state.bit blockNumber with
  | true => exact Runs.pure zeroBlock
  | false => exact Runs.bind_ok (readBlockAt_runs base) (Runs.pure _)

theorem readBlock_runs (hsize : state.volumeSize = UInt64.ofNat image.size)
    (offset : UInt64) :
    Runs image none (state.readBlock offset)
      (.ok (state.blockOf image offset)) none := by
  unfold readBlock blockOf baseOf
  dsimp only
  cases state.blockMap[saturatingMul (offset / UInt64.ofNat blockSize)
      (UInt64.ofNat blockSize)]? with
  | none => exact readUndescribed_runs hsize _ _
  | some descriptors =>
      cases descriptors with
      | nil => exact readUndescribed_runs hsize _ _
      | cons d rest => exact readDescribed_runs hsize _ _

end SnapshotState

end Runs

end ShadowCopy.Core
