import ShadowCopy.Core.Agreement
import ShadowCopy.Core.Vfs
import ShadowCopy.Data.Layer

namespace ShadowCopy.Core

open ShadowCopy.Data

/-! Where the bytes of a reconstructed block come from. -/

/-- A byte of the store or live block at a volume offset: zero when the block
does not fit. -/
def sourceByte (image : Image) (off : UInt64) (j : Nat) : UInt8 :=
  if inRange image off then image.byteAt (off.toNat + j) else 0

/-- Whether an overlay's store block fits and its bitmap has the sub-block of
byte `j`. -/
def BlockDescriptor.covers (d : BlockDescriptor) (image : Image) (j : Nat) :
    Bool :=
  inRange image d.storeOffset &&
    d.allocationBitmap.toNat.testBit (j / subBlockSize)

def patchLayer (image : Image) (d : BlockDescriptor) : Layer Nat UInt8 :=
  fun j =>
    if d.covers image j then some (image.byteAt (d.storeOffset.toNat + j))
    else none

def plainLayer (image : Image) (descriptors : List BlockDescriptor) :
    Layer Nat UInt8 :=
  fun j => (rfind? BlockDescriptor.isPlain descriptors).map fun d =>
    sourceByte image d.storeOffset j

/-- The bytes a store has saved for a block: patches over the last plain
copy. -/
def storeLayer (image : Image) (descriptors : List BlockDescriptor) :
    Layer Nat UInt8 :=
  (Layer.last ((descriptors.filter BlockDescriptor.isPatch).map
    (patchLayer image))).orElse (plainLayer image descriptors)

theorem getElem_zeroBlock (j : Nat) (hj : j < blockSize) :
    zeroBlock[j] = 0 := by
  simp [zeroBlock]

theorem getElem_sourceBlock (image : Image) (off : UInt64) (j : Nat)
    (hj : j < blockSize) :
    (sourceBlock image off)[j] = sourceByte image off j := by
  unfold sourceBlock sourceByte
  cases inRange image off with
  | true => exact image.getElem_read _ _ _ _
  | false => exact getElem_zeroBlock j hj

theorem getElem_patched (image : Image) (out : Block) (d : BlockDescriptor)
    (j : Nat) (hj : j < blockSize) :
    (patched image out d)[j] = ((patchLayer image d) j).getD out[j] := by
  unfold patched patchLayer BlockDescriptor.covers
  cases inRange image d.storeOffset with
  | false => simp
  | true =>
      simp only [Bool.true_and, if_true, overlaid, Vector.getElem_ofFn]
      cases d.allocationBitmap.toNat.testBit (j / subBlockSize) <;> simp

theorem getElem_foldl_patched (image : Image) (out : Block)
    (patches : List BlockDescriptor) (j : Nat) (hj : j < blockSize) :
    (patches.foldl (patched image) out)[j] =
      (Layer.last (patches.map (patchLayer image)) j).getD out[j] := by
  induction patches using List.reverseRecOn with
  | nil => rfl
  | append_singleton patches d ih =>
      rw [List.foldl_append, List.foldl_cons, List.foldl_nil, getElem_patched,
        ih, List.map_append, List.map_singleton, Layer.last_append_singleton,
        Layer.orElse]
      cases patchLayer image d j <;> rfl

theorem getElem_describedBlock (image : Image) (base : UInt64)
    (descriptors : List BlockDescriptor) (j : Nat) (hj : j < blockSize) :
    (describedBlock image base descriptors)[j] =
      (storeLayer image descriptors).onto (sourceByte image base) j := by
  rw [describedBlock, getElem_foldl_patched, getElem_sourceBlock, storeLayer,
    Layer.onto_orElse]
  unfold Layer.onto plainLayer
  cases rfind? BlockDescriptor.isPlain descriptors <;> rfl

theorem storeLayer_nil (image : Image) : storeLayer image [] = fun _ => none :=
  rfl

/-- The last covering overlay supplies the byte, else the last plain
descriptor. -/
theorem storeLayer_apply (image : Image) (descriptors : List BlockDescriptor)
    (j : Nat) :
    storeLayer image descriptors j =
      ((rfind? (fun d => d.isPatch && d.covers image j) descriptors).map
        fun d => image.byteAt (d.storeOffset.toNat + j)).or
          (plainLayer image descriptors j) := by
  have hlast := Layer.last_map_ite
    (descriptors.filter BlockDescriptor.isPatch)
    (fun d j => d.covers image j)
    (fun d j => image.byteAt (d.storeOffset.toNat + j)) j
  rw [storeLayer, Layer.orElse]
  apply congrArg (Option.or · (plainLayer image descriptors j))
  refine hlast.trans (congrArg (Option.map _) ?_)
  unfold rfind?
  rw [← List.filter_reverse, List.find?_filter]
  simp only [Bool.decide_and, Bool.decide_eq_true]

/-! Flags. -/

theorem and_seven_eq_zero_iff (bits : UInt32) :
    bits &&& 7 = 0 ↔
      bits &&& 1 = 0 ∧ bits &&& 2 = 0 ∧ bits &&& 4 = 0 := by
  have hbit : ∀ (mask : UInt32) (n : Nat), mask.toNat = 2 ^ n →
      (bits &&& mask = 0 ↔ bits.toNat.testBit n = false) := by
    intro mask n hmask
    rw [← Bool.not_eq_true, ← and_two_pow_ne_zero, ← hmask, not_not,
      ← UInt32.toNat_inj, UInt32.toNat_and]
    rfl
  have hseven : bits &&& 7 = 0 ↔ bits.toNat % 2 ^ 3 = 0 := by
    rw [← UInt32.toNat_inj, UInt32.toNat_and, ← Nat.and_two_pow_sub_one_eq_mod]
    rfl
  rw [hseven, hbit 1 0 rfl, hbit 2 1 rfl, hbit 4 2 rfl]
  simp only [Nat.testBit_eq_decide_div_mod_eq, decide_eq_false_iff_not]
  omega

theorem BlockDescriptor.isPlain_iff (d : BlockDescriptor) :
    d.isPlain = true ↔ d.flags.bits &&& 7 = 0 := by
  rw [and_seven_eq_zero_iff]
  simp [isPlain, BlockDescriptorFlags.isForwarder,
    BlockDescriptorFlags.isOverlay, BlockDescriptorFlags.isNotUsed,
    BlockDescriptorFlags.contains, BlockDescriptorFlags.forwarder,
    BlockDescriptorFlags.overlay, BlockDescriptorFlags.notUsed, and_assoc]

/-! Snapshots of an opened volume. -/

/-- The descriptors a store holds for the block at `base`, in chain then slot
order. -/
def VssVolume.descriptorsOf (volume : VssVolume) (image : Image) (index : Nat)
    (base : UInt64) : List BlockDescriptor :=
  match volume.stores[index]?.bind StoreDescriptor.storeHeaderOffset with
  | none => []
  | some headerOff => descriptorsFor image (diffStart headerOff) base

theorem VssVolume.descriptorsOf_eq {volume : VssVolume} {index : Nat}
    {d : StoreDescriptor} {headerOff : UInt64}
    (hstore : volume.stores[index]? = some d)
    (hheader : d.storeHeaderOffset = some headerOff) (image : Image)
    (base : UInt64) :
    volume.descriptorsOf image index base =
      descriptorsFor image (diffStart headerOff) base := by
  simp only [descriptorsOf, hstore, Option.bind_some, hheader]

/-- Bit `n` of a bitmap, least significant first; clear past its end. -/
def bitmapBit [Target] (bitmap : List UInt8) (n : UInt64) : Bool :=
  match (usizeTryFrom (n / 8)).bind (bitmap[·]?) with
  | none => false
  | some value => value.toNat.testBit (n % 8).toNat

/-- The bit a store's bitmap has for block `n`. -/
def VssVolume.bitOf [Target] (volume : VssVolume) (image : Image)
    (index : Nat) (n : UInt64) : Bool :=
  match volume.stores[index]?.bind StoreDescriptor.storeBitmapOffset with
  | none => false
  | some bitmapOff => bitmapBit (bitmapOf image bitmapOff) n

section Taken

variable [Target] {image : Image} {volume : VssVolume} {index : Nat}
  {snapshot : Snapshot}

theorem volume_eq_volumeOf (hopen : openVolume.runOn image = .ok volume) :
    volume = volumeOf image :=
  (Outcome.ok.inj ((openVolume_runs image).runOn.symm.trans hopen)).symm

theorem snapshotStateOf_of_taken
    (hopen : openVolume.runOn image = .ok volume)
    (hsnapshot : (volume.snapshot index).runOn image = .ok snapshot) :
    volume.snapshotStateOf image index = .ok snapshot := by
  have hsize : volume.volumeSize = UInt64.ofNat image.size := by
    rw [volume_eq_volumeOf hopen]
    rfl
  exact (VssVolume.snapshotState_runs hsize index).runOn.symm.trans hsnapshot

theorem index_lt_of_taken (hopen : openVolume.runOn image = .ok volume)
    (hsnapshot : (volume.snapshot index).runOn image = .ok snapshot) :
    index < volume.storeCount := by
  obtain ⟨d, _, _, hstore, _⟩ := VssVolume.snapshotStateOf_eq_ok.mp
    (snapshotStateOf_of_taken hopen hsnapshot)
  exact (List.getElem?_eq_some_iff.mp hstore).1

theorem volumeSize_of_taken (hopen : openVolume.runOn image = .ok volume)
    (hsnapshot : (volume.snapshot index).runOn image = .ok snapshot) :
    snapshot.volumeSize = UInt64.ofNat image.size :=
  VssVolume.volumeSize_of_state (snapshotStateOf_of_taken hopen hsnapshot)

theorem taken_of_store {d : StoreDescriptor} {headerOff bitmapOff : UInt64}
    (hstore : (volumeOf image).stores[index]? = some d)
    (hheader : d.storeHeaderOffset = some headerOff)
    (hbitmap : d.storeBitmapOffset = some bitmapOff) :
    ((volumeOf image).snapshot index).runOn image =
      .ok (stateOf image headerOff bitmapOff) :=
  (VssVolume.snapshotState_runs rfl index).runOn.trans
    (VssVolume.snapshotStateOf_eq_ok.mpr
      ⟨d, headerOff, bitmapOff, hstore, hheader, hbitmap, rfl⟩)

theorem readBlock_of_taken (hopen : openVolume.runOn image = .ok volume)
    (hsnapshot : (volume.snapshot index).runOn image = .ok snapshot)
    (offset : UInt64) :
    (Snapshot.readBlock snapshot offset).runOn image =
      .ok (snapshot.blockOf image offset) :=
  ((SnapshotState.readBlock_runs (volumeSize_of_taken hopen hsnapshot)
    offset).mapErr VssError.io fun _ => rfl).runOn

theorem readAt_of_taken (hopen : openVolume.runOn image = .ok volume)
    (hsnapshot : (volume.snapshot index).runOn image = .ok snapshot)
    {len : Nat} (hlen : len < Target.usizeSize) (offset : UInt64)
    (buf : Vector UInt8 len) :
    (Snapshot.readAt snapshot offset buf).runOn image =
      .ok (snapshot.readAtOf image offset len) :=
  ((SnapshotState.readAt_runs (volumeSize_of_taken hopen hsnapshot) hlen offset
    buf).mapErr VssError.io fun _ => rfl).runOn

theorem bit_of_taken (hopen : openVolume.runOn image = .ok volume)
    (hsnapshot : (volume.snapshot index).runOn image = .ok snapshot)
    (n : UInt64) : snapshot.bit n = volume.bitOf image index n := by
  obtain ⟨d, headerOff, bitmapOff, hstore, _, hbitmap, rfl⟩ :=
    VssVolume.snapshotStateOf_eq_ok.mp (snapshotStateOf_of_taken hopen hsnapshot)
  simp only [VssVolume.bitOf, hstore, Option.bind_some, hbitmap]
  rfl

def beneath (image : Image) (descriptors : List BlockDescriptor)
    (unallocated : Bool) (base : UInt64) (j : Nat) : UInt8 :=
  if descriptors = [] ∧ unallocated = true then 0 else sourceByte image base j

theorem getElem_blockOf (hopen : openVolume.runOn image = .ok volume)
    (hsnapshot : (volume.snapshot index).runOn image = .ok snapshot)
    (offset : UInt64) (j : Nat) (hj : j < blockSize) :
    (snapshot.blockOf image offset)[j] =
      (storeLayer image (volume.descriptorsOf image index (baseOf offset))).onto
        (beneath image (volume.descriptorsOf image index (baseOf offset))
          (snapshot.bit (offset / UInt64.ofNat blockSize)) (baseOf offset))
        j := by
  obtain ⟨d, headerOff, bitmapOff, hstore, hheader, _, rfl⟩ :=
    VssVolume.snapshotStateOf_eq_ok.mp (snapshotStateOf_of_taken hopen hsnapshot)
  have hmap : (stateOf image headerOff bitmapOff).blockMap[baseOf offset]? =
      if descriptorsFor image (diffStart headerOff) (baseOf offset) = [] then
        none
      else
        some (descriptorsFor image (diffStart headerOff) (baseOf offset)) := by
    rw [stateOf_blockMap, blockMapOf_get?]
  rw [VssVolume.descriptorsOf_eq hstore hheader, SnapshotState.blockOf, hmap]
  generalize (stateOf image headerOff bitmapOff).bit
    (offset / UInt64.ofNat blockSize) = unallocated
  cases descriptorsFor image (diffStart headerOff) (baseOf offset) with
  | nil =>
      cases unallocated with
      | true => simpa [beneath, Layer.onto, storeLayer_nil] using
          getElem_zeroBlock j hj
      | false => simpa [beneath, Layer.onto, storeLayer_nil] using
          getElem_sourceBlock image (baseOf offset) j hj
  | cons d rest =>
      simp only [reduceCtorEq, if_false]
      rw [getElem_describedBlock]
      simp [beneath, Layer.onto]

/-- The byte a snapshot holds at `j` in the block at `base`, given the store's
descriptors for the block and its bitmap bit. -/
def expectedByte (image : Image) (descriptors : List BlockDescriptor)
    (unallocated : Bool) (base : UInt64) (j : Nat) : UInt8 :=
  match rfind? (fun d => d.isPatch && d.covers image j) descriptors with
  | some d => image.byteAt (d.storeOffset.toNat + j)
  | none =>
      match rfind? (fun d => d.flags.bits &&& 7 == 0) descriptors with
      | some d => sourceByte image d.storeOffset j
      | none =>
          if descriptors = [] ∧ unallocated = true then 0
          else sourceByte image base j

omit [Target] in
theorem onto_storeLayer (image : Image) (descriptors : List BlockDescriptor)
    (unallocated : Bool) (base : UInt64) (j : Nat) :
    (storeLayer image descriptors).onto
        (beneath image descriptors unallocated base) j =
      expectedByte image descriptors unallocated base j := by
  have hplain : BlockDescriptor.isPlain =
      fun d => d.flags.bits &&& 7 == 0 := by
    funext d
    rw [Bool.eq_iff_iff, BlockDescriptor.isPlain_iff, beq_iff_eq]
  unfold Layer.onto
  rw [storeLayer_apply, expectedByte, plainLayer, hplain]
  cases rfind? (fun d => d.isPatch && d.covers image j) descriptors with
  | some d => rfl
  | none =>
      cases rfind? (fun d => d.flags.bits &&& 7 == 0) descriptors with
      | some d => rfl
      | none => rfl

/-- Every byte of a block, from the store's descriptors and its bitmap as they
lie on the volume. -/
theorem readBlock_bytes (hopen : openVolume.runOn image = .ok volume)
    (hsnapshot : (volume.snapshot index).runOn image = .ok snapshot)
    (offset base : UInt64)
    (hbase : base.toNat = offset.toNat / blockSize * blockSize) :
    (∀ n, snapshot.bit n = volume.bitOf image index n) ∧
    ∃ block, (Snapshot.readBlock snapshot offset).runOn image = .ok block ∧
      ∀ j (hj : j < blockSize), block[j] =
        expectedByte image (volume.descriptorsOf image index base)
          (volume.bitOf image index (offset / UInt64.ofNat blockSize))
          base j := by
  have hbaseOf : base = baseOf offset := by
    rw [← UInt64.toNat_inj, hbase, toNat_baseOf]
  subst hbaseOf
  have hbit := bit_of_taken hopen hsnapshot
  refine ⟨hbit, _, readBlock_of_taken hopen hsnapshot offset, fun j hj => ?_⟩
  rw [getElem_blockOf hopen hsnapshot, onto_storeLayer, hbit]

end Taken

theorem readBlock_bytes_sample :
    ∃ block : Block,
      (@Snapshot.readBlock Target.bits64
        (stateOf (sample []) 81920 114688) 131077).runOn (sample []) =
          .ok block ∧ ∀ hj : 0 < blockSize, block[0] = 0xBB := by
  let _ := Target.bits64
  obtain ⟨_, block, hread, hbytes⟩ := readBlock_bytes
    (openVolume_runs (sample [])).runOn
    (taken_of_store sample_newer rfl rfl) 131077 131072 (by decide)
  refine ⟨block, hread, fun hj => ?_⟩
  rw [hbytes 0 hj, VssVolume.descriptorsOf_eq sample_newer rfl,
    descriptorsFor, sample_newer_descriptors]
  decide +kernel

end ShadowCopy.Core
