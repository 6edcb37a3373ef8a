import ShadowCopy.Data.CopyOnWrite
import ShadowCopy.Format.Volume
import ShadowCopy.Reconstruction.Supply

namespace ShadowCopy.Core

open ShadowCopy.Data

/-! A store that holds what copy-on-write kept gives the volume back as it was
before the writes. -/

namespace StoreLayout

/-- A descriptor's byte in the blocks the store has saved. -/
def savedByte (store : StoreLayout) (d : BlockDescriptor) (j : Nat) : UInt8 :=
  ((store.saved.lookup d.storeOffset).bind (·[j]?)).getD 0

/-- What the store has saved of the block at `base`. -/
def savedLayer (store : StoreLayout) (base : UInt64) : Layer Nat UInt8 :=
  fun j =>
    let listed := store.descriptors.filter fun d => d.originalOffset = base
    let selects := fun d : BlockDescriptor =>
      d.isPatch && d.allocationBitmap.toNat.testBit (j / subBlockSize)
    ((rfind? selects listed).or (rfind? BlockDescriptor.isPlain listed)).map
      (store.savedByte · j)

/-- Every descriptor that supplies data names a saved block. -/
def Complete (store : StoreLayout) : Prop :=
  ∀ d ∈ store.descriptors, (d.isPatch || d.isPlain) = true →
    (store.saved.lookup d.storeOffset).isSome

variable {store : StoreLayout} {image : Image}

theorem mem_of_lookup {items : List (UInt64 × Block)} {off : UInt64}
    {block : Block} (h : items.lookup off = some block) :
    (off, block) ∈ items := by
  induction items with
  | nil => contradiction
  | cons item rest ih =>
      obtain ⟨key, value⟩ := item
      rw [List.lookup_cons] at h
      cases hkey : off == key with
      | true =>
          rw [hkey] at h
          rw [eq_of_beq hkey, ← Option.some.inj h]
          exact List.mem_cons_self ..
      | false =>
          rw [hkey] at h
          exact List.mem_cons_of_mem _ (ih h)

/-- A supplying descriptor's store block fits and holds its saved bytes. -/
theorem LaidOut.supplies (h : store.LaidOut image) (hcomplete : store.Complete)
    {d : BlockDescriptor} (hmem : d ∈ store.descriptors)
    (hsupplies : (d.isPatch || d.isPlain) = true) :
    inRange image d.storeOffset = true ∧
      ∀ j, j < blockSize →
        image.byteAt (d.storeOffset.toNat + j) = store.savedByte d j := by
  obtain ⟨block, hblock⟩ :=
    Option.isSome_iff_exists.mp (hcomplete d hmem hsupplies)
  have hheld := h.saved (mem_of_lookup hblock)
  have hinside := hheld.inside
  rw [Vector.length_toList] at hinside
  refine ⟨decide_eq_true hinside, fun j hj => ?_⟩
  have hbyte := hheld.byteAt (show j < block.toList.length by
    rwa [Vector.length_toList])
  rw [hbyte, savedByte, hblock]
  simp [hj]

/-- What the reader finds saved is what the store has saved. -/
theorem LaidOut.storeLayer_eq (h : store.LaidOut image)
    (hcomplete : store.Complete) (base : UInt64) {j : Nat}
    (hj : j < blockSize) :
    storeLayer image
        (store.descriptors.filter fun d => d.originalOffset = base) j =
      store.savedLayer base j := by
  have hmem : ∀ d ∈ store.descriptors.filter fun d => d.originalOffset = base,
      d ∈ store.descriptors := fun d hd => (List.mem_filter.mp hd).1
  simp only [savedLayer]
  generalize store.descriptors.filter (fun d => d.originalOffset = base) =
    listed at hmem
  have hselects : rfind? (fun d => d.isPatch && d.covers image j) listed =
      rfind? (fun d : BlockDescriptor => d.isPatch &&
        d.allocationBitmap.toNat.testBit (j / subBlockSize)) listed := by
    apply rfind?_congr
    intro d hd
    cases hpatch : d.isPatch with
    | false => rfl
    | true =>
        have hsupplies : (d.isPatch || d.isPlain) = true := by
          rw [hpatch, Bool.true_or]
        rw [BlockDescriptor.covers,
          (h.supplies hcomplete (hmem d hd) hsupplies).1]
        rfl
  rw [storeLayer_apply, hselects, plainLayer]
  cases hpatch : rfind? (fun d : BlockDescriptor => d.isPatch &&
      d.allocationBitmap.toNat.testBit (j / subBlockSize)) listed with
  | some d =>
      have htest := rfind?_test hpatch
      have hsupplies : (d.isPatch || d.isPlain) = true := by
        rw [(Bool.and_eq_true_iff.mp htest).1, Bool.true_or]
      exact congrArg some ((h.supplies hcomplete
        (hmem d (mem_of_rfind? hpatch)) hsupplies).2 j hj)
  | none =>
      cases hplain : rfind? BlockDescriptor.isPlain listed with
      | none => rfl
      | some d =>
          have hsupplies : (d.isPatch || d.isPlain) = true := by
            rw [rfind?_test hplain, Bool.or_true]
          obtain ⟨hrange, hbytes⟩ := h.supplies hcomplete
            (hmem d (mem_of_rfind? hplain)) hsupplies
          have hsource : sourceByte image d.storeOffset j =
              store.savedByte d j := by
            rw [sourceByte, if_pos hrange, hbytes j hj]
          exact congrArg some hsource

end StoreLayout

def baseAt (position : Nat) : UInt64 :=
  UInt64.ofNat (position / blockSize * blockSize)

section Positions

variable {position : Nat}

theorem toNat_baseAt (h : position < 2 ^ 64) :
    (baseAt position).toNat = position / blockSize * blockSize :=
  UInt64.toNat_ofNat_of_lt' (Nat.lt_of_le_of_lt (Nat.div_mul_le_self _ _) h)

theorem baseOf_ofNat (h : position < 2 ^ 64) :
    baseOf (UInt64.ofNat position) = baseAt position := by
  rw [← UInt64.toNat_inj, toNat_baseOf, UInt64.toNat_ofNat_of_lt' h,
    toNat_baseAt h]

theorem ofNat_div_blockSize (h : position < 2 ^ 64) :
    UInt64.ofNat position / UInt64.ofNat blockSize =
      UInt64.ofNat (position / blockSize) := by
  rw [← UInt64.toNat_inj, toNat_div_blockSize, UInt64.toNat_ofNat_of_lt' h]
  exact (UInt64.toNat_ofNat_of_lt'
    (Nat.lt_of_le_of_lt (Nat.div_le_self _ _) h)).symm

/-- In a whole block the source of a position is the position itself. -/
theorem sourceByte_baseAt {image : Image} (h : position < 2 ^ 64)
    (hinside : position / blockSize * blockSize + blockSize ≤ image.size) :
    sourceByte image (baseAt position) (position % blockSize) =
      image.byteAt position := by
  have hrange : inRange image (baseAt position) = true := by
    apply decide_eq_true
    rw [toNat_baseAt h]
    exact hinside
  rw [sourceByte, if_pos hrange, toNat_baseAt h]
  exact congrArg image.byteAt
    ((Nat.mul_comm _ _).symm ▸ Nat.div_add_mod position blockSize)

end Positions

section Restore

variable [Target]

/-- The live byte, or zero in a block that the store marks as unallocated and
has no descriptor of. -/
def StoreLayout.liveByte (store : StoreLayout) (image : Image)
    (position : Nat) : UInt8 :=
  if (∀ d ∈ store.descriptors, d.originalOffset ≠ baseAt position) ∧
      (store.state image.size).bit (UInt64.ofNat (position / blockSize)) =
        true then
    0
  else
    image.byteAt position

/-- At a position in a whole block, the store has saved what the writes
replaced, and otherwise the live byte is theirs. -/
structure Tracked (store : StoreLayout) (image : Image)
    (written : CopyOnWrite Nat UInt8) (position : Nat) : Prop where
  inside : position / blockSize * blockSize + blockSize ≤ image.size
  saved : store.savedLayer (baseAt position) (position % blockSize) =
    Layer.first written.kept position
  live : Layer.first written.kept position = none →
    store.liveByte image position = written.live position

variable {layout : VolumeLayout} {image : Image} {store : StoreLayout}
  {written : CopyOnWrite Nat UInt8} {position : Nat}

/-- A tracked position reads as it stood before the writes. -/
theorem byteOf_of_tracked (h : layout.LaidOut image) {index : Nat}
    {copy : CopyLayout} (hcopy : layout.copies[index]? = some copy)
    (hstore : copy.store = some store) (hcomplete : store.Complete)
    (htracked : Tracked store image written position) :
    (store.state image.size).byteOf image position = written.view position := by
  have hlaid := store_laidOut h (List.mem_of_getElem? hcopy) hstore
  have hinside := htracked.inside
  have hsize := image.size_lt
  have hmod := mod_blockSize_lt position
  have hlt : position < 2 ^ 64 := by
    rw [blockSize_eq] at hinside
    omega
  have hlisted := listed_of_laidOut h hcopy
  have hheader := CopyLayout.header_of_store hstore
  have htaken := taken_of_store hlisted hheader
    (CopyLayout.bitmap_of_store hstore)
  rw [hlaid.stateOf_eq] at htaken
  have hbyte := getElem_blockOf (openVolume_runs image).runOn htaken
    (UInt64.ofNat position) _ hmod
  rw [VssVolume.descriptorsOf_eq hlisted hheader, descriptorsFor,
    hlaid.diffDescriptors_eq, baseOf_ofNat hlt, Layer.onto,
    hlaid.storeLayer_eq hcomplete _ hmod, htracked.saved] at hbyte
  have hget : (store.state image.size).byteOf image position =
      ((store.state image.size).blockOf image (UInt64.ofNat position))[
        position % blockSize] := rfl
  rw [hget, hbyte, CopyOnWrite.view, Layer.onto]
  cases hkept : Layer.first written.kept position with
  | some value => rfl
  | none =>
      have hnone : store.descriptors.filter
          (fun d => d.originalOffset = baseAt position) = [] ↔
            ∀ d ∈ store.descriptors, d.originalOffset ≠ baseAt position := by
        simp [List.filter_eq_nil_iff]
      rw [Option.getD_none, Option.getD_none, ← htracked.live hkept, beneath,
        ofNat_div_blockSize hlt, sourceByte_baseAt hlt hinside,
        StoreLayout.liveByte]
      simp only [hnone]

end Restore

/-- Whatever was written over a volume since, a snapshot reads it as it was:
as long as its store lies on the image and has saved what the writes
replaced. -/
theorem snapshot_restores [Target] {layout : VolumeLayout} {image : Image}
    {index len : Nat} {copy : CopyLayout} {store : StoreLayout}
    {offset : UInt64} (base : Nat → UInt8) (writes : List (Layer Nat UInt8))
    (hlaid : layout.LaidOut image) (hcopy : layout.copies[index]? = some copy)
    (hstore : copy.store = some store) (hcomplete : store.Complete)
    (hlen : len < Target.usizeSize)
    (htracked : ∀ k < len, Tracked store image (CopyOnWrite.run base writes)
      (offset.toNat + k)) (buf : Vector UInt8 len) :
    Returns image
      (do
        let volume ← openVolume
        let snapshot ← volume.snapshot index
        Snapshot.readAt snapshot offset buf)
      (Vector.ofFn fun k => base (offset.toNat + k)) := by
  have hstate := snapshotStateOf_of_laidOut hlaid hcopy hstore
  have hread := (SnapshotState.readAt_runs
    (VssVolume.volumeSize_of_state hstate) hlen offset buf).mapErr
      VssError.io fun _ => rfl
  have hbytes : (store.state image.size).readAtOf image offset len =
      Vector.ofFn fun k => base (offset.toNat + k) := by
    apply Vector.ext
    intro k hk
    have hinside := (htracked k hk).inside
    have hsize := image.size_lt
    have hposition : SnapshotState.position offset k = offset.toNat + k := by
      rw [blockSize_eq] at hinside
      unfold SnapshotState.position
      omega
    rw [SnapshotState.readAtOf, Vector.getElem_ofFn, Vector.getElem_ofFn,
      hposition, byteOf_of_tracked hlaid hcopy hstore hcomplete
        (htracked k hk), CopyOnWrite.view_run]
  rw [hbytes] at hread
  have hsnapshot : Runs image none ((volumeOf image).snapshot index)
      ((volumeOf image).snapshotStateOf image index) none :=
    VssVolume.snapshotState_runs rfl index
  exact (Runs.bind_ok (openVolume_runs image)
    (Runs.bind_ok (hsnapshot.congr hstate) hread)).yields rfl

/-! The shadow copy of the block at 81920, which was then overwritten. -/

/-- The block at 81920 as it was, and the others. -/
def oneBase (position : Nat) : UInt8 :=
  if 81920 ≤ position ∧ position < 98304 then 0xBB else 0xAA

def oneWrite : Layer Nat UInt8 := fun position =>
  if 81920 ≤ position ∧ position < 98304 then some 0xAA else none

theorem oneStore_descriptors :
    oneStore.descriptors = [⟨81920, 0, 65536, ⟨0⟩, 0⟩] := by
  decide

theorem oneStore_complete : oneStore.Complete := by
  intro d hd _
  rw [oneStore_descriptors] at hd
  rw [List.mem_singleton.mp hd]
  rfl

theorem oneStore_bit [Target] (size : Nat) (n : UInt64) :
    (oneStore.state size).bit n = false := by
  have hbitmap : (oneStore.state size).bitmap = [] := by
    simp [StoreLayout.state, oneStore, joinPieces]
  unfold SnapshotState.bit
  rw [hbitmap]
  cases usizeTryFrom (n / 8) <;> rfl

theorem oneBackground_byteAt {position : Nat} (h : 81920 ≤ position)
    (hlt : position < 114688) :
    (oneLayout.write oneBackground).byteAt position = 0xAA := by
  have hspans : ∀ span ∈ oneLayout.spans, span.1 + span.2 ≤ 81920 := by
    decide +kernel
  rw [← VolumeLayout.map_span_extents, List.forall_mem_map] at hspans
  have houtside : (oneLayout.write oneBackground).byteAt position =
      oneBackground.byteAt position := by
    apply Image.byteAt_writeAll_outside
    exact fun extent hmem => .inr (Nat.le_trans (hspans extent hmem) h)
  rw [houtside]
  exact dif_pos hlt

theorem oneStore_savedLayer (base : UInt64) {j : Nat} (hj : j < blockSize) :
    oneStore.savedLayer base j = if base = 81920 then some 0xBB else none := by
  have hsaved : oneStore.savedByte ⟨81920, 0, 65536, ⟨0⟩, 0⟩ j = 0xBB := by
    have hlookup : oneStore.saved.lookup 65536 =
        some (Vector.replicate blockSize 0xBB) := rfl
    simp [StoreLayout.savedByte, hlookup, hj]
  unfold StoreLayout.savedLayer
  rw [oneStore_descriptors]
  by_cases hbase : base = 81920
  · subst hbase
    rw [if_pos rfl, ← hsaved]
    rfl
  · rw [List.filter_cons_of_neg (by simpa using Ne.symm hbase), if_neg hbase]
    rfl

theorem oneStore_tracked [Target] {position : Nat} (h : 81920 ≤ position)
    (hlt : position < 114688) :
    Tracked oneStore (oneLayout.write oneBackground)
      (CopyOnWrite.run oneBase [oneWrite]) position := by
  have hbase : baseAt position = 81920 ↔ position < 98304 := by
    rw [← UInt64.toNat_inj, toNat_baseAt (Nat.lt_trans hlt (by decide)),
      blockSize_eq]
    show _ = 81920 ↔ _
    omega
  have hkept : Layer.first (CopyOnWrite.run oneBase [oneWrite]).kept position =
      if position < 98304 then some 0xBB else none := by
    simp only [CopyOnWrite.run, CopyOnWrite.start, CopyOnWrite.write,
      CopyOnWrite.replaced, List.foldl_cons, List.foldl_nil, List.nil_append,
      Layer.first_singleton, Layer.first_nil, oneWrite, oneBase, h, true_and]
    split <;> simp_all
  refine ⟨?_, ?_, fun hnone => ?_⟩
  · rw [VolumeLayout.write, Image.size_writeAll, blockSize_eq]
    show _ ≤ 114688
    omega
  · simp only [oneStore_savedLayer _ (mod_blockSize_lt position), hbase, hkept]
  · have hlater : ¬ position < 98304 := fun hbefore => by
      rw [hkept, if_pos hbefore] at hnone
      contradiction
    rw [StoreLayout.liveByte, oneStore_bit, oneBackground_byteAt h hlt,
      if_neg (fun hfree => Bool.false_ne_true hfree.2)]
    simp [CopyOnWrite.run, CopyOnWrite.start, CopyOnWrite.write, Layer.onto,
      oneWrite, oneBase, hlater]

/-- Two bytes from the saved block and two from the live one after it. -/
theorem snapshot_restores_one : let _ := Target.bits64
    Returns (oneLayout.write oneBackground)
      (do
        let volume ← openVolume
        let snapshot ← volume.snapshot 0
        Snapshot.readAt snapshot 98302 (Vector.replicate 4 0))
      #v[0xBB, 0xBB, 0xAA, 0xAA] := by
  intro _
  exact snapshot_restores oneBase [oneWrite]
    (VolumeLayout.write_laidOut oneLayout_fits) rfl rfl
    oneStore_complete (by decide)
    (fun k hk => oneStore_tracked
      (by show 81920 ≤ 98302 + k; omega) (by show 98302 + k < 114688; omega)) _

end ShadowCopy.Core
