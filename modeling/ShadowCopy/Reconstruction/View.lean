import ShadowCopy.Reconstruction.Supply

namespace ShadowCopy.Core

open ShadowCopy.Data

/-! The volume as it stood: what several shadow copies save between them. -/

def VssVolume.usedDescriptors (volume : VssVolume) (image : Image)
    (base : UInt64) (index : Nat) : List BlockDescriptor :=
  (volume.descriptorsOf image index base).filter fun d => !d.flags.isNotUsed

/-- A store's saved data over the block as the newer stores left it. -/
def overlayRule (image : Image) (descriptors : List BlockDescriptor)
    (under : Block) : Block :=
  (descriptors.filter BlockDescriptor.isPatch).foldl (patched image)
    (match rfind? BlockDescriptor.isPlain descriptors with
      | some d => sourceBlock image d.storeOffset
      | none => under)

/-- The view of a block from the first of some stores, the newest last. -/
def viewBlock (image : Image) (live : Block) :
    List (List BlockDescriptor) → Block
  | [] => live
  | descriptors :: newer =>
      if descriptors = [] then
        viewBlock image live newer
      else
        overlayRule image descriptors (viewBlock image live newer)

def VssVolume.viewOf (volume : VssVolume) (image : Image) (index : Nat)
    (base : UInt64) : Block :=
  viewBlock image (sourceBlock image base)
    (((List.range volume.storeCount).drop index).map
      (volume.usedDescriptors image base))

/-- What a snapshot should read: the view, except for zeros where the store
saved nothing and marked the block as unallocated. -/
def VssVolume.snapshotView [Target] (volume : VssVolume) (image : Image)
    (index : Nat) (snapshot : Snapshot) (base : UInt64) : Block :=
  if volume.usedDescriptors image base index = [] ∧
      snapshot.bit (base / UInt64.ofNat blockSize) = true then
    zeroBlock
  else
    volume.viewOf image index base

theorem isNotUsed_of_isPlain {d : BlockDescriptor} (h : d.isPlain = true) :
    (!d.flags.isNotUsed) = true := by
  simp only [BlockDescriptor.isPlain, Bool.and_eq_true] at h
  exact h.2

theorem isNotUsed_of_isPatch {d : BlockDescriptor} (h : d.isPatch = true) :
    (!d.flags.isNotUsed) = true := by
  simp only [BlockDescriptor.isPatch, Bool.and_eq_true] at h
  exact h.2

theorem storeLayer_filter (image : Image)
    (descriptors : List BlockDescriptor) :
    storeLayer image (descriptors.filter fun d => !d.flags.isNotUsed) =
      storeLayer image descriptors := by
  have hpatches : (descriptors.filter fun d => !d.flags.isNotUsed).filter
      BlockDescriptor.isPatch = descriptors.filter BlockDescriptor.isPatch := by
    rw [List.filter_filter]
    apply List.filter_congr
    intro d _
    cases hpatch : d.isPatch with
    | false => rfl
    | true => rw [isNotUsed_of_isPatch hpatch]; rfl
  have hplain : plainLayer image (descriptors.filter fun d =>
      !d.flags.isNotUsed) = plainLayer image descriptors := by
    unfold plainLayer
    rw [rfind?_filter descriptors fun _ => isNotUsed_of_isPlain]
  rw [storeLayer, storeLayer, hpatches, hplain]

theorem getElem_overlayRule (image : Image)
    (descriptors : List BlockDescriptor) (under : Block) (j : Nat)
    (hj : j < blockSize) :
    (overlayRule image descriptors under)[j] =
      (storeLayer image descriptors j).getD under[j] := by
  rw [overlayRule, getElem_foldl_patched, storeLayer, Layer.orElse, plainLayer]
  cases Layer.last ((descriptors.filter BlockDescriptor.isPatch).map
      (patchLayer image)) j with
  | some value => rfl
  | none =>
      cases rfind? BlockDescriptor.isPlain descriptors with
      | none => rfl
      | some d => exact getElem_sourceBlock image d.storeOffset j hj

theorem getElem_viewBlock (image : Image) (live : Block)
    (stores : List (List BlockDescriptor)) (j : Nat) (hj : j < blockSize) :
    (viewBlock image live stores)[j] =
      (Layer.first (stores.map (storeLayer image)) j).getD live[j] := by
  induction stores with
  | nil => rfl
  | cons descriptors newer ih =>
      rw [viewBlock, List.map_cons, Layer.first_cons, Layer.orElse]
      by_cases hnone : descriptors = []
      · subst hnone
        rw [if_pos rfl, ih, storeLayer_nil, Option.none_or]
      · rw [if_neg hnone, getElem_overlayRule, ih]
        cases storeLayer image descriptors j <;> rfl

section Taken

variable [Target] {image : Image} {volume : VssVolume} {index : Nat}
  {snapshot : Snapshot}

def VssVolume.newerLayer (volume : VssVolume) (image : Image) (index : Nat)
    (base : UInt64) : Layer Nat UInt8 :=
  Layer.first (((List.range volume.storeCount).drop (index + 1)).map
    fun newer => storeLayer image (volume.usedDescriptors image base newer))

omit [Target] in
theorem getElem_viewOf (hindex : index < volume.storeCount) (base : UInt64)
    (j : Nat) (hj : j < blockSize) :
    (volume.viewOf image index base)[j] =
      (storeLayer image (volume.usedDescriptors image base index)).onto
        ((volume.newerLayer image index base).onto (sourceByte image base))
        j := by
  have hdrop : (List.range volume.storeCount).drop index =
      index :: (List.range volume.storeCount).drop (index + 1) := by
    rw [List.drop_eq_getElem_cons (by simpa using hindex), List.getElem_range]
  rw [VssVolume.viewOf, getElem_viewBlock, getElem_sourceBlock, hdrop,
    List.map_cons, List.map_cons, Layer.first_cons, ← Layer.onto_orElse,
    List.map_map]
  rfl

/-- When a block needs nothing that only a newer store has saved. -/
def OwnOrLive (volume : VssVolume) (image : Image) (index : Nat)
    (snapshot : Snapshot) (base : UInt64) : Prop :=
  if volume.usedDescriptors image base index = [] ∧
      snapshot.bit (base / UInt64.ofNat blockSize) = true then
    volume.descriptorsOf image index base = [] ∨
      ∀ j, j < blockSize → sourceByte image base j = 0
  else
    ∀ j, j < blockSize →
      (storeLayer image (volume.usedDescriptors image base index) j).isSome ∨
        ∀ value, volume.newerLayer image index base j = some value →
          value = sourceByte image base j

omit [Target] in
theorem baseOf_eq_self {base : UInt64} (hbase : base.toNat % blockSize = 0) :
    baseOf base = base := by
  rw [← UInt64.toNat_inj, toNat_baseOf]
  exact Nat.div_mul_cancel (Nat.dvd_of_mod_eq_zero hbase)

theorem getElem_blockOf_eq_iff (hopen : openVolume.runOn image = .ok volume)
    (hsnapshot : (volume.snapshot index).runOn image = .ok snapshot)
    (base : UInt64) (hbase : base.toNat % blockSize = 0)
    (hview : ¬ (volume.usedDescriptors image base index = [] ∧
      snapshot.bit (base / UInt64.ofNat blockSize) = true))
    (j : Nat) (hj : j < blockSize) :
    (snapshot.blockOf image base)[j] = (volume.viewOf image index base)[j] ↔
      (storeLayer image (volume.usedDescriptors image base index) j).isSome ∨
        ∀ value, volume.newerLayer image index base j = some value →
          value = sourceByte image base j := by
  have hlayer : storeLayer image (volume.usedDescriptors image base index) =
      storeLayer image (volume.descriptorsOf image index base) :=
    storeLayer_filter image _
  have hbeneath : beneath image (volume.descriptorsOf image index base)
      (snapshot.bit (base / UInt64.ofNat blockSize)) base =
      sourceByte image base := by
    funext j
    apply if_neg
    intro h
    apply hview
    rw [VssVolume.usedDescriptors, h.1]
    exact ⟨rfl, h.2⟩
  rw [getElem_blockOf hopen hsnapshot, baseOf_eq_self hbase, hbeneath,
    getElem_viewOf (index_lt_of_taken hopen hsnapshot), hlayer,
    Layer.onto_eq_onto_iff, Layer.eq_onto_iff]

/-- A snapshot reads the volume as it stood exactly where its own store or the
live volume still has the bytes: the newer stores are never consulted. -/
theorem readBlock_view_iff (hopen : openVolume.runOn image = .ok volume)
    (hsnapshot : (volume.snapshot index).runOn image = .ok snapshot)
    (base : UInt64) (hbase : base.toNat % blockSize = 0) :
    (Snapshot.readBlock snapshot base).runOn image =
        .ok (volume.snapshotView image index snapshot base) ↔
      OwnOrLive volume image index snapshot base := by
  have hbytes : ∀ block : Block, snapshot.blockOf image base = block ↔
      ∀ j (hj : j < blockSize),
        (snapshot.blockOf image base)[j] = block[j] := fun block =>
    ⟨fun h j hj => by rw [h], fun h => Vector.ext fun j hj => h j hj⟩
  rw [readBlock_of_taken hopen hsnapshot, Outcome.ok.injEq,
    VssVolume.snapshotView, OwnOrLive]
  split
  · rename_i hzero
    have hnone : storeLayer image (volume.descriptorsOf image index base) =
        fun _ => none := by
      rw [← storeLayer_filter, ← storeLayer_nil]
      exact congrArg (storeLayer image) hzero.1
    rw [hbytes]
    constructor
    · intro h
      by_cases hraw : volume.descriptorsOf image index base = []
      · exact .inl hraw
      · refine .inr fun j hj => ?_
        have hbyte := h j hj
        rw [getElem_blockOf hopen hsnapshot, baseOf_eq_self hbase,
          getElem_zeroBlock, hnone] at hbyte
        simpa [Layer.onto, beneath, hraw] using hbyte
    · intro h j hj
      rw [getElem_blockOf hopen hsnapshot, baseOf_eq_self hbase,
        getElem_zeroBlock, hnone]
      rcases h with hraw | hlive
      · simp [Layer.onto, beneath, hraw, hzero.2]
      · simp [Layer.onto, beneath, hlive j hj]
  · rename_i hview
    rw [hbytes]
    exact forall_congr' fun j => forall_congr' fun hj =>
      getElem_blockOf_eq_iff hopen hsnapshot base hbase hview j hj

end Taken

theorem sample_newer_descriptorsOf :
    (volumeOf (sample [])).descriptorsOf (sample []) 1 131072 =
      [sampleDescriptor] := by
  rw [VssVolume.descriptorsOf_eq sample_newer rfl, descriptorsFor,
    sample_newer_descriptors]
  decide +kernel

theorem readBlock_view_newer : let _ := Target.bits64
    (Snapshot.readBlock (stateOf (sample []) 81920 114688) 131072).runOn
        (sample []) =
      .ok ((volumeOf (sample [])).snapshotView (sample []) 1
        (stateOf (sample []) 81920 114688) 131072) := by
  intro _
  refine (readBlock_view_iff (openVolume_runs (sample [])).runOn
    (taken_of_store sample_newer rfl rfl) 131072 (by decide)).mpr ?_
  have hused : (volumeOf (sample [])).usedDescriptors (sample []) 131072 1 =
      [sampleDescriptor] := by
    rw [VssVolume.usedDescriptors, sample_newer_descriptorsOf]
    decide +kernel
  rw [OwnOrLive, if_neg (by rw [hused]; simp)]
  refine fun j _ => .inl ?_
  have hplain : rfind? BlockDescriptor.isPlain [sampleDescriptor] =
      some sampleDescriptor := by decide
  rw [hused, storeLayer_apply, plainLayer, hplain]
  simp

/-- The older of two snapshots reads the live bytes of a block that only the
newer one has saved. -/
theorem readBlock_view_sample : let _ := Target.bits64
    ∃ volume snapshot block, openVolume.runOn (sample []) = .ok volume ∧
      volume.stores.Pairwise (fun older newer =>
        older.creationTime < newer.creationTime) ∧
      (∀ d ∈ volume.stores, d.storeHeaderOffset.isSome) ∧
      (131072 : UInt64).toNat % blockSize = 0 ∧
      (131072 : UInt64).toNat + blockSize ≤ (sample []).size ∧
      (volume.snapshot 0).runOn (sample []) = .ok snapshot ∧
      (Snapshot.readBlock snapshot 131072).runOn (sample []) = .ok block ∧
      block ≠ volume.snapshotView (sample []) 0 snapshot 131072 := by
  intro _
  have hopen := (openVolume_runs (sample [])).runOn
  have hsnapshot := taken_of_store sample_older rfl rfl
  refine ⟨_, _, _, hopen, ?_, ?_, by decide, by decide, hsnapshot,
    readBlock_of_taken hopen hsnapshot 131072, fun hblock => ?_⟩
  · rw [sample_stores]
    decide +kernel
  · rw [sample_stores]
    decide +kernel
  · have hbit := sample_older_bit (131072 / UInt64.ofNat blockSize)
    have hview : ¬ ((volumeOf (sample [])).usedDescriptors (sample []) 131072 0
        = [] ∧ (stateOf (sample []) 32768 65536).bit
          (131072 / UInt64.ofNat blockSize) = true) := by
      rw [hbit]
      exact fun h => Bool.noConfusion h.2
    rw [VssVolume.snapshotView, if_neg hview] at hblock
    have hbyte := (getElem_blockOf_eq_iff hopen hsnapshot 131072 (by decide)
      hview 0 (by decide)).mp (by rw [hblock])
    have hrange : (List.range (volumeOf (sample [])).storeCount).drop (0 + 1) =
        [1] := by
      rw [VssVolume.storeCount, sample_stores]
      rfl
    rw [VssVolume.newerLayer, hrange, VssVolume.usedDescriptors,
      VssVolume.descriptorsOf_eq sample_older rfl, descriptorsFor,
      sample_older_descriptors] at hbyte
    rcases hbyte with hown | hlive
    · exact absurd hown (by decide +kernel)
    · have hsaved : Layer.first ([1].map fun newer =>
          storeLayer (sample []) ((volumeOf (sample [])).usedDescriptors
            (sample []) 131072 newer)) 0 = some 0xBB := by
        rw [List.map_singleton, VssVolume.usedDescriptors,
          sample_newer_descriptorsOf]
        decide +kernel
      have hlive := hlive 0xBB hsaved
      exact absurd hlive (by decide +kernel)

end ShadowCopy.Core
