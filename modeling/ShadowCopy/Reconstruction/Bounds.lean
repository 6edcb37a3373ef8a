import ShadowCopy.Catalog.Enumeration
import ShadowCopy.Reconstruction.Chains
import ShadowCopy.Reconstruction.Supply
import Mathlib.Data.List.Perm.Subperm

namespace ShadowCopy.Core

open ShadowCopy.Data

/-! What a chain of blocks can hold. -/

theorem length_catalogEntries (block : List UInt8) :
    (catalogEntries block).length = 127 := by
  have hrecords : ∀ off count,
      (records block catalogEntryLen off count).length = count := by
    intro off count
    induction count generalizing off with
    | zero => rfl
    | succ count ih => exact congrArg (· + 1) (ih (off + catalogEntryLen))
  rw [catalogEntries, List.length_map, hrecords]

theorem length_blockDescriptors_le (image : Image) (off : UInt64) :
    (blockDescriptors (image.blockAt off)).length ≤ 508 := by
  rw [Image.blockDescriptors_blockAt, List.length_map]
  refine Nat.le_trans (List.takeWhile_sublist _).length_le ?_
  rw [List.length_map, List.length_range]

theorem length_flatMap_le {items : List α} {part : α → List β} {bound : Nat}
    (h : ∀ item, (part item).length ≤ bound) :
    (items.flatMap part).length ≤ bound * items.length := by
  induction items with
  | nil => exact Nat.zero_le _
  | cons item rest ih =>
      rw [List.flatMap_cons, List.length_append, List.length_cons,
        Nat.mul_succ, Nat.add_comm]
      exact Nat.add_le_add ih (h item)

theorem length_catalogStores_le (image : Image) (first : UInt64) :
    (catalogStores image first).length ≤
      127 * (catalogChain image first).length := by
  obtain ⟨partner, h⟩ := exists_collected
    (fun _ => @chainEntries_unattached image first _)
    (chainEntries image first).length (Nat.le_refl _)
  have hstores := h.stores_eq
  rw [List.take_length] at hstores
  rw [catalogStores, hstores]
  refine Nat.le_trans (List.length_filterMap_le _ _) ?_
  rw [List.length_range]
  exact length_flatMap_le fun off =>
    Nat.le_of_eq (length_catalogEntries (image.blockAt off))

theorem held_blockMapOf_le (image : Image) (first : UInt64) :
    Groups.held (blockMapOf image first) ≤
      508 * (storeChain image diffAreaRecordType first).length :=
  Nat.le_trans (Groups.held_foldl_push_le _ _)
    (length_flatMap_le (length_blockDescriptors_le image))

theorem length_joinPieces {pieces : List (UInt64 × List UInt8)} {each : Nat}
    (h : ∀ piece ∈ pieces, piece.2.length = each) :
    (joinPieces pieces).length = each * pieces.length := by
  have hsorted := pieces.mergeSort_perm fun left right => left.1 ≤ right.1
  rw [joinPieces, (hsorted.flatMap_right Prod.snd).length_eq]
  clear hsorted
  induction pieces with
  | nil => rfl
  | cons piece rest ih =>
      obtain ⟨hpiece, hrest⟩ := List.forall_mem_cons.mp h
      rw [List.flatMap_cons, List.length_append, List.length_cons, hpiece,
        ih hrest, Nat.mul_succ, Nat.add_comm]

theorem length_bitmapOf (image : Image) (first : UInt64) :
    (bitmapOf image first).length =
      16256 * (storeChain image bitmapRecordType first).length := by
  rw [bitmapOf, length_joinPieces, List.length_map]
  intro piece hpiece
  obtain ⟨off, _, rfl⟩ := List.mem_map.mp hpiece
  rw [bitmapPiece, List.length_drop, image.length_blockAt]
  rfl

/-! Blocks side by side. -/

def Apart (v w : UInt64) : Prop :=
  v.toNat + blockSize ≤ w.toNat ∨ w.toNat + blockSize ≤ v.toNat

theorem length_le_of_apart {image : Image} {nodes : List UInt64}
    (hinside : ∀ v ∈ nodes, v.toNat + blockSize ≤ image.size)
    (hapart : nodes.Pairwise Apart) :
    nodes.length ≤ image.size / blockSize := by
  simp only [blockSize_eq] at hinside ⊢
  have hnodup : (nodes.map fun v => v.toNat / 16384).Nodup := by
    refine List.pairwise_map.mpr (hapart.imp ?_)
    intro v w h
    simp only [Apart, blockSize_eq] at h
    omega
  have hsub : nodes.map (fun v => v.toNat / 16384) ⊆
      List.range (image.size / 16384) := by
    intro place hplace
    obtain ⟨v, hv, rfl⟩ := List.mem_map.mp hplace
    have := hinside v hv
    exact List.mem_range.mpr (by omega)
  have hle := (List.subperm_of_subset hnodup hsub).length_le
  rw [List.length_map, List.length_range] at hle
  exact hle

/-- A walk that collected the blocks at `nodes` stays within the image: so
many blocks fit into it side by side, and so many items of `unit` bytes. -/
structure Within (image : Image) (nodes : List UInt64) (held unit : Nat) :
    Prop where
  blocks : nodes.length * blockSize ≤ image.size
  items : held ≤ image.size / unit

theorem within_of_blocks {image : Image} {nodes : List UInt64}
    {held unit each : Nat} (hunit : 0 < unit)
    (hheld : held ≤ each * nodes.length) (hfit : each * unit ≤ blockSize)
    (h : nodes.length * blockSize ≤ image.size) :
    Within image nodes held unit where
  blocks := h
  items := by
    rw [Nat.le_div_iff_mul_le hunit]
    calc held * unit ≤ each * nodes.length * unit :=
          Nat.mul_le_mul_right unit hheld
      _ = nodes.length * (each * unit) := by
          rw [Nat.mul_comm each, Nat.mul_assoc]
      _ ≤ nodes.length * blockSize := Nat.mul_le_mul_left _ hfit
      _ ≤ image.size := h

section Walks

variable {image : Image} {check : UInt64 → Bool} {cap : Nat}
  {first : UInt64} {walk : ChainWalk VssError η σ} {nodes : List UInt64}
  {held unit each : Nat}

namespace CollectsLongest

theorem within_iff (h : CollectsLongest image check cap first walk nodes)
    (hunit : 0 < unit) (hheld : held ≤ each * nodes.length)
    (hfit : each * unit ≤ blockSize) :
    Within image nodes held unit ↔
      ¬ (chainLinks image check).Trail cap first
        (image.size / blockSize + 1) := by
  have hblocks : nodes.length * blockSize ≤ image.size ↔
      nodes.length ≤ image.size / blockSize :=
    (Nat.le_div_iff_mul_le (by decide)).symm
  rw [← h.longest.le_length_iff, Nat.not_le, Nat.lt_succ_iff, ← hblocks]
  constructor
  · exact Within.blocks
  · exact within_of_blocks hunit hheld hfit

theorem within_of_apart (h : CollectsLongest image check cap first walk nodes)
    (hunit : 0 < unit) (hheld : held ≤ each * nodes.length)
    (hfit : each * unit ≤ blockSize) (hapart : nodes.Pairwise Apart) :
    Within image nodes held unit := by
  apply within_of_blocks hunit hheld hfit
  refine (Nat.le_div_iff_mul_le (by decide)).mp (length_le_of_apart ?_ hapart)
  intro v hv
  have hinside := h.longest.valid.fits v hv
  exact of_decide_eq_true (Bool.and_eq_true_iff.mp hinside).2

end CollectsLongest

end Walks

/-- A walk stays within the image unless more good pointers follow one another
than blocks fit into it, for which some of the blocks have to overlap. -/
theorem walks_within_iff [Target] (image : Image) (first : UInt64) :
    (∃ nodes stores, CollectsLongest image (isCatalogBlockAt image)
        maxCatalogBlocks first catalogWalk nodes ∧
      Yields image (walkCatalog first (UInt64.ofNat image.size))
        (fun answer => answer = .ok stores) ∧
      (Within image nodes stores.length 128 ↔
        ¬ (chainLinks image (isCatalogBlockAt image)).Trail maxCatalogBlocks
          first (image.size / blockSize + 1)) ∧
      (nodes.Pairwise Apart → Within image nodes stores.length 128)) ∧
    (∃ nodes map, CollectsLongest image
        (isStoreBlockAt image diffAreaRecordType) maxStoreBlocks first
        diffAreaWalk nodes ∧
      Yields image (buildBlockMap first (UInt64.ofNat image.size))
        (fun answer => answer = .ok map) ∧
      (Within image nodes (Groups.held map) 32 ↔
        ¬ (chainLinks image (isStoreBlockAt image diffAreaRecordType)).Trail
          maxStoreBlocks first (image.size / blockSize + 1)) ∧
      (nodes.Pairwise Apart → Within image nodes (Groups.held map) 32)) ∧
    ∃ nodes bitmap, CollectsLongest image
        (isStoreBlockAt image bitmapRecordType) maxStoreBlocks first
        bitmapWalk nodes ∧
      Yields image (buildBitmap first (UInt64.ofNat image.size))
        (fun answer => answer = .ok bitmap) ∧
      (Within image nodes bitmap.length 1 ↔
        ¬ (chainLinks image (isStoreBlockAt image bitmapRecordType)).Trail
          maxStoreBlocks first (image.size / blockSize + 1)) ∧
      (nodes.Pairwise Apart → Within image nodes bitmap.length 1) := by
  have hcatalog := catalogWalk_collects image first
  have hstores := length_catalogStores_le image first
  have hdiff := diffAreaWalk_collects image first
  have hmap := held_blockMapOf_le image first
  have hbits := bitmapWalk_collects image first
  have hbitmap := Nat.le_of_eq (length_bitmapOf image first)
  refine ⟨⟨_, _, hcatalog, (walkCatalog_runs image first).yields rfl, ?_, ?_⟩,
    ⟨_, _, hdiff, (buildBlockMap_runs first).yields rfl, ?_, ?_⟩,
    ⟨_, _, hbits, (buildBitmap_runs first).yields rfl, ?_, ?_⟩⟩
  · exact hcatalog.within_iff (by decide) hstores (by decide)
  · exact hcatalog.within_of_apart (by decide) hstores (by decide)
  · exact hdiff.within_iff (by decide) hmap (by decide)
  · exact hdiff.within_of_apart (by decide) hmap (by decide)
  · exact hbits.within_iff (by decide) hbitmap (by decide)
  · exact hbits.within_of_apart (by decide) hbitmap (by decide)

/-! A bitmap chain of overlapping blocks. -/

def overlapping : Image :=
  .ofPatches 49344 (by decide)
    [ (0x1E00, vssIdentifier.toList), (0x1E30, encodeU64 16384),
      (16384, vssIdentifier.toList), (16404, [2]),
      (16512, [2]), (16528, [1]),
      (16640, [3]), (16656, [1]), (16672, encodeU64 32768),
      (16688, encodeU64 32768),
      (32788, [6]), (32808, encodeU64 32832),
      (32852, [6]), (32872, encodeU64 32896),
      (32916, [6]), (32936, encodeU64 32960),
      (32980, [6]) ]

theorem overlapping_walkedEntries :
    walkedEntries overlapping (volumeOf overlapping) =
      [ .snapshot ⟨sampleGuid 1, 0, 0, 0, 0, none, none⟩,
        .storePointer (sampleGuid 1) 32768 32768 ] ++
        List.replicate 125 .empty := by
  refine (walkedEntries_ofPatches 16384 2 (by decide) (by decide +kernel)
    (by decide +kernel) (by decide +kernel) (by decide +kernel)
    (by decide +kernel) (by decide +kernel)).trans ?_
  decide +kernel

theorem overlapping_stores : (volumeOf overlapping).stores =
    [⟨sampleGuid 1, 0, 0, 0, 0, some 32768, some 32768⟩] := by
  rw [volumeOf_stores_eq, overlapping_walkedEntries]
  decide +kernel

theorem overlapping_trail :
    (chainLinks overlapping (isStoreBlockAt overlapping bitmapRecordType)).Trail
      maxStoreBlocks 32768 4 where
  room := by decide
  fits := by decide +kernel
  accepted := by decide +kernel
  distinct := by
    have hdistinct : ∀ n, n < 4 → ∀ m, m < n →
        (chainLinks overlapping
          (isStoreBlockAt overlapping bitmapRecordType)).next^[m] 32768 ≠
        (chainLinks overlapping
          (isStoreBlockAt overlapping bitmapRecordType)).next^[n] 32768 := by
      decide +kernel
    exact fun m n hmn hn => hdistinct n hn m hmn

/-- A bitmap larger than the volume it comes from. -/
theorem walks_within_overlapping : let _ := Target.bits64
    ∃ volume snapshot nodes, openVolume.runOn overlapping = .ok volume ∧
      (volume.snapshot 0).runOn overlapping = .ok snapshot ∧
      CollectsLongest overlapping
        (isStoreBlockAt overlapping bitmapRecordType) maxStoreBlocks 32768
        bitmapWalk nodes ∧
      overlapping.size < nodes.length * blockSize ∧
      overlapping.size < (SnapshotState.bitmap snapshot).length := by
  intro _
  have hstore : (volumeOf overlapping).stores[0]? =
      some ⟨sampleGuid 1, 0, 0, 0, 0, some 32768, some 32768⟩ := by
    rw [overlapping_stores]
    rfl
  have hsize : overlapping.size = 49344 := rfl
  have htrail := overlapping_trail
  generalize overlapping = image at *
  have hbits := bitmapWalk_collects image 32768
  have hfour := hbits.longest.le_length_iff.mpr htrail
  have hbitmap : 16256 * 4 ≤ (bitmapOf image 32768).length := by
    rw [length_bitmapOf]
    exact Nat.mul_le_mul_left _ hfour
  refine ⟨volumeOf image, _, _, (openVolume_runs image).runOn,
    taken_of_store hstore rfl rfl, hbits, ?_, ?_⟩
  · rw [hsize, blockSize_eq]
    omega
  · refine Nat.lt_of_lt_of_le ?_ hbitmap
    rw [hsize]
    decide

end ShadowCopy.Core
