import ShadowCopy.Catalog.Enumeration
import ShadowCopy.Reconstruction.Supply

namespace ShadowCopy.Data.Image

open ShadowCopy.Core

/-! An image cut short, as an acquisition that broke off leaves it. -/

def truncate (image : Image) (size : Nat) : Image where
  size := min size image.size
  size_lt := Nat.lt_of_le_of_lt (Nat.min_le_right _ _) image.size_lt
  data := fun position => image.byteAt position.val

variable (image : Image) (size : Nat)

theorem size_truncate_le : (image.truncate size).size ≤ image.size :=
  Nat.min_le_right _ _

theorem byteAt_truncate {position : Nat}
    (h : position < (image.truncate size).size) :
    (image.truncate size).byteAt position = image.byteAt position :=
  dif_pos h

theorem read_truncate {off n : Nat}
    (h : off + n ≤ (image.truncate size).size) :
    (image.truncate size).read off n = image.read off n := by
  apply Vector.ext
  intro j hj
  rw [getElem_read, getElem_read, byteAt_truncate image size (by omega)]

/-- A block inside the cut is there, and the same, in the whole image. -/
theorem blockAt_truncate {off : UInt64}
    (h : (image.truncate size).blockFits off = true) :
    image.blockFits off = true ∧
      (image.truncate size).blockAt off = image.blockAt off := by
  obtain ⟨hoff, hfits⟩ := Bool.and_eq_true_iff.mp h
  have hinside := of_decide_eq_true hfits
  have hle := image.size_truncate_le size
  refine ⟨Bool.and_eq_true_iff.mpr ⟨hoff, decide_eq_true (by omega)⟩, ?_⟩
  rw [blockAt, blockAt, read_truncate image size hinside]

theorem collected_truncate (accepts : List UInt8 → Bool)
    (next : List UInt8 → UInt64) (cap : Nat) (first : UInt64) :
    ((image.truncate size).links accepts next).collected cap [] first <+:
      (image.links accepts next).collected cap [] first := by
  apply Links.collected_prefix
  intro off hoff
  obtain ⟨hfits, hblock⟩ := image.blockAt_truncate size hoff
  refine ⟨hfits, ?_, ?_⟩
  · rw [links_accepts, links_accepts, hblock]
  · rw [links_next, links_next, hblock]

/-- What is gathered block by block along a chain. -/
theorem flatMap_collected_truncate {accepts : List UInt8 → Bool}
    {next : List UInt8 → UInt64} {cap : Nat} {first : UInt64}
    (gather : List UInt8 → List α) :
    (((image.truncate size).links accepts next).collected cap [] first).flatMap
        (fun off => gather ((image.truncate size).blockAt off)) <+:
      ((image.links accepts next).collected cap [] first).flatMap
        fun off => gather (image.blockAt off) := by
  obtain ⟨rest, hrest⟩ := image.collected_truncate size accepts next cap first
  have hvalid := ((image.truncate size).links accepts next).collected_valid
    cap [] first
  rw [← hrest, List.flatMap_append]
  have hsame : (((image.truncate size).links accepts next).collected cap []
      first).flatMap (fun off => gather ((image.truncate size).blockAt off)) =
        (((image.truncate size).links accepts next).collected cap []
          first).flatMap fun off => gather (image.blockAt off) := by
    apply List.flatMap_congr
    intro off hoff
    rw [(image.blockAt_truncate size (hvalid.fits off hoff)).2]
  rw [hsame]
  exact List.prefix_append _ _

end ShadowCopy.Data.Image

namespace ShadowCopy.Core

open ShadowCopy.Data

section Truncated

variable (image : Image) (size : Nat)

/-- Where the header is cut off there is no volume to speak of; elsewhere it
is the header of the whole image. -/
theorem header_truncate :
    ((volumeOf (image.truncate size)).hasVssHeader = false) ∨
      (volumeOf (image.truncate size)).hasVssHeader =
          (volumeOf image).hasVssHeader ∧
        (volumeOf (image.truncate size)).catalogOffset =
          (volumeOf image).catalogOffset := by
  by_cases hfits : headerFits (image.truncate size)
  · right
    have hwhole : headerFits image :=
      Nat.le_trans hfits (image.size_truncate_le size)
    have hheader : volumeHeader (image.truncate size) = volumeHeader image := by
      rw [volumeHeader, volumeHeader, image.read_truncate size hfits]
    simp only [volumeOf, if_pos hfits, if_pos hwhole, hheader, and_self]
  · left
    simp only [volumeOf, if_neg hfits]

theorem walkedEntries_truncate :
    walkedEntries (image.truncate size) (volumeOf (image.truncate size)) <+:
      walkedEntries image (volumeOf image) := by
  unfold walkedEntries
  rcases header_truncate image size with hnone | ⟨hheader, hoffset⟩
  · rw [hnone, Bool.false_and]
    exact List.nil_prefix
  · rw [hheader, hoffset]
    split
    · exact image.flatMap_collected_truncate size catalogEntries
    · exact List.prefix_rfl

theorem stores_truncate_kept {index : Nat} {d : StoreDescriptor}
    (h : (volumeOf (image.truncate size)).stores[index]? = some d)
    (hset : d.storeHeaderOffset.isSome) :
    (volumeOf image).stores[index]? = some d := by
  obtain ⟨rest, hrest⟩ := walkedEntries_truncate image size
  rw [volumeOf_stores_eq] at h
  rw [volumeOf_stores_eq, ← hrest, List.foldl_append]
  exact foldl_catalogStep_kept hset h

theorem snapshots_truncate :
    (volumeOf (image.truncate size)).stores.map
        (StoreDescriptor.withPointer · none) <+:
      (volumeOf image).stores.map (StoreDescriptor.withPointer · none) := by
  obtain ⟨rest, hrest⟩ := walkedEntries_truncate image size
  rw [volumeOf_snapshots, volumeOf_snapshots, ← hrest, snapshotEntries_append]
  exact List.prefix_append _ _

theorem descriptorsFor_truncate (first base : UInt64) :
    descriptorsFor (image.truncate size) first base <+:
      descriptorsFor image first base := by
  have hall : diffDescriptors (image.truncate size) first <+:
      diffDescriptors image first :=
    image.flatMap_collected_truncate size blockDescriptors
  exact hall.filter _

theorem blockMapOf_getD (image : Image) (first base : UInt64) :
    (blockMapOf image first)[base]?.getD [] =
      descriptorsFor image first base := by
  rw [blockMapOf_get?]
  split
  · rename_i hnone
    rw [hnone]
    rfl
  · rfl

end Truncated

/-- An image that breaks off shows the same shadow copies up to some point,
none in another place or under another identity; a pointer it shows is the
right one, and a snapshot it can take lacks later descriptors at most. -/
theorem truncated_image_shows_prefix [Target] (image : Image) (size : Nat) :
    ∃ whole part, Returns image openVolume whole ∧
      Returns (image.truncate size) openVolume part ∧
      part.stores.map (StoreDescriptor.withPointer · none) <+:
        whole.stores.map (StoreDescriptor.withPointer · none) ∧
      (∀ (index : Nat) (d : StoreDescriptor), part.stores[index]? = some d →
        d.storeHeaderOffset.isSome → whole.stores[index]? = some d) ∧
      ∀ index, ∀ state : Snapshot,
        (part.snapshot index).runOn (image.truncate size) = .ok state →
        ∃ full : Snapshot, Returns image (whole.snapshot index) full ∧
          ∀ base : UInt64, state.blockMap[base]?.getD [] <+:
            full.blockMap[base]?.getD [] := by
  refine ⟨volumeOf image, volumeOf (image.truncate size),
    (openVolume_runs _).yields rfl, (openVolume_runs _).yields rfl,
    snapshots_truncate image size,
    fun _ _ => stores_truncate_kept image size, ?_⟩
  intro index state hstate
  obtain ⟨d, headerOff, bitmapOff, hstore, hheader, hbitmap, rfl⟩ :=
    VssVolume.snapshotStateOf_eq_ok.mp
      (snapshotStateOf_of_taken (openVolume_runs _).runOn hstate)
  have hset : d.storeHeaderOffset.isSome := by
    rw [hheader]
    rfl
  have hfull : (volumeOf image).snapshotStateOf image index =
      .ok (stateOf image headerOff bitmapOff) :=
    VssVolume.snapshotStateOf_eq_ok.mpr ⟨d, headerOff, bitmapOff,
      stores_truncate_kept image size hstore hset, hheader, hbitmap, rfl⟩
  refine ⟨_, (VssVolume.snapshotState_runs rfl index).yields hfull,
    fun base => ?_⟩
  rw [stateOf_blockMap, stateOf_blockMap, blockMapOf_getD, blockMapOf_getD]
  exact descriptorsFor_truncate image size _ base

end ShadowCopy.Core
