import ShadowCopy.Core.Layout

namespace ShadowCopy.Core

open ShadowCopy.Data

/-! The pointers the walks follow, at volume offsets. -/

def chainLinks (image : Image) (accepts : UInt64 → Bool) : Links UInt64 where
  fits := fun v => v != 0 && decide (v.toNat + blockSize ≤ image.size)
  accepts := accepts
  next := fun v => image.u64 (v.toNat + 40)

/-- The block check of `walk_catalog`. -/
def isCatalogBlockAt (image : Image) (v : UInt64) : Bool :=
  image.guid v.toNat == vssIdentifier &&
    image.u32 (v.toNat + 20) == catalogBlockRecordType

/-- The block check of `build_block_map` and of `build_bitmap`. -/
def isStoreBlockAt (image : Image) (recordType : UInt32) (v : UInt64) :
    Bool :=
  image.u32 (v.toNat + 20) == recordType

theorem links_eq_chainLinks {image : Image} {accepts : List UInt8 → Bool}
    {check : UInt64 → Bool} (h : ∀ v, accepts (image.blockAt v) = check v) :
    image.links accepts (u64At · 40) = chainLinks image check := by
  have haccepts : (fun v => accepts (image.blockAt v)) = check := funext h
  have hnext : (fun v => u64At (image.blockAt v) 40) =
      fun v => image.u64 (v.toNat + 40) := funext image.next_blockAt
  rw [Image.links, haccepts, hnext]
  rfl

theorem collected_longest {image : Image} {accepts : List UInt8 → Bool}
    {check : UInt64 → Bool} (h : ∀ v, accepts (image.blockAt v) = check v)
    (cap : Nat) (first : UInt64) :
    (chainLinks image check).Longest cap first
      ((image.links accepts (u64At · 40)).collected cap [] first) := by
  rw [links_eq_chainLinks h]
  exact Links.collected_longest _ cap first

namespace ChainWalk

/-- The same walk, collecting the blocks themselves. -/
def recording (walk : ChainWalk ε η σ) :
    ChainWalk ε η (List (List UInt8)) where
  inspect := walk.inspect
  collect := fun blocks _ block => return blocks ++ [block]
  nextOffset := walk.nextOffset

theorem Computes.recording {walk : ChainWalk ε η σ}
    {accepts : List UInt8 → Bool} {next : List UInt8 → UInt64}
    {gather : σ → List UInt8 → σ} (h : walk.Computes accepts next gather) :
    walk.recording.Computes accepts next fun blocks block => blocks ++ [block]
    where
  rejected := h.rejected
  accepted := by
    intro block hblock haccepted
    obtain ⟨header, hinspect, _, hnext⟩ := h.accepted block hblock haccepted
    exact ⟨header, hinspect, fun _ => rfl, hnext⟩

end ChainWalk

/-- A walk collects the blocks at `nodes`: the longest valid chain, up to the
cap or the first defect. -/
structure CollectsLongest (image : Image) (check : UInt64 → Bool) (cap : Nat)
    (first : UInt64) (walk : ChainWalk VssError η σ) (nodes : List UInt64) :
    Prop where
  longest : (chainLinks image check).Longest cap first nodes
  stops : nodes.length = cap ∨
    (chainLinks image check).fits
      ((chainLinks image check).continuation first nodes) = false ∨
    (chainLinks image check).continuation first nodes ∈ nodes ∨
    check ((chainLinks image check).continuation first nodes) = false
  blocks : Yields image
    (walk.recording.run (UInt64.ofNat image.size) cap [] first [])
    fun answer => answer = .ok (nodes.map image.blockAt)

theorem ChainWalk.Computes.collectsLongest {image : Image}
    {walk : ChainWalk VssError η σ} {accepts : List UInt8 → Bool}
    {gather : σ → List UInt8 → σ} {check : UInt64 → Bool}
    (hwalk : walk.Computes accepts (u64At · 40) gather)
    (h : ∀ v, accepts (image.blockAt v) = check v) (cap : Nat)
    (first : UInt64) :
    CollectsLongest image check cap first walk
      ((image.links accepts (u64At · 40)).collected cap [] first) where
  longest := collected_longest h cap first
  stops := (collected_longest h cap first).stops
  blocks := by
    have hruns := ChainWalk.run_runs hwalk.recording image cap [] first []
    rw [foldl_append_singleton image.blockAt, List.nil_append] at hruns
    exact hruns.yields rfl

section Collects

variable [Target] (image : Image) (first : UInt64)

theorem catalogWalk_collects :
    CollectsLongest image (isCatalogBlockAt image) maxCatalogBlocks first
      catalogWalk (catalogChain image first) :=
  catalogWalk_computes.collectsLongest image.catalogBlockAccepted_blockAt
    maxCatalogBlocks first

theorem diffAreaWalk_collects :
    CollectsLongest image (isStoreBlockAt image diffAreaRecordType)
      maxStoreBlocks first diffAreaWalk
      (storeChain image diffAreaRecordType first) :=
  diffAreaWalk_computes.collectsLongest
    (image.storeBlockAccepted_blockAt diffAreaRecordType) maxStoreBlocks first

theorem bitmapWalk_collects :
    CollectsLongest image (isStoreBlockAt image bitmapRecordType)
      maxStoreBlocks first bitmapWalk
      (storeChain image bitmapRecordType first) :=
  bitmapWalk_computes.collectsLongest
    (image.storeBlockAccepted_blockAt bitmapRecordType) maxStoreBlocks first

end Collects

/-- Each of the three walks ends, having collected exactly the longest valid
chain of its blocks, each in full and in order. -/
theorem walks_collect_longest [Target] (image : Image) (first : UInt64) :
    (∃ nodes, CollectsLongest image (isCatalogBlockAt image) maxCatalogBlocks
        first catalogWalk nodes ∧
      Yields image (walkCatalog first (UInt64.ofNat image.size)) fun answer =>
        answer = .ok ((nodes.flatMap fun v =>
          catalogEntries (image.blockAt v)).foldl catalogStep [])) ∧
    (∃ nodes, CollectsLongest image (isStoreBlockAt image diffAreaRecordType)
        maxStoreBlocks first diffAreaWalk nodes ∧
      Yields image (buildBlockMap first (UInt64.ofNat image.size))
        fun answer => answer = .ok ((nodes.flatMap fun v =>
          blockDescriptors (image.blockAt v)).foldl
            (Groups.push BlockDescriptor.originalOffset) ∅)) ∧
    ∃ nodes, CollectsLongest image (isStoreBlockAt image bitmapRecordType)
        maxStoreBlocks first bitmapWalk nodes ∧
      Yields image (buildBitmap first (UInt64.ofNat image.size))
        fun answer => answer = .ok (joinPieces (nodes.map fun v =>
          bitmapPiece (image.blockAt v))) := by
  refine ⟨⟨catalogChain image first, ?_, ?_⟩,
    ⟨storeChain image diffAreaRecordType first, ?_, ?_⟩,
    ⟨storeChain image bitmapRecordType first, ?_, ?_⟩⟩
  · exact catalogWalk_collects image first
  · exact (walkCatalog_runs image first).yields rfl
  · exact diffAreaWalk_collects image first
  · exact (buildBlockMap_runs first).yields rfl
  · exact bitmapWalk_collects image first
  · exact (buildBitmap_runs first).yields rfl

end ShadowCopy.Core
