import ShadowCopy.Core.Agreement
import ShadowCopy.Reconstruction.Chains
import ShadowCopy.Session.Safety

namespace ShadowCopy.Core

open ShadowCopy.Data

/-! Where the parts of a snapshot were read from. -/

/-- The descriptors of a diff area, each with the block it was read from. -/
def descriptorSources (image : Image) (first : UInt64) :
    List (UInt64 × BlockDescriptor) :=
  (storeChain image diffAreaRecordType first).flatMap fun v =>
    (blockDescriptors (image.blockAt v)).map fun d => (v, d)

/-- The bytes of a bitmap, each with the block it was read from. -/
def bitmapSources (image : Image) (first : UInt64) : List (UInt64 × UInt8) :=
  ((storeChain image bitmapRecordType first).mergeSort fun v w =>
    u64At (image.blockAt v) 24 ≤ u64At (image.blockAt w) 24).flatMap fun v =>
      ((image.blockAt v).drop storeBlockHeaderLen).map fun byte => (v, byte)

theorem descriptorSources_snd (image : Image) (first : UInt64) :
    (descriptorSources image first).map Prod.snd =
      diffDescriptors image first := by
  rw [descriptorSources, List.map_flatMap, diffDescriptors]
  apply List.flatMap_congr
  intro v _
  rw [List.map_map]
  exact List.map_id _

theorem bitmapPiece_snd (block : List UInt8) :
    (bitmapPiece block).2 = block.drop storeBlockHeaderLen := rfl

theorem bitmapSources_snd (image : Image) (first : UInt64) :
    (bitmapSources image first).map Prod.snd = bitmapOf image first := by
  rw [bitmapSources, List.map_flatMap, bitmapOf, joinPieces_map]
  apply List.flatMap_congr
  intro v _
  rw [List.map_map, bitmapPiece_snd]
  exact List.map_id _

/-! Blocks a store's pointers lead to. -/

/-- A block some chain of blocks of one record type leads to. -/
def Reached (image : Image) (recordType : UInt32) (first v : UInt64) : Prop :=
  ∃ nodes, (chainLinks image (isStoreBlockAt image recordType)).Valid []
    maxStoreBlocks first nodes ∧ v ∈ nodes

theorem mem_storeChain {image : Image} {recordType : UInt32}
    {first v : UInt64} :
    v ∈ storeChain image recordType first ↔
      Reached image recordType first v := by
  have hlongest := collected_longest
    (image.storeBlockAccepted_blockAt recordType) maxStoreBlocks first
  constructor
  · intro hmem
    exact ⟨_, hlongest.valid, hmem⟩
  · rintro ⟨nodes, hvalid, hmem⟩
    exact (hlongest.extends_all nodes hvalid).subset hmem

theorem Reached.recordType {image : Image} {recordType : UInt32}
    {first v : UInt64} (h : Reached image recordType first v) :
    image.u32 (v.toNat + 20) = recordType := by
  obtain ⟨nodes, hvalid, hmem⟩ := h
  exact eq_of_beq (hvalid.accepted v hmem)

theorem blockDescriptors_eq_nil {image : Image} {v : UInt64} :
    blockDescriptors (image.blockAt v) = [] ↔
      image.isZero (v.toNat + storeBlockHeaderLen) blockDescriptorLen =
        true := by
  rw [image.blockDescriptors_blockAt, List.map_eq_nil_iff,
    show (508 : Nat) = 507 + 1 from rfl, List.range_succ_eq_map,
    List.map_cons, List.takeWhile_cons, Nat.zero_mul, Nat.add_zero]
  cases image.isZero (v.toNat + storeBlockHeaderLen) blockDescriptorLen with
  | true => simp
  | false => simp

theorem exists_descriptorSource {image : Image} {first v : UInt64} :
    (∃ d, (v, d) ∈ descriptorSources image first) ↔
      Reached image diffAreaRecordType first v ∧
        image.isZero (v.toNat + storeBlockHeaderLen) blockDescriptorLen =
          false := by
  rw [← mem_storeChain, ← Bool.not_eq_true, ← blockDescriptors_eq_nil]
  constructor
  · rintro ⟨d, hmem⟩
    obtain ⟨w, hw, hd⟩ := List.mem_flatMap.mp hmem
    obtain ⟨d', hd', heq⟩ := List.mem_map.mp hd
    obtain ⟨rfl, rfl⟩ := Prod.mk.inj heq
    exact ⟨hw, List.ne_nil_of_mem hd'⟩
  · rintro ⟨hv, hsome⟩
    obtain ⟨d, hd⟩ := List.exists_mem_of_ne_nil _ hsome
    exact ⟨d, List.mem_flatMap.mpr ⟨v, hv, List.mem_map.mpr ⟨d, hd, rfl⟩⟩⟩

theorem exists_bitmapSource {image : Image} {first v : UInt64} :
    (∃ byte, (v, byte) ∈ bitmapSources image first) ↔
      Reached image bitmapRecordType first v := by
  rw [← mem_storeChain]
  constructor
  · rintro ⟨byte, hmem⟩
    obtain ⟨w, hw, hbyte⟩ := List.mem_flatMap.mp hmem
    obtain ⟨_, _, heq⟩ := List.mem_map.mp hbyte
    obtain ⟨rfl, _⟩ := Prod.mk.inj heq
    exact List.mem_mergeSort.mp hw
  · intro hv
    have hsome : (image.blockAt v).drop storeBlockHeaderLen ≠ [] := by
      intro hnil
      have hlength := congrArg List.length hnil
      rw [List.length_drop, Image.length_blockAt] at hlength
      exact absurd hlength (by decide)
    obtain ⟨byte, hbyte⟩ := List.exists_mem_of_ne_nil _ hsome
    exact ⟨byte, List.mem_flatMap.mpr ⟨v, List.mem_mergeSort.mpr hv,
      List.mem_map.mpr ⟨byte, hbyte, rfl⟩⟩⟩

/-! What carries the identifier. -/

/-- A structure that carries the identifier and a record type. -/
structure Genuine (image : Image) (recordType : UInt32) (v : UInt64) :
    Prop where
  identifier : image.guid v.toNat = vssIdentifier
  recordType : image.u32 (v.toNat + 20) = recordType

namespace VssVolume

def PointerAt (volume : VssVolume)
    (pointer : StoreDescriptor → Option UInt64) (index : Nat) (off : UInt64) :
    Prop :=
  ∃ d, volume.stores[index]? = some d ∧ pointer d = some off

theorem PointerAt.unique {volume : VssVolume}
    {pointer : StoreDescriptor → Option UInt64} {index : Nat}
    {left right : UInt64} (hleft : volume.PointerAt pointer index left)
    (hright : volume.PointerAt pointer index right) : left = right := by
  obtain ⟨d, hstore, hpointer⟩ := hleft
  obtain ⟨other, hother, hotherPointer⟩ := hright
  obtain rfl := Option.some.inj (hstore.symm.trans hother)
  exact Option.some.inj (hpointer.symm.trans hotherPointer)

def HeaderAt (volume : VssVolume) (index : Nat) (headerOff : UInt64) : Prop :=
  volume.PointerAt StoreDescriptor.storeHeaderOffset index headerOff

def BitmapAt (volume : VssVolume) (index : Nat) (bitmapOff : UInt64) : Prop :=
  volume.PointerAt StoreDescriptor.storeBitmapOffset index bitmapOff

end VssVolume

/-- What the answers about a store were read from is genuine. -/
structure StoreGenuine [Target] (image : Image) (volume : VssVolume)
    (index : Nat) : Prop where
  header : ∀ info, (volume.storeInfo index).runOn image = .ok info →
    ∀ headerOff, volume.HeaderAt index headerOff →
      Genuine image storeHeaderRecordType headerOff
  descriptors : ∀ snapshot,
    (volume.snapshot index).runOn image = .ok snapshot →
      ∀ headerOff, volume.HeaderAt index headerOff →
        ∀ source ∈ descriptorSources image (diffStart headerOff),
          Genuine image diffAreaRecordType source.1
  bitmap : ∀ snapshot,
    (volume.snapshot index).runOn image = .ok snapshot →
      ∀ bitmapOff, volume.BitmapAt index bitmapOff →
        ∀ source ∈ bitmapSources image bitmapOff,
          Genuine image bitmapRecordType source.1

/-- What a store's pointers lead to carries the identifier. -/
structure StoreMarked (image : Image) (volume : VssVolume) (index : Nat) :
    Prop where
  header : ∀ headerOff, volume.HeaderAt index headerOff →
    headerOff.toNat + storeBlockHeaderLen ≤ volume.volumeSize.toNat →
      Genuine image storeHeaderRecordType headerOff
  diffArea : ∀ headerOff, volume.HeaderAt index headerOff →
    ∀ v, Reached image diffAreaRecordType (diffStart headerOff) v →
      image.isZero (v.toNat + storeBlockHeaderLen) blockDescriptorLen =
        false →
      image.guid v.toNat = vssIdentifier
  bitmap : ∀ bitmapOff, volume.BitmapAt index bitmapOff →
    ∀ v, Reached image bitmapRecordType bitmapOff v →
      image.guid v.toNat = vssIdentifier

section Genuine

variable [Target] {image : Image}

theorem storeInfo_isOk {volume : VssVolume}
    (hsize : volume.volumeSize = UInt64.ofNat image.size) {index : Nat} :
    (∃ info, (volume.storeInfo index).runOn image = .ok info) ↔
      ∃ headerOff, volume.HeaderAt index headerOff ∧
        headerOff.toNat + storeBlockHeaderLen ≤
          volume.volumeSize.toNat := by
  have hsizeNat : volume.volumeSize.toNat = image.size :=
    hsize ▸ image.toNat_volumeSize
  rw [(VssVolume.storeInfo_runs hsize index).runOn,
    (storeInfoOf_answer hsizeNat index).ok]
  constructor
  · rintro ⟨d, headerOff, hstore, hheader, hfits⟩
    exact ⟨headerOff, ⟨d, hstore, hheader⟩, hfits⟩
  · rintro ⟨headerOff, ⟨d, hstore, hheader⟩, hfits⟩
    exact ⟨d, headerOff, hstore, hheader, hfits⟩

theorem snapshot_eq_ok {volume : VssVolume}
    (hsize : volume.volumeSize = UInt64.ofNat image.size) {index : Nat}
    {snapshot : Snapshot} :
    (volume.snapshot index).runOn image = .ok snapshot ↔
      ∃ d headerOff bitmapOff, volume.stores[index]? = some d ∧
        d.storeHeaderOffset = some headerOff ∧
        d.storeBitmapOffset = some bitmapOff ∧
        snapshot = stateOf image headerOff bitmapOff := by
  have hruns := (VssVolume.snapshotState_runs hsize index).runOn
  rw [VssVolume.snapshot, hruns]
  exact VssVolume.snapshotStateOf_eq_ok

theorem HeaderAt.snapshot {volume : VssVolume}
    (hsize : volume.volumeSize = UInt64.ofNat image.size)
    (hpaired : ∀ d ∈ volume.stores, d.Paired) {index : Nat}
    {headerOff : UInt64} (h : volume.HeaderAt index headerOff) :
    ∃ snapshot, (volume.snapshot index).runOn image = .ok snapshot := by
  obtain ⟨d, hstore, hheader⟩ := h
  have hruns := (VssVolume.snapshotState_runs hsize index).runOn
  rw [VssVolume.snapshot, hruns]
  exact (snapshotStateOf_answer hpaired index).ok.mpr
    ⟨d, headerOff, hstore, hheader⟩

/-- The walks check record types and nothing else, so what they collect is
genuine just in case the blocks they reach carry the identifier. -/
theorem storeGenuine_iff {volume : VssVolume}
    (hsize : volume.volumeSize = UInt64.ofNat image.size)
    (hpaired : ∀ d ∈ volume.stores, d.Paired) (index : Nat) :
    StoreGenuine image volume index ↔ StoreMarked image volume index := by
  constructor
  · intro h
    refine ⟨?_, ?_, ?_⟩
    · intro headerOff hheader hfits
      obtain ⟨info, hinfo⟩ := (storeInfo_isOk hsize).mpr
        ⟨headerOff, hheader, hfits⟩
      exact h.header info hinfo headerOff hheader
    · intro headerOff hheader v hreached hsome
      obtain ⟨snapshot, hsnapshot⟩ := HeaderAt.snapshot hsize hpaired hheader
      obtain ⟨d, hd⟩ := exists_descriptorSource.mpr ⟨hreached, hsome⟩
      exact (h.descriptors snapshot hsnapshot headerOff hheader _ hd).identifier
    · rintro bitmapOff ⟨d, hstore, hbitmap⟩ v hreached
      have hboth : d.storeHeaderOffset.isSome = d.storeBitmapOffset.isSome :=
        hpaired d (List.mem_of_getElem? hstore)
      rw [hbitmap] at hboth
      obtain ⟨headerOff, hheader⟩ := Option.isSome_iff_exists.mp hboth
      obtain ⟨snapshot, hsnapshot⟩ := HeaderAt.snapshot hsize hpaired
        ⟨d, hstore, hheader⟩
      obtain ⟨byte, hbyte⟩ := exists_bitmapSource.mpr hreached
      exact (h.bitmap snapshot hsnapshot bitmapOff ⟨d, hstore, hbitmap⟩ _
        hbyte).identifier
  · intro h
    refine ⟨?_, ?_, ?_⟩
    · intro info hinfo headerOff hheader
      obtain ⟨other, hother, hfits⟩ := (storeInfo_isOk hsize).mp ⟨info, hinfo⟩
      obtain rfl := VssVolume.PointerAt.unique hheader hother
      exact h.header headerOff hheader hfits
    · rintro _ _ headerOff hheader ⟨v, d⟩ hmem
      obtain ⟨hreached, hsome⟩ := exists_descriptorSource.mp ⟨d, hmem⟩
      exact ⟨h.diffArea headerOff hheader v hreached hsome,
        hreached.recordType⟩
    · rintro _ _ bitmapOff hbitmap ⟨v, byte⟩ hmem
      have hreached := exists_bitmapSource.mp ⟨byte, hmem⟩
      exact ⟨h.bitmap bitmapOff hbitmap v hreached, hreached.recordType⟩

end Genuine

/-- Which stores give genuine data only: those whose header, and whose blocks
on the way from the two pointers, carry the identifier already. -/
theorem store_genuine_iff [Target] {image : Image} {volume : VssVolume}
    (hopen : openVolume.runOn image = .ok volume) (index : Nat) :
    (∀ snapshot, (volume.snapshot index).runOn image = .ok snapshot →
      ∃ headerOff bitmapOff, volume.HeaderAt index headerOff ∧
        volume.BitmapAt index bitmapOff ∧
        SnapshotState.blockMap snapshot =
          ((descriptorSources image (diffStart headerOff)).map
            Prod.snd).foldl (Groups.push BlockDescriptor.originalOffset) ∅ ∧
        SnapshotState.bitmap snapshot =
          (bitmapSources image bitmapOff).map Prod.snd) ∧
    (StoreGenuine image volume index ↔ StoreMarked image volume index) := by
  obtain rfl := Outcome.ok.inj ((openVolume_runs image).runOn.symm.trans hopen)
  refine ⟨fun snapshot hsnapshot => ?_,
    storeGenuine_iff rfl (volumeOf_paired image) index⟩
  obtain ⟨d, headerOff, bitmapOff, hstore, hheader, hbitmap, rfl⟩ :=
    (snapshot_eq_ok rfl).mp hsnapshot
  refine ⟨headerOff, bitmapOff, ⟨d, hstore, hheader⟩, ⟨d, hstore, hbitmap⟩,
    ?_, ?_⟩
  · rw [stateOf_blockMap, descriptorSources_snd, blockMapOf]
  · rw [bitmapSources_snd, stateOf]

/-! The newer store of the sample volume, and the same store once the
identifiers of its header and its blocks are wiped. -/

theorem ChainEnd.reached {image : Image} {recordType : UInt32}
    {first v : UInt64} (h : ChainEnd image recordType first) :
    Reached image recordType first v ↔ v = first := by
  rw [← mem_storeChain, h.storeChain, List.mem_singleton]

theorem sample_marked :
    StoreMarked (sample []) (volumeOf (sample [])) 1 where
  header := by
    intro headerOff hheader _
    have hoff : 81920 = headerOff :=
      VssVolume.PointerAt.unique ⟨_, sample_newer, rfl⟩ hheader
    subst hoff
    exact ⟨by decide +kernel, by decide +kernel⟩
  diffArea := by
    intro headerOff hheader v hreached _
    have hoff : 81920 = headerOff :=
      VssVolume.PointerAt.unique ⟨_, sample_newer, rfl⟩ hheader
    subst hoff
    rw [sample_newer_diffArea.reached.mp hreached]
    decide +kernel
  bitmap := by
    intro bitmapOff hbitmap v hreached
    have hoff : 114688 = bitmapOff :=
      VssVolume.PointerAt.unique ⟨_, sample_newer, rfl⟩ hbitmap
    subst hoff
    rw [sample_newer_bitmap.reached.mp hreached]
    decide +kernel

theorem store_genuine_sample : let _ := Target.bits64
    StoreGenuine (sample []) (volumeOf (sample [])) 1 := by
  intro _
  have hmarked := sample_marked
  generalize sample [] = image at *
  exact (store_genuine_iff (openVolume_runs image).runOn 1).2.mpr hmarked

def unmarked : Image :=
  sample [(81920, List.replicate 16 0), (98304, List.replicate 16 0),
    (114688, List.replicate 16 0)]

theorem unmarked_volumeOf : volumeOf unmarked = volumeOf (sample []) :=
  sample_volumeOf (by decide)

theorem unmarked_newer : (volumeOf unmarked).stores[1]? =
    some ⟨sampleGuid 2, 0, 0, 0, 2, some 81920, some 114688⟩ := by
  rw [unmarked_volumeOf]
  exact sample_newer

theorem store_genuine_unmarked : let _ := Target.bits64
    ∃ volume snapshot, openVolume.runOn unmarked = .ok volume ∧
      (volume.snapshot 1).runOn unmarked = .ok snapshot ∧
      (∃ d, (98304, d) ∈ descriptorSources unmarked (diffStart 81920)) ∧
      unmarked.guid 98304 ≠ vssIdentifier ∧
      ¬ StoreGenuine unmarked volume 1 := by
  intro _
  have hstore := unmarked_newer
  have hsource : ∃ d,
      (98304, d) ∈ descriptorSources unmarked (diffStart 81920) := by
    have hdiff : ChainEnd unmarked diffAreaRecordType (diffStart 81920) := by
      decide +kernel
    apply exists_descriptorSource.mpr
    exact ⟨hdiff.reached.mpr (by decide +kernel), by decide +kernel⟩
  have hwiped : unmarked.guid 98304 ≠ vssIdentifier := by decide +kernel
  generalize unmarked = image at *
  have hsnapshot := (@snapshot_eq_ok _ image (volumeOf image) rfl 1 _).mpr
    ⟨_, _, _, hstore, rfl, rfl, rfl⟩
  refine ⟨volumeOf image, _, (openVolume_runs image).runOn, hsnapshot,
    hsource, hwiped, fun hgenuine => ?_⟩
  obtain ⟨d, hd⟩ := hsource
  exact hwiped (hgenuine.descriptors _ hsnapshot _ ⟨_, hstore, rfl⟩ _
    hd).identifier

end ShadowCopy.Core
