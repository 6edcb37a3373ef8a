import ShadowCopy.Format.Pages

namespace ShadowCopy.Core

open ShadowCopy.Data

/-! Shadow copies laid out on a volume, and what is read back of them. -/

/-- The header, the diff area and the bitmap of one store, and the blocks its
descriptors name. -/
structure StoreLayout where
  headerOff : UInt64
  info : StoreInfo
  area : List (UInt64 × DescriptorPage)
  bitmap : List (UInt64 × BitmapPage)
  saved : List (UInt64 × Block)
  operatingFits : (utf16leBytes info.operatingMachine).length < 2 ^ 16
  serviceFits : (utf16leBytes info.serviceMachine).length < 2 ^ 16
  areaFirst : headOff area = diffStart headerOff
  areaFollowed : Followed maxStoreBlocks area
  bitmapFollowed : Followed maxStoreBlocks bitmap

/-- A shadow copy; its store may be missing from the catalog. -/
structure CopyLayout where
  storeId : Guid
  volumeSize : UInt64
  sequence : UInt64
  flags : UInt64
  creationTime : UInt64
  store : Option StoreLayout

namespace StoreLayout

def header (store : StoreLayout) : StoreBlockHeader where
  hasVssIdentifier := true
  version := 1
  recordType := storeHeaderRecordType
  relativeOffset := 0
  currentOffset := store.headerOff
  nextOffset := 0
  storeInformationSize := UInt64.ofNat store.info.encode.length

def extents (store : StoreLayout) : List (Nat × List UInt8) :=
  (store.headerOff.toNat, store.header.encode ++ store.info.encode) ::
    (chainExtents DescriptorPage.encode store.area ++
      chainExtents BitmapPage.encode store.bitmap ++
        store.saved.map fun (off, block) => (off.toNat, block.toList))

/-- Every descriptor of the diff area; a block's list ends at its first record
of zeros. -/
def descriptors (store : StoreLayout) : List BlockDescriptor :=
  store.area.flatMap fun page =>
    page.2.descriptors.takeWhile fun d => d ≠ BlockDescriptor.zero

def LaidOut (store : StoreLayout) (image : Image) : Prop :=
  ∀ extent ∈ store.extents, image.Holds extent.1 extent.2

/-- What the store says of a volume of this size. -/
def state (store : StoreLayout) (size : Nat) : SnapshotState where
  volumeSize := UInt64.ofNat size
  blockMap := store.descriptors.foldl
    (Groups.push BlockDescriptor.originalOffset) ∅
  bitmap := joinPieces (store.bitmap.map fun page =>
    (page.2.relativeOffset, page.2.payload.toList))

end StoreLayout

namespace CopyLayout

def bare (copy : CopyLayout) : StoreDescriptor where
  storeId := copy.storeId
  volumeSize := copy.volumeSize
  sequence := copy.sequence
  flags := copy.flags
  creationTime := copy.creationTime
  storeHeaderOffset := none
  storeBitmapOffset := none

def descriptor (copy : CopyLayout) : StoreDescriptor :=
  { copy.bare with
    storeHeaderOffset := copy.store.map StoreLayout.headerOff
    storeBitmapOffset := copy.store.map fun store => headOff store.bitmap }

/-- The catalog entries of a copy: its snapshot, then its pointer if any. -/
def entries (copy : CopyLayout) : List CatalogEntry :=
  .snapshot copy.bare ::
    (copy.store.map fun store =>
      CatalogEntry.storePointer copy.storeId store.headerOff
        (headOff store.bitmap)).toList

def extents (copy : CopyLayout) : List (Nat × List UInt8) :=
  (copy.store.map StoreLayout.extents).getD []

end CopyLayout

def CatalogEntry.isListed : CatalogEntry → Bool
  | .snapshot _ => true
  | .storePointer .. => true
  | .empty => false
  | .other => false

/-- The copies of a volume and the catalog that lists them, in order but with
unused and foreign entries anywhere between them. -/
structure VolumeLayout where
  copies : List CopyLayout
  catalog : List (UInt64 × CatalogPage)
  catalogFollowed : Followed maxCatalogBlocks catalog
  listed : (catalog.flatMap fun page => page.2.entries).filter
    CatalogEntry.isListed = copies.flatMap CopyLayout.entries

namespace VolumeLayout

def header (layout : VolumeLayout) : VolumeHeader where
  hasVssIdentifier := true
  version := 1
  recordType := volumeHeaderRecordType
  currentOffset := vssVolumeHeaderOffset
  catalogOffset := headOff layout.catalog
  maximumSize := 0
  volumeIdentifier := Vector.replicate 16 0
  storageVolumeIdentifier := Vector.replicate 16 0

/-- The volume the layout describes. -/
def volume (layout : VolumeLayout) (size : Nat) : VssVolume where
  volumeSize := UInt64.ofNat size
  hasVssHeader := true
  catalogOffset := headOff layout.catalog
  stores := layout.copies.map CopyLayout.descriptor

def extents (layout : VolumeLayout) : List (Nat × List UInt8) :=
  (vssVolumeHeaderOffset.toNat, layout.header.encode) ::
    (chainExtents CatalogPage.encode layout.catalog ++
      layout.copies.flatMap CopyLayout.extents)

/-- Everything the layout says lies on the image. -/
def LaidOut (layout : VolumeLayout) (image : Image) : Prop :=
  ∀ extent ∈ layout.extents, image.Holds extent.1 extent.2

/-- There is room for the layout and no two of its parts meet. -/
structure Fits (layout : VolumeLayout) (size : Nat) : Prop where
  apart : layout.extents.Pairwise Separate
  inside : ∀ extent ∈ layout.extents, extent.1 + extent.2.length ≤ size

def write (layout : VolumeLayout) (image : Image) : Image :=
  image.writeAll layout.extents

theorem write_laidOut {layout : VolumeLayout} {image : Image}
    (h : layout.Fits image.size) : layout.LaidOut (layout.write image) :=
  fun extent hmem => Image.holds_writeAll h.apart hmem (h.inside extent hmem)

end VolumeLayout

/-! Where the parts of a layout lie, whatever bytes they hold. -/

def pageSpans (pages : List (UInt64 × β)) : List (Nat × Nat) :=
  pages.map fun page => (page.1.toNat, blockSize)

def StoreLayout.spans (store : StoreLayout) : List (Nat × Nat) :=
  (store.headerOff.toNat, storeBlockHeaderLen + store.info.recordLen) ::
    (pageSpans store.area ++ pageSpans store.bitmap ++ pageSpans store.saved)

def VolumeLayout.spans (layout : VolumeLayout) : List (Nat × Nat) :=
  (vssVolumeHeaderOffset.toNat, catalogBlockHeaderLen) ::
    (pageSpans layout.catalog ++
      layout.copies.flatMap fun copy =>
        (copy.store.map StoreLayout.spans).getD [])

theorem map_span_chainExtents {encode : UInt64 → UInt64 → β → List UInt8}
    {accepts : List UInt8 → Bool} (hkind : PageKind encode accepts)
    (pages : List (UInt64 × β)) :
    (chainExtents encode pages).map span = pageSpans pages := by
  induction pages with
  | nil => rfl
  | cons page rest ih =>
      obtain ⟨off, content⟩ := page
      rw [chainExtents, List.map_cons, ih, span, hkind.length]
      rfl

theorem StoreLayout.map_span_extents (store : StoreLayout) :
    store.extents.map span = store.spans := by
  have hsaved : (store.saved.map fun (off, block) =>
      (off.toNat, block.toList)).map span = pageSpans store.saved := by
    rw [List.map_map]
    apply List.map_congr_left
    intro saved _
    rw [Function.comp, span, Vector.length_toList]
  rw [extents, spans, List.map_cons, List.map_append, List.map_append,
    map_span_chainExtents descriptorPage_kind,
    map_span_chainExtents bitmapPage_kind, hsaved, span, List.length_append,
    StoreBlockHeader.length_encode, StoreInfo.length_encode]

theorem VolumeLayout.map_span_extents (layout : VolumeLayout) :
    layout.extents.map span = layout.spans := by
  rw [extents, spans, List.map_cons, List.map_append, List.map_flatMap,
    map_span_chainExtents catalogPage_kind, span, VolumeHeader.length_encode]
  apply congrArg
  apply congrArg
  apply List.flatMap_congr
  intro copy _
  rw [CopyLayout.extents]
  cases copy.store with
  | none => rfl
  | some store => exact store.map_span_extents

theorem VolumeLayout.fits_iff {layout : VolumeLayout} {size : Nat} :
    layout.Fits size ↔ SpansFit layout.spans size := by
  rw [← map_span_extents, spansFit_map_span]
  exact ⟨fun h => ⟨h.apart, h.inside⟩, fun h => ⟨h.1, h.2⟩⟩

/-! The catalog. -/

theorem foldl_isListed (entries : List CatalogEntry)
    (stores : List StoreDescriptor) :
    entries.foldl catalogStep stores =
      (entries.filter CatalogEntry.isListed).foldl catalogStep stores := by
  induction entries generalizing stores with
  | nil => rfl
  | cons entry rest ih =>
      cases entry with
      | empty => exact ih stores
      | other => exact ih stores
      | snapshot d => exact ih _
      | storePointer storeId header bitmap => exact ih _

/-- A copy's entries append its descriptor, whatever was listed before. -/
theorem foldl_entries (copy : CopyLayout) (stores : List StoreDescriptor) :
    copy.entries.foldl catalogStep stores = stores ++ [copy.descriptor] := by
  obtain ⟨storeId, volumeSize, sequence, flags, creationTime, store⟩ := copy
  cases store with
  | none => rfl
  | some store =>
      refine modifyLast_append ?_ fun other hother =>
        absurd hother List.not_mem_nil
      exact Bool.and_eq_true_iff.mpr ⟨beq_self_eq_true storeId, rfl⟩

theorem foldl_copies (copies : List CopyLayout)
    (stores : List StoreDescriptor) :
    (copies.flatMap CopyLayout.entries).foldl catalogStep stores =
      stores ++ copies.map CopyLayout.descriptor := by
  induction copies generalizing stores with
  | nil => exact (List.append_nil stores).symm
  | cons copy rest ih =>
      rw [List.flatMap_cons, List.foldl_append, foldl_entries, ih,
        List.append_assoc]
      rfl

theorem CatalogPage.filter_slots (page : CatalogPage) :
    page.slots.filter CatalogEntry.isListed =
      page.entries.filter CatalogEntry.isListed := by
  have hpadding : (List.replicate (127 - page.entries.length)
      CatalogEntry.empty).filter CatalogEntry.isListed = [] := by
    rw [List.filter_replicate,
      if_neg (show ¬ CatalogEntry.empty.isListed = true from
        Bool.false_ne_true)]
  rw [slots, List.filter_append, hpadding, List.append_nil]

section LaidOut

variable {layout : VolumeLayout} {image : Image}

theorem catalogStores_of_laidOut (h : layout.LaidOut image) :
    catalogStores image (headOff layout.catalog) =
      layout.copies.map CopyLayout.descriptor := by
  have hheld : ∀ extent ∈ chainExtents CatalogPage.encode layout.catalog,
      image.Holds extent.1 extent.2 := fun extent hmem =>
    h extent (List.mem_cons_of_mem _ (List.mem_append_left _ hmem))
  have hchain : catalogChain image (headOff layout.catalog) =
      layout.catalog.map Prod.fst :=
    collected_of_holds catalogPage_kind layout.catalogFollowed
      (fun _ _ => List.not_mem_nil) hheld
  have hentries : chainEntries image (headOff layout.catalog) =
      layout.catalog.flatMap fun page => page.2.slots := by
    rw [chainEntries, hchain, List.flatMap_map]
    apply List.flatMap_congr
    intro page hpage
    obtain ⟨next, hblock⟩ := exists_blockAt catalogPage_kind hheld page hpage
    rw [hblock, CatalogPage.entries_encode]
  have hfilter : (layout.catalog.flatMap fun page => page.2.slots).filter
      CatalogEntry.isListed = layout.copies.flatMap CopyLayout.entries := by
    rw [← layout.listed, List.filter_flatMap, List.filter_flatMap]
    apply List.flatMap_congr
    intro page _
    exact page.2.filter_slots
  rw [catalogStores, hentries, foldl_isListed, hfilter, foldl_copies]
  exact List.nil_append _

theorem headerFits_of_laidOut (h : layout.LaidOut image) :
    headerFits image := by
  have hinside := (h _ (List.mem_cons_self ..)).inside
  rw [VolumeHeader.length_encode] at hinside
  exact hinside

theorem volumeHeader_of_laidOut (h : layout.LaidOut image) :
    volumeHeader image = layout.header := by
  have hbytes := (h _ (List.mem_cons_self ..)).bytes
  rw [VolumeHeader.length_encode] at hbytes
  have hdecoded := layout.header.decode_encode []
  rw [List.append_nil] at hdecoded
  rw [volumeHeader, hbytes, hdecoded]

/-- A catalog of no blocks lists no copy. -/
theorem copies_of_headOff_eq_zero (h : headOff layout.catalog = 0) :
    layout.copies = [] := by
  obtain ⟨copies, catalog, hfollowed, hlisted⟩ := layout
  cases catalog with
  | cons page rest =>
      exact absurd h (hfollowed.nonzero page (List.mem_cons_self ..))
  | nil =>
      cases copies with
      | nil => rfl
      | cons copy rest => exact absurd hlisted (List.cons_ne_nil _ _).symm

theorem volumeOf_of_laidOut (h : layout.LaidOut image) :
    volumeOf image = layout.volume image.size := by
  have hmark : (volumeHeader image).hasVssIdentifier = true := by
    rw [volumeHeader_of_laidOut h]
    rfl
  have hoffset : (volumeHeader image).catalogOffset =
      headOff layout.catalog := by
    rw [volumeHeader_of_laidOut h]
    rfl
  have hstores : (if true && headOff layout.catalog != 0 then
      catalogStores image (headOff layout.catalog) else []) =
        layout.copies.map CopyLayout.descriptor := by
    cases hempty : headOff layout.catalog != 0 with
    | true => exact catalogStores_of_laidOut h
    | false =>
        rw [copies_of_headOff_eq_zero (bne_eq_false_iff_eq.mp hempty)]
        rfl
  rw [volumeOf, if_pos (headerFits_of_laidOut h),
    if_pos (headerFits_of_laidOut h), hmark, hoffset]
  exact congrArg (VssVolume.mk _ _ _) hstores

theorem openVolume_write [Target] (h : layout.Fits image.size) :
    openVolume.runOn (layout.write image) = .ok (layout.volume image.size) := by
  rw [(openVolume_runs _).runOn,
    volumeOf_of_laidOut (VolumeLayout.write_laidOut h), VolumeLayout.write,
    Image.size_writeAll]

theorem store_laidOut (h : layout.LaidOut image) {copy : CopyLayout}
    (hcopy : copy ∈ layout.copies) {store : StoreLayout}
    (hstore : copy.store = some store) : store.LaidOut image := by
  intro extent hmem
  have hextent : extent ∈ copy.extents := by
    rw [CopyLayout.extents, hstore]
    exact hmem
  exact h extent (List.mem_cons_of_mem _ (List.mem_append_right _
    (List.mem_flatMap.mpr ⟨copy, hcopy, hextent⟩)))

end LaidOut

/-! The stores. -/

namespace StoreLayout

variable {store : StoreLayout} {image : Image}

theorem recordLen_lt (store : StoreLayout) :
    store.info.recordLen < maxStoreInfoLen := by
  have hop := store.operatingFits
  have hsvc := store.serviceFits
  rw [StoreInfo.recordLen, StoreInfo.operatingEnd, maxStoreInfoLen]
  omega

theorem LaidOut.header (h : store.LaidOut image) :
    image.Holds store.headerOff.toNat
      (store.header.encode ++ store.info.encode) :=
  h _ (List.mem_cons_self ..)

theorem LaidOut.header_inside (h : store.LaidOut image) :
    store.headerOff.toNat + storeBlockHeaderLen + store.info.recordLen ≤
      image.size := by
  have hinside := h.header.inside
  rw [List.length_append, StoreBlockHeader.length_encode,
    StoreInfo.length_encode, ← Nat.add_assoc] at hinside
  exact hinside

theorem LaidOut.declaredSize_eq (h : store.LaidOut image) :
    declaredSize image store.headerOff = store.info.recordLen := by
  have hbytes := h.header.left.bytes
  rw [StoreBlockHeader.length_encode] at hbytes
  have hfield := congrArg StoreBlockHeader.storeInformationSize
    (store.header.decode_encode [])
  rw [List.append_nil, StoreBlockHeader.decode] at hfield
  dsimp only at hfield
  have hsize : image.u64 (store.headerOff.toNat + 48) =
      store.header.storeInformationSize := by
    rw [← image.u64At_read (show 48 + 8 ≤ storeBlockHeaderLen by decide),
      hbytes, hfield]
  have hlt := store.recordLen_lt
  have hcap : maxStoreInfoLen < UInt64.size := by decide
  rw [declaredSize, hsize, StoreLayout.header, StoreInfo.length_encode]
  exact UInt64.toNat_ofNat_of_lt' (Nat.lt_trans hlt hcap)

/-- Just the record is read, where the tail of the volume counts in full. -/
theorem LaidOut.storeInfoAt_eq [Target] (h : store.LaidOut image)
    (htail : tailSize image store.headerOff < Target.usizeSize) :
    storeInfoAt image store.headerOff = store.info := by
  have hinside := h.header_inside
  have hlt := store.recordLen_lt
  have hlen : storeInfoLen image store.headerOff = store.info.recordLen := by
    rw [storeInfoLen_eq (by omega), h.declaredSize_eq, Nat.mod_eq_of_lt htail,
      Nat.min_eq_left (Nat.le_of_lt hlt), tailSize]
    omega
  have hbytes := h.header.right.bytes
  rw [StoreBlockHeader.length_encode, StoreInfo.length_encode] at hbytes
  have hdecoded := store.info.decode_encode [] store.operatingFits
    store.serviceFits
  rw [List.append_nil] at hdecoded
  rw [storeInfoAt, hlen, hbytes, hdecoded]

theorem LaidOut.area (h : store.LaidOut image) :
    ∀ extent ∈ chainExtents DescriptorPage.encode store.area,
      image.Holds extent.1 extent.2 :=
  fun extent hmem => h extent (List.mem_cons_of_mem _
    (List.mem_append_left _ (List.mem_append_left _ hmem)))

theorem LaidOut.bitmap (h : store.LaidOut image) :
    ∀ extent ∈ chainExtents BitmapPage.encode store.bitmap,
      image.Holds extent.1 extent.2 :=
  fun extent hmem => h extent (List.mem_cons_of_mem _
    (List.mem_append_left _ (List.mem_append_right _ hmem)))

theorem LaidOut.saved (h : store.LaidOut image) {off : UInt64} {block : Block}
    (hmem : (off, block) ∈ store.saved) :
    image.Holds off.toNat block.toList :=
  h (off.toNat, block.toList) (List.mem_cons_of_mem _
    (List.mem_append_right _ (List.mem_map_of_mem hmem)))

theorem LaidOut.diffDescriptors_eq (h : store.LaidOut image) :
    diffDescriptors image (diffStart store.headerOff) =
      store.descriptors := by
  have hchain : storeChain image diffAreaRecordType (headOff store.area) =
      store.area.map Prod.fst :=
    collected_of_holds descriptorPage_kind store.areaFollowed
      (fun _ _ => List.not_mem_nil) h.area
  rw [diffDescriptors, ← store.areaFirst, hchain, List.flatMap_map,
    descriptors]
  apply List.flatMap_congr
  intro page hpage
  obtain ⟨next, hblock⟩ := exists_blockAt descriptorPage_kind h.area page hpage
  rw [hblock, DescriptorPage.descriptors_encode]

theorem LaidOut.bitmapOf_eq (h : store.LaidOut image) :
    bitmapOf image (headOff store.bitmap) =
      joinPieces (store.bitmap.map fun page =>
        (page.2.relativeOffset, page.2.payload.toList)) := by
  have hchain : storeChain image bitmapRecordType (headOff store.bitmap) =
      store.bitmap.map Prod.fst :=
    collected_of_holds bitmapPage_kind store.bitmapFollowed
      (fun _ _ => List.not_mem_nil) h.bitmap
  rw [bitmapOf, hchain, List.map_map]
  apply congrArg joinPieces
  apply List.map_congr_left
  intro page hpage
  obtain ⟨next, hblock⟩ := exists_blockAt bitmapPage_kind h.bitmap page hpage
  rw [Function.comp, hblock, BitmapPage.piece_encode]

theorem LaidOut.stateOf_eq (h : store.LaidOut image) :
    stateOf image store.headerOff (headOff store.bitmap) =
      store.state image.size := by
  rw [stateOf, blockMapOf, h.diffDescriptors_eq, h.bitmapOf_eq, state]

end StoreLayout

/-! The copies, as the volume lists them. -/

section Copies

variable {layout : VolumeLayout} {image : Image} {index : Nat}
  {copy : CopyLayout} {store : StoreLayout}

theorem CopyLayout.header_of_store (hstore : copy.store = some store) :
    copy.descriptor.storeHeaderOffset = some store.headerOff := by
  rw [descriptor, hstore]
  rfl

theorem CopyLayout.bitmap_of_store (hstore : copy.store = some store) :
    copy.descriptor.storeBitmapOffset = some (headOff store.bitmap) := by
  rw [descriptor, hstore]
  rfl

theorem listed_of_laidOut (h : layout.LaidOut image)
    (hcopy : layout.copies[index]? = some copy) :
    (volumeOf image).stores[index]? = some copy.descriptor := by
  rw [volumeOf_of_laidOut h, VolumeLayout.volume, List.getElem?_map, hcopy]
  rfl

theorem snapshotStateOf_of_laidOut (h : layout.LaidOut image)
    (hcopy : layout.copies[index]? = some copy)
    (hstore : copy.store = some store) :
    (volumeOf image).snapshotStateOf image index =
      .ok (store.state image.size) := by
  have hlaid := store_laidOut h (List.mem_of_getElem? hcopy) hstore
  rw [← hlaid.stateOf_eq]
  exact VssVolume.snapshotStateOf_eq_ok.mpr
    ⟨_, _, _, listed_of_laidOut h hcopy, CopyLayout.header_of_store hstore,
      CopyLayout.bitmap_of_store hstore, rfl⟩

theorem storeInfoOf_of_laidOut [Target] (h : layout.LaidOut image)
    (hcopy : layout.copies[index]? = some copy)
    (hstore : copy.store = some store)
    (htail : tailSize image store.headerOff < Target.usizeSize) :
    (volumeOf image).storeInfoOf image index = .ok store.info := by
  have hlaid := store_laidOut h (List.mem_of_getElem? hcopy) hstore
  have hinside := hlaid.header_inside
  have hfits : store.headerOff.toNat + storeBlockHeaderLen ≤ image.size := by
    omega
  simp only [VssVolume.storeInfoOf, listed_of_laidOut h hcopy,
    CopyLayout.header_of_store hstore, if_pos hfits, hlaid.storeInfoAt_eq htail]

theorem unavailable_of_laidOut [Target] (h : layout.LaidOut image)
    (hcopy : layout.copies[index]? = some copy) (hstore : copy.store = none) :
    (volumeOf image).snapshotStateOf image index =
        .err (.storeInfoUnavailable index) ∧
      (volumeOf image).storeInfoOf image index =
        .err (.storeInfoUnavailable index) := by
  have hnone : copy.descriptor.storeHeaderOffset = none := by
    rw [CopyLayout.descriptor, hstore]
    rfl
  constructor
  · simp only [VssVolume.snapshotStateOf, listed_of_laidOut h hcopy, hnone]
  · simp only [VssVolume.storeInfoOf, listed_of_laidOut h hcopy, hnone]

end Copies

/-- What lies on an image as a layout has it is what is read back: the volume
and its shadow copies, and of each copy its information and its snapshot. A
copy without a store has neither. -/
theorem laid_out_volume_reads_back [Target] (layout : VolumeLayout) :
    (∀ image : Image, layout.Fits image.size →
      layout.LaidOut (layout.write image)) ∧
    ∀ image, layout.LaidOut image →
      Returns image openVolume (layout.volume image.size) ∧
      ∀ index (copy : CopyLayout), layout.copies[index]? = some copy →
        match copy.store with
        | some store =>
            Returns image ((layout.volume image.size).snapshot index)
              (store.state image.size) ∧
            (tailSize image store.headerOff < Target.usizeSize →
              Returns image ((layout.volume image.size).storeInfo index)
                store.info)
        | none =>
            Yields image ((layout.volume image.size).snapshot index)
              (fun answer => answer = .err (.storeInfoUnavailable index)) ∧
            Yields image ((layout.volume image.size).storeInfo index)
              (fun answer => answer = .err (.storeInfoUnavailable index)) := by
  refine ⟨fun image hfits => VolumeLayout.write_laidOut hfits, ?_⟩
  intro image h
  rw [← volumeOf_of_laidOut h]
  refine ⟨(openVolume_runs image).yields rfl, ?_⟩
  intro index copy hcopy
  have hstate : Runs image none ((volumeOf image).snapshot index)
      ((volumeOf image).snapshotStateOf image index) none :=
    VssVolume.snapshotState_runs rfl index
  have hinfo : Runs image none ((volumeOf image).storeInfo index)
      ((volumeOf image).storeInfoOf image index) none :=
    VssVolume.storeInfo_runs rfl index
  cases hstore : copy.store with
  | none =>
      obtain ⟨hnoState, hnoInfo⟩ := unavailable_of_laidOut h hcopy hstore
      exact ⟨hstate.yields hnoState, hinfo.yields hnoInfo⟩
  | some store =>
      exact ⟨hstate.yields (snapshotStateOf_of_laidOut h hcopy hstore),
        fun htail =>
          hinfo.yields (storeInfoOf_of_laidOut h hcopy hstore htail)⟩

/-! One shadow copy, which has saved the block at 81920. -/

def oneInfo : StoreInfo :=
  ⟨sampleGuid 7, sampleGuid 8, 0x1D, ⟨1⟩, "", ""⟩

def oneStore : StoreLayout where
  headerOff := 32768
  info := oneInfo
  area := [(49152, ⟨0, [⟨81920, 0, 65536, ⟨0⟩, 0⟩], by decide⟩)]
  bitmap := []
  saved := [(65536, Vector.replicate blockSize 0xBB)]
  operatingFits := by decide
  serviceFits := by decide
  areaFirst := by decide +kernel
  areaFollowed := ⟨by decide, by decide, by decide⟩
  bitmapFollowed := ⟨by decide, by decide, by decide⟩

def oneLayout : VolumeLayout where
  copies := [⟨sampleGuid 1, 114688, 1, 0, 0, some oneStore⟩]
  catalog :=
    [ (16384,
        ⟨[ .snapshot ⟨sampleGuid 1, 114688, 1, 0, 0, none, none⟩,
            .storePointer (sampleGuid 1) 32768 0 ],
          by decide, by simp [CatalogEntry.Bare]⟩) ]
  catalogFollowed := ⟨by decide, by decide, by decide⟩
  listed := rfl

theorem oneLayout_fits : oneLayout.Fits 114688 := by
  rw [VolumeLayout.fits_iff]
  decide +kernel

/-- A volume of one byte throughout. -/
def oneBackground : Image where
  size := 114688
  size_lt := by decide
  data := fun _ => 0xAA

end ShadowCopy.Core
