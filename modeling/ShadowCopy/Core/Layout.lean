import ShadowCopy.Core.Reconstructed

/-! The on-disk structures of an image, field by field at volume offsets. -/

namespace ShadowCopy.Data.Image

open ShadowCopy.Core

/-- The byte the first patch that covers a position gives it, else zero. -/
def patchByte : List (Nat × List UInt8) → Nat → UInt8
  | [], _ => 0
  | (off, bytes) :: rest, position =>
      if off ≤ position ∧ position < off + bytes.length then
        bytes.getD (position - off) 0
      else
        patchByte rest position

def ofPatches (size : Nat) (h : size < 2 ^ 64)
    (patches : List (Nat × List UInt8)) : Image where
  size := size
  size_lt := h
  data := fun position => patchByte patches position.val

def guid (image : Image) (off : Nat) : Guid :=
  image.read off 16

def u16 (image : Image) (off : Nat) : UInt16 :=
  UInt16.ofNat (leValue (image.read off 2).toList)

def u32 (image : Image) (off : Nat) : UInt32 :=
  UInt32.ofNat (leValue (image.read off 4).toList)

def u64 (image : Image) (off : Nat) : UInt64 :=
  UInt64.ofNat (leValue (image.read off 8).toList)

def isZero (image : Image) (off len : Nat) : Bool :=
  (List.range len).all fun j => image.byteAt (off + j) == 0

def entryAt (image : Image) (off : Nat) : CatalogEntry :=
  if image.u64 off = 0x02 then
    .snapshot {
      storeId := image.guid (off + 16)
      volumeSize := image.u64 (off + 8)
      sequence := image.u64 (off + 32)
      flags := image.u64 (off + 40)
      creationTime := image.u64 (off + 48)
      storeHeaderOffset := none
      storeBitmapOffset := none }
  else if image.u64 off = 0x03 then
    .storePointer (image.guid (off + 16)) (image.u64 (off + 32))
      (image.u64 (off + 48))
  else if image.u64 off = 0x00 then
    .empty
  else
    .other

def descriptorAt (image : Image) (off : Nat) : BlockDescriptor where
  originalOffset := image.u64 off
  relativeStoreOffset := image.u64 (off + 8)
  storeOffset := image.u64 (off + 16)
  flags := ⟨image.u32 (off + 24)⟩
  allocationBitmap := image.u32 (off + 28)

section Fields

variable (image : Image) {off len k : Nat}

theorem bytesAt_read (n : Nat) (h : k + n ≤ len) :
    bytesAt n (image.read off len).toList k = image.read (off + k) n := by
  apply Vector.ext
  intro j hj
  have hin : k + j < len := by omega
  simp [bytesAt, h, hin, Nat.add_assoc]

theorem u32At_read (h : k + 4 ≤ len) :
    u32At (image.read off len).toList k = image.u32 (off + k) := by
  rw [u32At, bytesAt_read image 4 h, u32]

theorem u64At_read (h : k + 8 ≤ len) :
    u64At (image.read off len).toList k = image.u64 (off + k) := by
  rw [u64At, bytesAt_read image 8 h, u64]

theorem all_read (off len : Nat) :
    (image.read off len).toList.all (· == 0) = image.isZero off len := by
  have hlist : (image.read off len).toList =
      (List.range len).map fun j => image.byteAt (off + j) := by
    apply List.ext_getElem
    · simp
    · intro j hleft hright
      simp
  rw [hlist, isZero, List.all_map]
  rfl

theorem decodeEntry_read (off : Nat) :
    decodeEntry (image.read off catalogEntryLen).toList =
      image.entryAt off := by
  have hlen : catalogEntryLen = 128 := rfl
  simp (disch := omega) only [decodeEntry, decodeDescriptor, u64At_read,
    bytesAt_read, entryAt, guid, Nat.add_zero]

theorem decode_read (off : Nat) :
    BlockDescriptor.decode (image.read off blockDescriptorLen).toList =
      image.descriptorAt off := by
  have hlen : blockDescriptorLen = 32 := rfl
  simp (disch := omega) only [BlockDescriptor.decode, u64At_read, u32At_read,
    descriptorAt, Nat.add_zero]

theorem slice_read {m start : Nat} (h : start + len ≤ m) :
    ((image.read off m).toList.drop start).take len =
      (image.read (off + start) len).toList := by
  apply List.ext_getElem
  · simp
    omega
  · intro j hleft hright
    simp [Nat.add_assoc]

theorem records_read {m : Nat} (start count : Nat)
    (h : start + count * len ≤ m) :
    records (image.read off m).toList len start count =
      (List.range count).map fun n =>
        (image.read (off + (start + n * len)) len).toList := by
  induction count generalizing start with
  | zero => rfl
  | succ count ih =>
      have hstep : start + len + count * len ≤ m := by
        rw [Nat.succ_mul] at h
        omega
      have hrecord : ((image.read off m).toList.drop start).take len =
          (image.read (off + start) len).toList :=
        image.slice_read (by omega)
      rw [records, hrecord, ih (start + len) hstep, List.range_succ_eq_map,
        List.map_cons, List.map_map, Nat.zero_mul, Nat.add_zero]
      congr 2
      funext n
      simp only [Function.comp, Nat.succ_mul]
      congr 3
      omega

end Fields

/-! The blocks of the three chains. -/

theorem catalogEntries_blockAt (image : Image) (off : UInt64) :
    catalogEntries (image.blockAt off) =
      (List.range 127).map fun n =>
        image.entryAt
          (off.toNat + (catalogBlockHeaderLen + n * catalogEntryLen)) := by
  have hfits : catalogBlockHeaderLen + 127 * catalogEntryLen ≤ blockSize := by
    decide
  rw [catalogEntries, blockAt,
    image.records_read catalogBlockHeaderLen 127 hfits, List.map_map]
  apply List.map_congr_left
  intro n _
  rw [Function.comp, decodeEntry_read]

theorem blockDescriptors_blockAt (image : Image) (off : UInt64) :
    blockDescriptors (image.blockAt off) =
      (((List.range 508).map fun n =>
        off.toNat + (storeBlockHeaderLen + n * blockDescriptorLen)).takeWhile
          fun record => !image.isZero record blockDescriptorLen).map
            image.descriptorAt := by
  have hfits : storeBlockHeaderLen + 508 * blockDescriptorLen ≤ blockSize := by
    decide
  have hrecords : records (image.read off.toNat blockSize).toList
      blockDescriptorLen storeBlockHeaderLen 508 =
      ((List.range 508).map fun n =>
        off.toNat + (storeBlockHeaderLen + n * blockDescriptorLen)).map
          fun record => (image.read record blockDescriptorLen).toList := by
    rw [image.records_read storeBlockHeaderLen 508 hfits, List.map_map]
    rfl
  have hzero : (fun record : List UInt8 => !record.all (· == 0)) ∘
      (fun record => (image.read record blockDescriptorLen).toList) =
      fun record => !image.isZero record blockDescriptorLen := by
    funext record
    rw [Function.comp, all_read]
  rw [blockDescriptors, blockAt, hrecords, List.takeWhile_map, hzero,
    List.map_map]
  apply List.map_congr_left
  intro record _
  rw [Function.comp, decode_read]

theorem catalogBlockAccepted_blockAt (image : Image) (off : UInt64) :
    catalogBlockAccepted (image.blockAt off) =
      (image.guid off.toNat == vssIdentifier &&
        image.u32 (off.toNat + 20) == catalogBlockRecordType) := by
  rw [catalogBlockAccepted, blockAt,
    bytesAt_read image 16 (by decide), u32At_read image (by decide)]
  rfl

theorem entryAt_eq_empty {image : Image} {off : Nat}
    (h : ∀ j, j < 8 → image.byteAt (off + j) = 0) :
    image.entryAt off = .empty := by
  have hread : image.read off 8 = Vector.replicate 8 0 := by
    apply Vector.ext
    intro j hj
    simp [h j hj]
  have hkind : image.u64 off = 0 := by
    rw [u64, hread]
    rfl
  simp [entryAt, hkind]

theorem catalogEntries_of_zero {image : Image} {off : UInt64} (count : Nat)
    (hcount : count ≤ 127)
    (h : ∀ position,
      off.toNat + (catalogBlockHeaderLen + count * catalogEntryLen) ≤
        position → position < off.toNat + blockSize →
          image.byteAt position = 0) :
    catalogEntries (image.blockAt off) =
      ((List.range count).map fun n =>
        image.entryAt
          (off.toNat + (catalogBlockHeaderLen + n * catalogEntryLen))) ++
        List.replicate (127 - count) .empty := by
  have hlen : catalogBlockHeaderLen = 128 ∧ catalogEntryLen = 128 ∧
      blockSize = 16384 := ⟨rfl, rfl, rfl⟩
  obtain ⟨hheader, hentry, hblock⟩ := hlen
  rw [hheader, hentry, hblock] at h
  rw [catalogEntries_blockAt, hheader, hentry]
  apply List.ext_getElem
  · simp
    omega
  · intro n hleft hright
    have hn : n < 127 := by simpa using hleft
    rw [List.getElem_map, List.getElem_range, List.getElem_append]
    split
    · simp
    · rename_i hlate
      have hlate : count ≤ n := by simpa using hlate
      rw [List.getElem_replicate]
      exact entryAt_eq_empty fun j hj => h _ (by omega) (by omega)

theorem byteAt_ofPatches {size : Nat} {h : size < 2 ^ 64}
    {patches : List (Nat × List UInt8)} {start stop position : Nat}
    (hclear : ∀ patch ∈ patches,
      patch.1 + patch.2.length ≤ start ∨ stop ≤ patch.1)
    (hstart : start ≤ position) (hstop : position < stop) :
    (ofPatches size h patches).byteAt position = 0 := by
  have hzero : patchByte patches position = 0 := by
    induction patches with
    | nil => rfl
    | cons patch rest ih =>
        have hmiss := hclear patch (List.mem_cons_self ..)
        rw [patchByte, if_neg (by omega)]
        exact ih fun patch hpatch =>
          hclear patch (List.mem_cons_of_mem _ hpatch)
  unfold byteAt
  split
  · exact hzero
  · rfl

theorem byteAt_ofPatches_append {size : Nat} {h : size < 2 ^ 64}
    {extra patches : List (Nat × List UInt8)} {position : Nat}
    (hmiss : ∀ patch ∈ extra,
      position < patch.1 ∨ patch.1 + patch.2.length ≤ position) :
    (ofPatches size h (extra ++ patches)).byteAt position =
      (ofPatches size h patches).byteAt position := by
  have hsame : patchByte (extra ++ patches) position =
      patchByte patches position := by
    induction extra with
    | nil => rfl
    | cons patch rest ih =>
        have hpatch := hmiss patch (List.mem_cons_self ..)
        rw [List.cons_append, patchByte, if_neg (by omega)]
        exact ih fun patch hpatch =>
          hmiss patch (List.mem_cons_of_mem _ hpatch)
  unfold byteAt ofPatches
  simp only [hsame]

theorem storeBlockAccepted_blockAt (image : Image) (recordType : UInt32)
    (off : UInt64) :
    storeBlockAccepted recordType (image.blockAt off) =
      (image.u32 (off.toNat + 20) == recordType) := by
  rw [storeBlockAccepted, blockAt, u32At_read image (by decide)]

theorem next_blockAt (image : Image) (off : UInt64) :
    u64At (image.blockAt off) 40 = image.u64 (off.toNat + 40) :=
  image.u64At_read (by decide)

end ShadowCopy.Data.Image

namespace ShadowCopy.Core

open ShadowCopy.Data

/-! Volumes whose chains are one block long. -/

section SingleBlock

variable {image : Image} {first : UInt64}

theorem blockFits_zero (image : Image) : image.blockFits 0 = false := by
  simp [Image.blockFits]

/-- A block of some record type that ends its chain. -/
structure ChainEnd (image : Image) (recordType : UInt32) (first : UInt64) :
    Prop where
  inside : image.blockFits first = true
  typed : image.u32 (first.toNat + 20) = recordType
  last : image.u64 (first.toNat + 40) = 0

instance (image : Image) (recordType : UInt32) (first : UInt64) :
    Decidable (ChainEnd image recordType first) :=
  decidable_of_iff
    (image.blockFits first = true ∧
      image.u32 (first.toNat + 20) = recordType ∧
      image.u64 (first.toNat + 40) = 0)
    ⟨fun h => ⟨h.1, h.2.1, h.2.2⟩, fun h => ⟨h.inside, h.typed, h.last⟩⟩

namespace ChainEnd

variable {recordType : UInt32} {accepts : List UInt8 → Bool} {cap : Nat}

theorem next_fits (h : ChainEnd image recordType first) :
    (image.links accepts (u64At · 40)).fits
      ((image.links accepts (u64At · 40)).next first) = false := by
  rw [Image.links_fits, Image.links_next, image.next_blockAt, h.last,
    blockFits_zero]

theorem collected (h : ChainEnd image recordType first) (hcap : 0 < cap)
    (haccepts : accepts (image.blockAt first) = true) :
    (image.links accepts (u64At · 40)).collected cap [] first = [first] :=
  Links.collected_eq_singleton hcap h.inside haccepts h.next_fits

theorem inspected (h : ChainEnd image recordType first) (hcap : 0 < cap) :
    (image.links accepts (u64At · 40)).inspected cap [] first = [first] :=
  Links.inspected_eq_singleton hcap h.inside h.next_fits

end ChainEnd

theorem volumeOf_hasVssHeader (hfits : headerFits image)
    (hidentifier : image.guid 0x1E00 = vssIdentifier) :
    (volumeOf image).hasVssHeader = true := by
  have hheader : (volumeHeader image).hasVssIdentifier = true := by
    rw [volumeHeader, VolumeHeader.decode]
    dsimp only
    rw [Image.bytesAt_read image 16 (by decide)]
    exact beq_iff_eq.mpr hidentifier
  simp only [volumeOf, if_pos hfits, hheader]

theorem volumeOf_catalogOffset (hfits : headerFits image) :
    (volumeOf image).catalogOffset = image.u64 0x1E30 := by
  have hoffset : (volumeHeader image).catalogOffset = image.u64 0x1E30 := by
    rw [volumeHeader, VolumeHeader.decode]
    dsimp only
    rw [Image.u64At_read image (by decide)]
    rfl
  simp only [volumeOf, if_pos hfits, hoffset]

def HeaderPresent (image : Image) : Prop :=
  headerFits image ∧ image.guid 0x1E00 = vssIdentifier

theorem hasVssHeader_iff (image : Image) :
    (volumeOf image).hasVssHeader = true ↔ HeaderPresent image := by
  constructor
  · intro h
    by_cases hfits : headerFits image
    · simp only [volumeOf, if_pos hfits] at h
      have hguid : bytesAt 16 (image.read vssVolumeHeaderOffset.toNat
          catalogBlockHeaderLen).toList 0 = image.guid 0x1E00 :=
        image.bytesAt_read 16 (by decide)
      refine ⟨hfits, ?_⟩
      rw [← hguid]
      exact beq_iff_eq.mp h
    · simp only [volumeOf, if_neg hfits] at h
      contradiction
  · rintro ⟨hfits, hidentifier⟩
    exact volumeOf_hasVssHeader hfits hidentifier

/-- What a volume has from the header of its image. -/
structure HeaderRead (image : Image) (volume : VssVolume) : Prop where
  present : volume.hasVssHeader = true ↔ HeaderPresent image
  catalogOffset : HeaderPresent image →
    volume.catalogOffset = image.u64 0x1E30

theorem volumeOf_headerRead (image : Image) :
    HeaderRead image (volumeOf image) where
  present := hasVssHeader_iff image
  catalogOffset := fun h => volumeOf_catalogOffset h.1

/-- The entries of a volume with one catalog block, whose tail is zero. -/
theorem walkedEntries_single (count : Nat) (hcount : count ≤ 127)
    (hfits : headerFits image)
    (hidentifier : image.guid 0x1E00 = vssIdentifier)
    (hfirst : image.u64 0x1E30 = first)
    (hblock : ChainEnd image catalogBlockRecordType first)
    (hcatalog : image.guid first.toNat = vssIdentifier)
    (hzero : ∀ position,
      first.toNat + (catalogBlockHeaderLen + count * catalogEntryLen) ≤
        position → position < first.toNat + blockSize →
          image.byteAt position = 0) :
    walkedEntries image (volumeOf image) =
      ((List.range count).map fun n => image.entryAt (first.toNat +
        (catalogBlockHeaderLen + n * catalogEntryLen))) ++
        List.replicate (127 - count) .empty := by
  have hne : first ≠ 0 := fun h => by
    have hinside := hblock.inside
    rw [h, blockFits_zero] at hinside
    contradiction
  have haccepted : catalogBlockAccepted (image.blockAt first) = true := by
    rw [image.catalogBlockAccepted_blockAt, hcatalog, hblock.typed]
    rfl
  have hwalk : ((volumeOf image).hasVssHeader &&
      (volumeOf image).catalogOffset != 0) = true := by
    rw [volumeOf_hasVssHeader hfits hidentifier,
      volumeOf_catalogOffset hfits, hfirst]
    simpa using hne
  rw [walkedEntries, if_pos hwalk, volumeOf_catalogOffset hfits, hfirst,
    chainEntries, catalogChain,
    hblock.collected (by decide) haccepted,
    List.flatMap_singleton, Image.catalogEntries_of_zero count hcount hzero]

theorem walkedEntries_ofPatches {size : Nat} {h : size < 2 ^ 64}
    {patches : List (Nat × List UInt8)} (first : UInt64) (count : Nat)
    (hcount : count ≤ 127) (hfits : headerFits (.ofPatches size h patches))
    (hidentifier : (Image.ofPatches size h patches).guid 0x1E00 =
      vssIdentifier)
    (hfirst : (Image.ofPatches size h patches).u64 0x1E30 = first)
    (hblock : ChainEnd (.ofPatches size h patches) catalogBlockRecordType
      first)
    (hcatalog : (Image.ofPatches size h patches).guid first.toNat =
      vssIdentifier)
    (hclear : ∀ patch ∈ patches,
      patch.1 + patch.2.length ≤ first.toNat +
          (catalogBlockHeaderLen + count * catalogEntryLen) ∨
        first.toNat + blockSize ≤ patch.1) :
    walkedEntries (.ofPatches size h patches)
        (volumeOf (.ofPatches size h patches)) =
      ((List.range count).map fun n =>
        (Image.ofPatches size h patches).entryAt (first.toNat +
          (catalogBlockHeaderLen + n * catalogEntryLen))) ++
        List.replicate (127 - count) .empty :=
  walkedEntries_single count hcount hfits hidentifier hfirst hblock hcatalog
    fun _ => Image.byteAt_ofPatches hclear

namespace ChainEnd

theorem storeChain {recordType : UInt32}
    (h : ChainEnd image recordType first) :
    storeChain image recordType first = [first] := by
  apply h.collected (by decide)
  rw [image.storeBlockAccepted_blockAt, h.typed]
  exact beq_self_eq_true _

theorem diffDescriptors (h : ChainEnd image diffAreaRecordType first) :
    diffDescriptors image first =
      (((List.range 508).map fun n =>
        first.toNat + (storeBlockHeaderLen + n * blockDescriptorLen)).takeWhile
          fun record => !image.isZero record blockDescriptorLen).map
            image.descriptorAt := by
  rw [Core.diffDescriptors, h.storeChain, List.flatMap_singleton,
    Image.blockDescriptors_blockAt]

theorem bitmapOf (h : ChainEnd image bitmapRecordType first) :
    bitmapOf image first =
      (image.blockAt first).drop storeBlockHeaderLen := by
  rw [Core.bitmapOf, h.storeChain, List.map_singleton, joinPieces,
    List.mergeSort_singleton, List.flatMap_singleton, bitmapPiece]

theorem bit_eq_false [Target] (h : ChainEnd image bitmapRecordType first)
    (hzero : ∀ position, first.toNat + storeBlockHeaderLen ≤ position →
      position < first.toNat + blockSize → image.byteAt position = 0)
    {state : SnapshotState}
    (hstate : state.bitmap = Core.bitmapOf image first)
    (n : UInt64) : state.bit n = false := by
  have hbyte : ∀ (k : Nat) (value : UInt8), state.bitmap[k]? = some value →
      value = 0 := by
    intro k value hvalue
    rw [hstate, h.bitmapOf, List.getElem?_drop, Image.blockAt] at hvalue
    obtain ⟨hk, rfl⟩ := List.getElem?_eq_some_iff.mp hvalue
    have hin : storeBlockHeaderLen + k < blockSize := by simpa using hk
    rw [Vector.getElem_toList, Image.getElem_read]
    exact hzero _ (by omega) (by omega)
  unfold SnapshotState.bit
  cases hlookup : (usizeTryFrom (n / 8)).bind (state.bitmap[·]?) with
  | none => rfl
  | some value =>
      obtain ⟨k, _, hvalue⟩ := Option.bind_eq_some_iff.mp hlookup
      rw [hbyte k value hvalue]
      exact Nat.zero_testBit _

end ChainEnd

end SingleBlock

/-! A small volume with two shadow copies of one live block. -/

def encodeU64 (value : Nat) : List UInt8 :=
  (List.range 8).map fun k => UInt8.ofNat (value / 256 ^ k)

def samplePatches : List (Nat × List UInt8) :=
  [ -- volume header
    (0x1E00, vssIdentifier.toList), (0x1E30, encodeU64 16384),
    -- catalog: a snapshot and its pointer, twice
    (16384, vssIdentifier.toList), (16404, [2]),
    (16512, [2]), (16528, [1]), (16560, [1]),
    (16640, [3]), (16656, [1]), (16672, encodeU64 32768),
    (16688, encodeU64 65536),
    (16768, [2]), (16784, [2]), (16816, [2]),
    (16896, [3]), (16912, [2]), (16928, encodeU64 81920),
    (16944, encodeU64 114688),
    -- store header, diff area and bitmap of the older copy
    (32768, vssIdentifier.toList), (32788, [4]),
    (49152, vssIdentifier.toList), (49172, [3]),
    (65536, vssIdentifier.toList), (65556, [6]),
    -- and of the newer one, which has saved the block at 131072
    (81920, vssIdentifier.toList), (81940, [4]),
    (98304, vssIdentifier.toList), (98324, [3]),
    (98432, encodeU64 131072), (98448, encodeU64 147456),
    (114688, vssIdentifier.toList), (114708, [6]),
    -- live block, saved block and a last byte past the last whole block
    (131072, [0xAA]), (147456, [0xBB]), (163840, [0xCC]) ]

/-- The volume, under some further patches. -/
def sample (extra : List (Nat × List UInt8)) : Image :=
  .ofPatches 163841 (by decide) (extra ++ samplePatches)

def sampleGuid (byte : UInt8) : Guid :=
  Vector.ofFn fun j => if j.val = 0 then byte else 0

def sampleEntries : List CatalogEntry :=
  [ .snapshot ⟨sampleGuid 1, 0, 0, 0, 1, none, none⟩,
    .storePointer (sampleGuid 1) 32768 65536,
    .snapshot ⟨sampleGuid 2, 0, 0, 0, 2, none, none⟩,
    .storePointer (sampleGuid 2) 81920 114688 ] ++ List.replicate 123 .empty

theorem sample_walkedEntries :
    walkedEntries (sample []) (volumeOf (sample [])) = sampleEntries := by
  refine (walkedEntries_ofPatches 16384 4 (by decide) (by decide +kernel)
    (by decide +kernel) (by decide +kernel) (by decide +kernel)
    (by decide +kernel) (by decide +kernel)).trans ?_
  decide +kernel

theorem sample_stores : (volumeOf (sample [])).stores =
    [⟨sampleGuid 1, 0, 0, 0, 1, some 32768, some 65536⟩,
      ⟨sampleGuid 2, 0, 0, 0, 2, some 81920, some 114688⟩] := by
  rw [volumeOf_stores_eq, sample_walkedEntries]
  decide +kernel

theorem sample_older : (volumeOf (sample [])).stores[0]? =
    some ⟨sampleGuid 1, 0, 0, 0, 1, some 32768, some 65536⟩ := by
  rw [sample_stores]
  rfl

theorem sample_older_bit [Target] (n : UInt64) :
    (stateOf (sample []) 32768 65536).bit n = false := by
  have hbitmap : ChainEnd (sample []) bitmapRecordType 65536 := by
    decide +kernel
  exact hbitmap.bit_eq_false
    (fun _ => Image.byteAt_ofPatches (by decide +kernel)) rfl n

theorem sample_newer : (volumeOf (sample [])).stores[1]? =
    some ⟨sampleGuid 2, 0, 0, 0, 2, some 81920, some 114688⟩ := by
  rw [sample_stores]
  rfl

def sampleDescriptor : BlockDescriptor := ⟨131072, 0, 147456, ⟨0⟩, 0⟩

theorem sample_older_descriptors :
    diffDescriptors (sample []) (diffStart 32768) = [] := by
  have hdiff : ChainEnd (sample []) diffAreaRecordType (diffStart 32768) := by
    decide +kernel
  rw [hdiff.diffDescriptors]
  decide +kernel

theorem sample_newer_diffArea :
    ChainEnd (sample []) diffAreaRecordType (diffStart 81920) := by
  decide +kernel

theorem sample_newer_bitmap :
    ChainEnd (sample []) bitmapRecordType 114688 := by
  decide +kernel

theorem sample_newer_descriptors :
    diffDescriptors (sample []) (diffStart 81920) = [sampleDescriptor] := by
  rw [sample_newer_diffArea.diffDescriptors]
  decide +kernel

end ShadowCopy.Core
