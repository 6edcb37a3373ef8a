import ShadowCopy.Core.Reconstructed
import ShadowCopy.Data.Extents
import ShadowCopy.Format.Records

namespace ShadowCopy.Core

open ShadowCopy.Data

/-! The 16 KiB blocks as they are written: a header that links to the next
block of the chain, and a payload. -/

def blockHeader (recordType : UInt32) (relativeOffset off next : UInt64) :
    StoreBlockHeader where
  hasVssIdentifier := true
  version := 1
  recordType := recordType
  relativeOffset := relativeOffset
  currentOffset := off
  nextOffset := next
  storeInformationSize := 0

structure CatalogPage where
  entries : List CatalogEntry
  fits : entries.length ≤ 127
  bare : ∀ entry ∈ entries, entry.Bare

structure DescriptorPage where
  relativeOffset : UInt64
  descriptors : List BlockDescriptor
  fits : descriptors.length ≤ 508

structure BitmapPage where
  relativeOffset : UInt64
  payload : Vector UInt8 (blockSize - storeBlockHeaderLen)

def CatalogPage.slots (page : CatalogPage) : List CatalogEntry :=
  page.entries ++ List.replicate (127 - page.entries.length) .empty

def DescriptorPage.slots (page : DescriptorPage) : List BlockDescriptor :=
  page.descriptors ++
    List.replicate (508 - page.descriptors.length) BlockDescriptor.zero

def CatalogPage.encode (off next : UInt64) (page : CatalogPage) : List UInt8 :=
  (blockHeader catalogBlockRecordType 0 off next).encode ++
    page.slots.flatMap CatalogEntry.encode

def DescriptorPage.encode (off next : UInt64) (page : DescriptorPage) :
    List UInt8 :=
  (blockHeader diffAreaRecordType page.relativeOffset off next).encode ++
    page.slots.flatMap BlockDescriptor.encode

def BitmapPage.encode (off next : UInt64) (page : BitmapPage) : List UInt8 :=
  (blockHeader bitmapRecordType page.relativeOffset off next).encode ++
    page.payload.toList

section Records

/-- Records written end to end are told apart again: induction on them, the
ones before having been passed. -/
theorem records_flatMap {len : Nat} {encode : α → List UInt8}
    (hlen : ∀ item, (encode item).length = len) (before : List UInt8)
    (items : List α) :
    records (before ++ items.flatMap encode) len before.length items.length =
      items.map encode := by
  induction items generalizing before with
  | nil => rfl
  | cons item rest ih =>
      have hnext := ih (before ++ encode item)
      rw [List.length_append, hlen item, List.append_assoc] at hnext
      rw [List.length_cons, records, List.flatMap_cons, List.map_cons, hnext,
        List.drop_left, List.take_left' (hlen item)]

theorem length_flatMap_of_length {len : Nat} {encode : α → List UInt8}
    (hlen : ∀ item, (encode item).length = len) (items : List α) :
    (items.flatMap encode).length = items.length * len := by
  induction items with
  | nil => rw [List.flatMap_nil, List.length_nil, List.length_nil, Nat.zero_mul]
  | cons item rest ih =>
      rw [List.flatMap_cons, List.length_append, hlen, ih, List.length_cons,
        Nat.succ_mul, Nat.add_comm]

variable (recordType : UInt32) (relativeOffset off next : UInt64)
  (rest : List UInt8)

theorem u32At_blockHeader :
    u32At ((blockHeader recordType relativeOffset off next).encode ++ rest)
      20 = recordType := by
  have hfield := congrArg StoreBlockHeader.recordType
    (StoreBlockHeader.decode_encode rest
      (blockHeader recordType relativeOffset off next))
  rw [StoreBlockHeader.decode] at hfield
  exact hfield

theorem u64At_blockHeader_next :
    u64At ((blockHeader recordType relativeOffset off next).encode ++ rest)
      40 = next := by
  have hfield := congrArg StoreBlockHeader.nextOffset
    (StoreBlockHeader.decode_encode rest
      (blockHeader recordType relativeOffset off next))
  rw [StoreBlockHeader.decode] at hfield
  exact hfield

theorem u64At_blockHeader_relative :
    u64At ((blockHeader recordType relativeOffset off next).encode ++ rest)
      24 = relativeOffset := by
  have hfield := congrArg StoreBlockHeader.relativeOffset
    (StoreBlockHeader.decode_encode rest
      (blockHeader recordType relativeOffset off next))
  rw [StoreBlockHeader.decode] at hfield
  exact hfield

theorem accepted_blockHeader :
    catalogBlockAccepted
      ((blockHeader catalogBlockRecordType relativeOffset off next).encode ++
        rest) = true := by
  have hmark := congrArg StoreBlockHeader.hasVssIdentifier
    (StoreBlockHeader.decode_encode rest
      (blockHeader catalogBlockRecordType relativeOffset off next))
  rw [StoreBlockHeader.decode] at hmark
  rw [catalogBlockAccepted, u32At_blockHeader]
  exact Bool.and_eq_true_iff.mpr ⟨hmark, beq_self_eq_true _⟩

theorem storeAccepted_blockHeader :
    storeBlockAccepted recordType
      ((blockHeader recordType relativeOffset off next).encode ++ rest) =
        true := by
  rw [storeBlockAccepted, u32At_blockHeader]
  exact beq_self_eq_true _

end Records

section Slots

variable (off next : UInt64)

@[simp] theorem CatalogPage.length_slots (page : CatalogPage) :
    page.slots.length = 127 := by
  have := page.fits
  simp [slots]
  omega

@[simp] theorem DescriptorPage.length_slots (page : DescriptorPage) :
    page.slots.length = 508 := by
  have := page.fits
  simp [slots]
  omega

theorem CatalogPage.length_encode (page : CatalogPage) :
    (page.encode off next).length = blockSize := by
  rw [encode, List.length_append, StoreBlockHeader.length_encode,
    length_flatMap_of_length CatalogEntry.length_encode, length_slots]
  rfl

theorem DescriptorPage.length_encode (page : DescriptorPage) :
    (page.encode off next).length = blockSize := by
  rw [encode, List.length_append, StoreBlockHeader.length_encode,
    length_flatMap_of_length BlockDescriptor.length_encode, length_slots]
  rfl

theorem BitmapPage.length_encode (page : BitmapPage) :
    (page.encode off next).length = blockSize := by
  rw [encode, List.length_append, StoreBlockHeader.length_encode,
    Vector.length_toList]
  rfl

/-- A catalog block gives back its entries and then the slots left empty. -/
theorem CatalogPage.entries_encode (page : CatalogPage) :
    catalogEntries (page.encode off next) = page.slots := by
  have hrecords := records_flatMap CatalogEntry.length_encode
    (blockHeader catalogBlockRecordType 0 off next).encode page.slots
  rw [StoreBlockHeader.length_encode, length_slots] at hrecords
  have hbare : ∀ entry ∈ page.slots, entry.Bare := by
    intro entry hentry
    rcases List.mem_append.mp hentry with hlisted | hpadding
    · exact page.bare entry hlisted
    · rw [List.eq_of_mem_replicate hpadding]
      exact True.intro
  have hdecode : page.slots.map (decodeEntry ∘ CatalogEntry.encode) =
      page.slots := by
    refine (List.map_congr_left fun entry hentry => ?_).trans (List.map_id _)
    have hdecoded := CatalogEntry.decode_encode [] (hbare entry hentry)
    rw [List.append_nil] at hdecoded
    simp only [Function.comp, id, hdecoded]
  have hstart : catalogBlockHeaderLen = storeBlockHeaderLen := rfl
  rw [catalogEntries, encode, hstart, hrecords, List.map_map, hdecode]

/-- A diff-area block gives back its descriptors up to the first that is all
zero. -/
theorem DescriptorPage.descriptors_encode (page : DescriptorPage) :
    blockDescriptors (page.encode off next) =
      page.descriptors.takeWhile fun d => d ≠ BlockDescriptor.zero := by
  have hrecords := records_flatMap BlockDescriptor.length_encode
    (blockHeader diffAreaRecordType page.relativeOffset off next).encode
    page.slots
  rw [StoreBlockHeader.length_encode, length_slots] at hrecords
  have hkeep : (fun record : List UInt8 => !record.all (· == 0)) ∘
      BlockDescriptor.encode = fun d => decide (d ≠ BlockDescriptor.zero) := by
    funext d
    rw [Function.comp, BlockDescriptor.encode_all_zero, decide_not]
  have hdecode : BlockDescriptor.decode ∘ BlockDescriptor.encode = id := by
    funext d
    have hdecoded := BlockDescriptor.decode_encode [] d
    rw [List.append_nil] at hdecoded
    exact hdecoded
  rw [blockDescriptors, encode, show blockDescriptorLen = 32 from rfl,
    hrecords, List.takeWhile_map, hkeep, List.map_map, hdecode, List.map_id,
    slots, List.takeWhile_append]
  split
  · rename_i hall
    have hpadding : (List.replicate (508 - page.descriptors.length)
        BlockDescriptor.zero).takeWhile
          (fun d => decide (d ≠ BlockDescriptor.zero)) = [] := by
      rw [List.takeWhile_replicate, if_neg (by simp)]
    rw [hpadding, List.append_nil]
    exact ((List.takeWhile_prefix _).eq_of_length hall).symm
  · rfl

theorem BitmapPage.piece_encode (page : BitmapPage) :
    bitmapPiece (page.encode off next) =
      (page.relativeOffset, page.payload.toList) := by
  rw [bitmapPiece, encode, u64At_blockHeader_relative,
    List.drop_left' (StoreBlockHeader.length_encode _)]

end Slots

/-! Chains of blocks, each linked to the one listed after it. -/

def headOff : List (UInt64 × β) → UInt64
  | [] => 0
  | (off, _) :: _ => off

/-- Where the blocks of a chain lie and what they hold. -/
def chainExtents (encode : UInt64 → UInt64 → β → List UInt8) :
    List (UInt64 × β) → List (Nat × List UInt8)
  | [] => []
  | (off, page) :: rest =>
      (off.toNat, encode off (headOff rest) page) :: chainExtents encode rest

/-- Blocks of one kind, as a chain walk takes them. -/
structure PageKind (encode : UInt64 → UInt64 → β → List UInt8)
    (accepts : List UInt8 → Bool) : Prop where
  length : ∀ off next page, (encode off next page).length = blockSize
  accepted : ∀ off next page, accepts (encode off next page) = true
  linked : ∀ off next page, u64At (encode off next page) 40 = next

theorem catalogPage_kind : PageKind CatalogPage.encode catalogBlockAccepted where
  length := CatalogPage.length_encode
  accepted := fun _ _ _ => accepted_blockHeader _ _ _ _
  linked := fun _ _ _ => u64At_blockHeader_next _ _ _ _ _

theorem descriptorPage_kind : PageKind DescriptorPage.encode
    (storeBlockAccepted diffAreaRecordType) where
  length := DescriptorPage.length_encode
  accepted := fun _ _ _ => storeAccepted_blockHeader _ _ _ _ _
  linked := fun _ _ _ => u64At_blockHeader_next _ _ _ _ _

theorem bitmapPage_kind : PageKind BitmapPage.encode
    (storeBlockAccepted bitmapRecordType) where
  length := BitmapPage.length_encode
  accepted := fun _ _ _ => storeAccepted_blockHeader _ _ _ _ _
  linked := fun _ _ _ => u64At_blockHeader_next _ _ _ _ _

/-- A chain that a walk with this cap follows to its end. -/
structure Followed (cap : Nat) (pages : List (UInt64 × β)) : Prop where
  nonzero : ∀ page ∈ pages, page.1 ≠ 0
  nodup : (pages.map Prod.fst).Nodup
  length_le : pages.length ≤ cap

section Chains

variable {image : Image} {encode : UInt64 → UInt64 → β → List UInt8}
  {accepts : List UInt8 → Bool} {pages : List (UInt64 × β)}

theorem blockAt_of_holds (hkind : PageKind encode accepts) {off next : UInt64}
    {page : β} (h : image.Holds off.toNat (encode off next page)) :
    image.blockAt off = encode off next page := by
  have hbytes := h.bytes
  rw [hkind.length] at hbytes
  exact hbytes

/-- Every block of the chain is found as it was written. -/
theorem exists_blockAt (hkind : PageKind encode accepts)
    (hheld : ∀ extent ∈ chainExtents encode pages,
      image.Holds extent.1 extent.2) :
    ∀ page ∈ pages, ∃ next, image.blockAt page.1 = encode page.1 next page.2 := by
  induction pages with
  | nil => exact fun _ h => absurd h List.not_mem_nil
  | cons page rest ih =>
      obtain ⟨off, content⟩ := page
      obtain ⟨hfirst, hrest⟩ := List.forall_mem_cons.mp hheld
      refine List.forall_mem_cons.mpr ⟨?_, ih hrest⟩
      exact ⟨headOff rest, blockAt_of_holds hkind hfirst⟩

/-- The walk goes from block to block: induction on the chain, whose blocks
have not been visited. -/
theorem collected_of_holds (hkind : PageKind encode accepts) {cap : Nat}
    {avoid : List UInt64} (hfollowed : Followed cap pages)
    (hfresh : ∀ page ∈ pages, page.1 ∉ avoid)
    (hheld : ∀ extent ∈ chainExtents encode pages,
      image.Holds extent.1 extent.2) :
    (image.links accepts (u64At · 40)).collected cap avoid (headOff pages) =
      pages.map Prod.fst := by
  induction pages generalizing cap avoid with
  | nil =>
      apply Links.collected_eq_nil
      simp [headOff, Image.blockFits]
  | cons page rest ih =>
      obtain ⟨off, content⟩ := page
      obtain ⟨hfirst, hrest⟩ := List.forall_mem_cons.mp hheld
      obtain ⟨hnew, hdistinct⟩ := List.nodup_cons.mp hfollowed.nodup
      obtain ⟨hoff, hoffs⟩ := List.forall_mem_cons.mp hfollowed.nonzero
      obtain ⟨havoid, havoids⟩ := List.forall_mem_cons.mp hfresh
      have hblock := blockAt_of_holds hkind hfirst
      have hinside := hfirst.inside
      rw [hkind.length] at hinside
      have hfits : (image.links accepts (u64At · 40)).fits off = true := by
        simp [Image.blockFits, hoff, hinside]
      have haccepts : (image.links accepts (u64At · 40)).accepts off = true :=
        (congrArg accepts hblock).trans (hkind.accepted _ _ _)
      have hnext : (image.links accepts (u64At · 40)).next off =
          headOff rest :=
        (congrArg (u64At · 40) hblock).trans (hkind.linked _ _ _)
      cases cap with
      | zero => exact absurd hfollowed.length_le (Nat.not_succ_le_zero _)
      | succ cap =>
          have hlength := Nat.le_of_succ_le_succ hfollowed.length_le
          rw [headOff, Links.collected, if_pos ⟨hfits, havoid, haccepts⟩, hnext,
            List.map_cons, ih ⟨hoffs, hdistinct, hlength⟩ ?_ hrest]
          intro other hother hmem
          rcases List.mem_cons.mp hmem with hsame | hold
          · have hlisted : other.1 ∈ rest.map Prod.fst :=
              List.mem_map_of_mem hother
            rw [hsame] at hlisted
            exact hnew hlisted
          · exact havoids other hother hold

end Chains

end ShadowCopy.Core
