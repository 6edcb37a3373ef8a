import ShadowCopy.Core.Layout

namespace ShadowCopy.Core

open ShadowCopy.Data

/-! Images that agree on what a walk looks at are walked in lock-step. -/

def catalogInspected (image : Image) (first : UInt64) : List UInt64 :=
  (image.links catalogBlockAccepted (u64At · 40)).inspected maxCatalogBlocks []
    first

def storeInspected (image : Image) (recordType : UInt32) (first : UInt64) :
    List UInt64 :=
  (image.links (storeBlockAccepted recordType) (u64At · 40)).inspected
    maxStoreBlocks [] first

variable {left right : Image}

theorem blockFits_congr (hsize : left.size = right.size) (off : UInt64) :
    left.blockFits off = right.blockFits off := by
  rw [Image.blockFits, Image.blockFits, hsize]

theorem inRange_congr (hsize : left.size = right.size) (off : UInt64) :
    inRange left off = inRange right off := by
  rw [inRange, inRange, hsize]

theorem collected_congr {accepts : List UInt8 → Bool}
    {next : List UInt8 → UInt64} {cap : Nat} {first : UInt64}
    (hsize : left.size = right.size)
    (h : ∀ off ∈ (left.links accepts next).inspected cap [] first,
      left.blockAt off = right.blockAt off) :
    (left.links accepts next).collected cap [] first =
        (right.links accepts next).collected cap [] first ∧
      ∀ off ∈ (left.links accepts next).collected cap [] first,
        left.blockAt off = right.blockAt off := by
  constructor
  · have hsame : ∀ off ∈ (left.links accepts next).inspected cap [] first,
        (left.links accepts next).accepts off =
            (right.links accepts next).accepts off ∧
          (left.links accepts next).next off =
            (right.links accepts next).next off := by
      intro off hoff
      rw [Image.links_accepts, Image.links_accepts, Image.links_next,
        Image.links_next, h off hoff]
      exact ⟨rfl, rfl⟩
    exact (Links.walk_congr (blockFits_congr hsize) hsame).1
  · intro off hoff
    exact h off (Links.collected_subset_inspected _ _ _ _ hoff)

theorem catalogStores_congr {first : UInt64} (hsize : left.size = right.size)
    (h : ∀ off ∈ catalogInspected left first,
      left.blockAt off = right.blockAt off) :
    catalogStores left first = catalogStores right first := by
  obtain ⟨hchain, hblocks⟩ := collected_congr hsize h
  have hentries : chainEntries left first = chainEntries right first := by
    rw [chainEntries, chainEntries, catalogChain, catalogChain, ← hchain]
    apply List.flatMap_congr
    intro off hoff
    rw [hblocks off hoff]
  rw [catalogStores, catalogStores, hentries]

theorem volumeOf_congr (hsize : left.size = right.size)
    (hheader : left.read 0x1E00 128 = right.read 0x1E00 128)
    (h : ∀ off ∈ catalogInspected left (volumeOf left).catalogOffset,
      left.blockAt off = right.blockAt off) :
    volumeOf left = volumeOf right := by
  have hvolume : volumeHeader left = volumeHeader right := by
    have hbytes : left.read vssVolumeHeaderOffset.toNat catalogBlockHeaderLen =
        right.read vssVolumeHeaderOffset.toNat catalogBlockHeaderLen := hheader
    rw [volumeHeader, volumeHeader, hbytes]
  have hfits : headerFits left = headerFits right := by
    rw [headerFits, headerFits, hsize]
  have hstores := catalogStores_congr hsize h
  simp only [volumeOf, hfits, hvolume, hsize] at hstores ⊢
  rw [hstores]

theorem diffDescriptors_congr {first : UInt64} (hsize : left.size = right.size)
    (h : ∀ off ∈ storeInspected left diffAreaRecordType first,
      left.blockAt off = right.blockAt off) :
    diffDescriptors left first = diffDescriptors right first := by
  obtain ⟨hchain, hblocks⟩ := collected_congr hsize h
  rw [diffDescriptors, diffDescriptors, storeChain, storeChain, ← hchain]
  apply List.flatMap_congr
  intro off hoff
  rw [hblocks off hoff]

theorem bitmapOf_congr {first : UInt64} (hsize : left.size = right.size)
    (h : ∀ off ∈ storeInspected left bitmapRecordType first,
      left.blockAt off = right.blockAt off) :
    bitmapOf left first = bitmapOf right first := by
  obtain ⟨hchain, hblocks⟩ := collected_congr hsize h
  rw [bitmapOf, bitmapOf, storeChain, storeChain, ← hchain]
  apply congrArg joinPieces
  apply List.map_congr_left
  intro off hoff
  rw [hblocks off hoff]

theorem stateOf_congr {headerOff bitmapOff : UInt64}
    (hsize : left.size = right.size)
    (hdiff : ∀ off ∈ storeInspected left diffAreaRecordType
        (diffStart headerOff), left.blockAt off = right.blockAt off)
    (hbitmap : ∀ off ∈ storeInspected left bitmapRecordType bitmapOff,
      left.blockAt off = right.blockAt off) :
    stateOf left headerOff bitmapOff = stateOf right headerOff bitmapOff := by
  rw [stateOf, stateOf, blockMapOf, blockMapOf,
    diffDescriptors_congr hsize hdiff, bitmapOf_congr hsize hbitmap, hsize]

/-! Blocks read. -/

theorem sourceBlock_congr {off : UInt64} (hsize : left.size = right.size)
    (h : inRange left off = true → left.blockAt off = right.blockAt off) :
    sourceBlock left off = sourceBlock right off := by
  rw [sourceBlock, sourceBlock, ← inRange_congr hsize]
  cases hrange : inRange left off with
  | false => simp only [Bool.false_eq_true, if_false]
  | true => simpa [Image.blockAt, Vector.toList_inj] using h hrange

theorem patched_congr {d : BlockDescriptor} (hsize : left.size = right.size)
    (h : inRange left d.storeOffset = true →
      left.blockAt d.storeOffset = right.blockAt d.storeOffset)
    (out : Block) : patched left out d = patched right out d := by
  have hsource := sourceBlock_congr hsize h
  rw [sourceBlock, sourceBlock, ← inRange_congr hsize] at hsource
  rw [patched, patched, ← inRange_congr hsize]
  cases hrange : inRange left d.storeOffset with
  | false => simp only [Bool.false_eq_true, if_false]
  | true =>
      simp only [hrange, if_true] at hsource ⊢
      rw [hsource]

theorem describedBlock_congr {base : UInt64}
    {descriptors : List BlockDescriptor} (hsize : left.size = right.size)
    (hsaved : ∀ d ∈ descriptors, d.isPlain = true ∨ d.isPatch = true →
      inRange left d.storeOffset = true →
        left.blockAt d.storeOffset = right.blockAt d.storeOffset)
    (hlive : (∀ d ∈ descriptors, d.isPlain = false) →
      inRange left base = true → left.blockAt base = right.blockAt base) :
    describedBlock left base descriptors =
      describedBlock right base descriptors := by
  have hbase : sourceBlock left (((rfind? BlockDescriptor.isPlain
      descriptors).map BlockDescriptor.storeOffset).getD base) =
      sourceBlock right (((rfind? BlockDescriptor.isPlain
        descriptors).map BlockDescriptor.storeOffset).getD base) := by
    apply sourceBlock_congr hsize
    cases hplain : rfind? BlockDescriptor.isPlain descriptors with
    | none => exact hlive (rfind?_eq_none.mp hplain)
    | some d =>
        exact hsaved d (mem_of_rfind? hplain) (.inl (rfind?_test hplain))
  rw [describedBlock, describedBlock, hbase]
  apply List.foldl_ext
  intro out d hd
  obtain ⟨hmem, hpatch⟩ := List.mem_filter.mp hd
  exact patched_congr hsize (hsaved d hmem (.inr hpatch)) out

/-! Patches on the sample volume. -/

theorem sample_read {extra : List (Nat × List UInt8)} {off len : Nat}
    (h : ∀ patch ∈ extra,
      off + len ≤ patch.1 ∨ patch.1 + patch.2.length ≤ off) :
    (sample []).read off len = (sample extra).read off len := by
  apply Vector.ext
  intro j hj
  rw [Image.getElem_read, Image.getElem_read]
  refine (Image.byteAt_ofPatches_append fun patch hpatch => ?_).symm
  have := h patch hpatch
  omega

theorem sample_catalogInspected : catalogInspected (sample [])
    (volumeOf (sample [])).catalogOffset = [16384] := by
  have hfirst : (volumeOf (sample [])).catalogOffset = 16384 :=
    (volumeOf_catalogOffset (by decide +kernel)).trans (by decide +kernel)
  rw [hfirst, catalogInspected]
  have hcatalog : ChainEnd (sample []) catalogBlockRecordType 16384 := by
    decide +kernel
  exact hcatalog.inspected (by decide)

/-- Patches past the catalog leave the stores alone. -/
theorem sample_volumeOf {extra : List (Nat × List UInt8)}
    (h : ∀ patch ∈ extra, 32768 ≤ patch.1) :
    volumeOf (sample extra) = volumeOf (sample []) := by
  have hread : ∀ {off len : Nat}, off + len ≤ 32768 →
      (sample []).read off len = (sample extra).read off len := by
    intro off len hlen
    apply sample_read
    exact fun patch hpatch => .inl (Nat.le_trans hlen (h patch hpatch))
  have hsize : (sample []).size = (sample extra).size := rfl
  have hheader : (sample []).read 0x1E00 128 =
      (sample extra).read 0x1E00 128 := hread (by decide)
  refine (volumeOf_congr hsize hheader ?_).symm
  rw [sample_catalogInspected]
  intro off hoff
  rw [List.mem_singleton.mp hoff, Image.blockAt, Image.blockAt,
    hread (by decide)]

end ShadowCopy.Core
