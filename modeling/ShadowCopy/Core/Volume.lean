import ShadowCopy.Core.Error
import ShadowCopy.Core.Walk
import ShadowCopy.Data.LastMatch

namespace ShadowCopy.Core

open ShadowCopy.Data

/-- A volume view without its reader, which the programs thread. -/
structure VssVolume where
  volumeSize : UInt64
  hasVssHeader : Bool
  catalogOffset : UInt64
  stores : List StoreDescriptor

def VssVolume.storeCount (volume : VssVolume) : Nat :=
  volume.stores.length

/-! The catalog walk. -/

/-- Hand a type-0x03 pointer to the last descriptor that has its identifier
and no pointer yet. -/
def attachPointer (stores : List StoreDescriptor) (storeId : Guid)
    (storeHeaderOffset storeBitmapOffset : UInt64) : List StoreDescriptor :=
  modifyLast
    (fun d => d.storeId == storeId && d.storeHeaderOffset.isNone)
    (fun d => { d with
      storeHeaderOffset := some storeHeaderOffset
      storeBitmapOffset := some storeBitmapOffset })
    stores

def catalogStep (stores : List StoreDescriptor) :
    CatalogEntry → List StoreDescriptor
  | .snapshot descriptor => stores ++ [descriptor]
  | .storePointer storeId header bitmap =>
      attachPointer stores storeId header bitmap
  | .empty => stores
  | .other => stores

section Programs

variable [Target]

def catalogWalk : ChainWalk VssError Unit (List StoreDescriptor) where
  inspect block := do
    if ← isCatalogBlock block then return some () else return none
  collect stores _ block :=
    scanRecords block catalogEntryLen
      (fun stores record => do
        return .next (catalogStep stores (← parseCatalogEntry record)))
      blockSize catalogBlockHeaderLen stores
  nextOffset _ block := catalogNextBlockOffset block

def walkCatalog (first volumeSize : UInt64) :
    ReadM VssError (List StoreDescriptor) :=
  catalogWalk.run volumeSize maxCatalogBlocks [] first []

/-- The header half of `VssVolume::open`: the flag and the catalog offset. -/
def openHeader (volumeSize : UInt64) : ReadM VssError (Bool × UInt64) :=
  if vssVolumeHeaderOffset + UInt64.ofNat catalogBlockHeaderLen ≤
      volumeSize then do
    let _ ← ReadM.seekStart vssVolumeHeaderOffset
    let hdr ← ReadM.readExact catalogBlockHeaderLen
    let vh ← ReadM.lift (VolumeHeader.parse hdr.toList)
    return (vh.hasVssIdentifier, vh.catalogOffset)
  else
    return (false, 0)

/-- The catalog half of `VssVolume::open`. -/
def openStores (hasVssHeader : Bool) (catalogOffset volumeSize : UInt64) :
    ReadM VssError (List StoreDescriptor) :=
  if hasVssHeader && catalogOffset != 0 then
    walkCatalog catalogOffset volumeSize
  else
    return []

/-- `VssVolume::open`. -/
def openVolume : ReadM VssError VssVolume := do
  let volumeSize ← ReadM.seekEnd
  let (hasVssHeader, catalogOffset) ← openHeader volumeSize
  let stores ← openStores hasVssHeader catalogOffset volumeSize
  return { volumeSize, hasVssHeader, catalogOffset, stores }

namespace VssVolume

def storeInfo (volume : VssVolume) (index : Nat) :
    ReadM VssError StoreInfo := do
  let count := volume.stores.length
  let descriptor ← ReadM.lift <|
    Outcome.okOr (.storeIndexOutOfRange index count) volume.stores[index]?
  let headerOff ← ReadM.lift <|
    Outcome.okOr (.storeInfoUnavailable index) descriptor.storeHeaderOffset
  let headerEnd ← ReadM.lift <|
    Outcome.okOr
      (.storeOffsetOutOfBounds index headerOff volume.volumeSize)
      ((checkedAdd headerOff (UInt64.ofNat storeBlockHeaderLen)).filter
        fun stop => stop ≤ volume.volumeSize)
  let _ ← ReadM.seekStart headerOff
  let hbuf ← ReadM.readExact storeBlockHeaderLen
  let header ← ReadM.lift (StoreBlockHeader.parse hbuf.toList)
  let remaining := asUsize (saturatingSub volume.volumeSize headerEnd)
  let want :=
    (usizeTryFrom header.storeInformationSize).getD (Target.usizeSize - 1)
  let infoLen := min (min want maxStoreInfoLen) remaining
  let ibuf ← ReadM.readExact infoLen
  ReadM.lift (StoreInfo.parse ibuf.toList)

end VssVolume

end Programs

/-! What the programs compute over an image. -/

def catalogEntries (block : List UInt8) : List CatalogEntry :=
  (records block catalogEntryLen catalogBlockHeaderLen 127).map decodeEntry

/-- The blocks `walk_catalog` collects from. -/
def catalogChain (image : Image) (first : UInt64) : List UInt64 :=
  (image.links catalogBlockAccepted (u64At · 40)).collected
    maxCatalogBlocks [] first

/-- Every entry of the visited catalog blocks, in chain then slot order. -/
def chainEntries (image : Image) (first : UInt64) : List CatalogEntry :=
  (catalogChain image first).flatMap fun off =>
    catalogEntries (image.blockAt off)

def catalogStores (image : Image) (first : UInt64) : List StoreDescriptor :=
  (chainEntries image first).foldl catalogStep []

def volumeHeader (image : Image) : VolumeHeader :=
  VolumeHeader.decode
    (image.read vssVolumeHeaderOffset.toNat catalogBlockHeaderLen).toList

def headerFits (image : Image) : Prop :=
  vssVolumeHeaderOffset.toNat + catalogBlockHeaderLen ≤ image.size

instance (image : Image) : Decidable (headerFits image) :=
  inferInstanceAs (Decidable (_ ≤ _))

def volumeOf (image : Image) : VssVolume :=
  let hasVssHeader :=
    if headerFits image then (volumeHeader image).hasVssIdentifier else false
  let catalogOffset :=
    if headerFits image then (volumeHeader image).catalogOffset else 0
  { volumeSize := UInt64.ofNat image.size
    hasVssHeader := hasVssHeader
    catalogOffset := catalogOffset
    stores :=
      if hasVssHeader && catalogOffset != 0 then
        catalogStores image catalogOffset
      else
        [] }

/-- The entries of the catalog blocks `open` visits. -/
def walkedEntries (image : Image) (volume : VssVolume) : List CatalogEntry :=
  if volume.hasVssHeader && volume.catalogOffset != 0 then
    chainEntries image volume.catalogOffset
  else
    []

theorem volumeOf_stores_eq (image : Image) :
    (volumeOf image).stores =
      (walkedEntries image (volumeOf image)).foldl catalogStep [] := by
  unfold walkedEntries
  split
  · rename_i hwalk
    exact if_pos hwalk
  · rename_i hwalk
    exact if_neg hwalk

/-- How much store information is read after a header at `headerOff`. -/
def storeInfoLen [Target] (image : Image) (headerOff : UInt64) : Nat :=
  let header := StoreBlockHeader.decode
    (image.read headerOff.toNat storeBlockHeaderLen).toList
  let remaining := asUsize (saturatingSub (UInt64.ofNat image.size)
    (UInt64.ofNat (headerOff.toNat + storeBlockHeaderLen)))
  let want :=
    (usizeTryFrom header.storeInformationSize).getD (Target.usizeSize - 1)
  min (min want maxStoreInfoLen) remaining

def storeInfoAt [Target] (image : Image) (headerOff : UInt64) : StoreInfo :=
  StoreInfo.decode (image.read (headerOff.toNat + storeBlockHeaderLen)
    (storeInfoLen image headerOff)).toList

def VssVolume.storeInfoOf [Target] (volume : VssVolume) (image : Image)
    (index : Nat) : Outcome VssError StoreInfo :=
  match volume.stores[index]? with
  | none => .err (.storeIndexOutOfRange index volume.stores.length)
  | some descriptor =>
      match descriptor.storeHeaderOffset with
      | none => .err (.storeInfoUnavailable index)
      | some headerOff =>
          if headerOff.toNat + storeBlockHeaderLen ≤ image.size then
            .ok (storeInfoAt image headerOff)
          else
            .err (.storeOffsetOutOfBounds index headerOff volume.volumeSize)

section Runs

variable [Target]

theorem catalogWalk_computes :
    catalogWalk.Computes catalogBlockAccepted (u64At · 40)
      (fun stores block => (catalogEntries block).foldl catalogStep stores)
    where
  rejected := by
    intro block _ hrejected
    simp only [catalogWalk, isCatalogBlock_ok, hrejected, Outcome.ok_bind]
    rfl
  accepted := by
    intro block hblock haccepted
    refine ⟨(), ?_, fun stores => ?_, catalogNextBlockOffset_ok block⟩
    · simp only [catalogWalk, isCatalogBlock_ok, haccepted, Outcome.ok_bind]
      rfl
    · have hscan := scanRecords_ok (ε := VssError) catalogEntryLen
        (fun stores record => do
          return .next (catalogStep stores (← parseCatalogEntry record)))
        (fun stores record => .next (catalogStep stores (decodeEntry record)))
        (fun _ record _ => by rw [parseCatalogEntry_ok]; rfl)
        hblock 127 blockSize catalogBlockHeaderLen stores
        (by decide) (by decide) (by decide) (by decide)
      rw [foldFlow_next] at hscan
      rw [catalogEntries, List.foldl_map]
      exact hscan

theorem walkCatalog_runs (image : Image) (first : UInt64) :
    Runs image none (walkCatalog first (UInt64.ofNat image.size))
      (.ok (catalogStores image first)) none := by
  have h := ChainWalk.run_runs catalogWalk_computes image maxCatalogBlocks []
    first []
  rw [catalogStores, chainEntries, List.foldl_flatMap]
  exact h

theorem openHeader_runs (image : Image) :
    Runs image none (openHeader (UInt64.ofNat image.size))
      (.ok ((volumeOf image).hasVssHeader, (volumeOf image).catalogOffset))
      none := by
  have hle : vssVolumeHeaderOffset + UInt64.ofNat catalogBlockHeaderLen ≤
      UInt64.ofNat image.size ↔ headerFits image := by
    rw [UInt64.le_iff_toNat_le, image.toNat_volumeSize]
    rfl
  unfold openHeader volumeOf
  by_cases hfits : headerFits image
  · simp only [if_pos (hle.mpr hfits), if_pos hfits]
    refine Runs.bind_ok (Runs.seekStart _) ?_
    refine Runs.bind_ok (Runs.readExact _ _ hfits).forget ?_
    refine Runs.bind_ok ((Runs.lift _).congr (VolumeHeader.parse_ok _)) ?_
    exact Runs.pure _
  · simp only [if_neg (mt hle.mp hfits), if_neg hfits]
    exact Runs.pure _

theorem openStores_runs (image : Image) (hasVssHeader : Bool)
    (catalogOffset : UInt64) :
    Runs image none
      (openStores hasVssHeader catalogOffset (UInt64.ofNat image.size))
      (.ok (if hasVssHeader && catalogOffset != 0 then
        catalogStores image catalogOffset else [])) none := by
  unfold openStores
  cases hasVssHeader && catalogOffset != 0 with
  | false => exact Runs.pure []
  | true => exact walkCatalog_runs image catalogOffset

theorem openVolume_runs (image : Image) :
    Runs image none openVolume (.ok (volumeOf image)) none := by
  refine Runs.bind_ok Runs.seekEnd.forget ?_
  refine Runs.bind_ok (openHeader_runs image) ?_
  exact Runs.bind_ok (openStores_runs image _ _) (Runs.pure (volumeOf image))

/-- Where the header fits, the reader is left behind the bytes parsed. -/
theorem VssVolume.storeInfo_reads {volume : VssVolume} {image : Image}
    (hsize : volume.volumeSize = UInt64.ofNat image.size) {index : Nat}
    {descriptor : StoreDescriptor} {headerOff : UInt64}
    (hstore : volume.stores[index]? = some descriptor)
    (hpointer : descriptor.storeHeaderOffset = some headerOff)
    (hfits : headerOff.toNat + storeBlockHeaderLen ≤ image.size) :
    Runs image none (volume.storeInfo index) (.ok (storeInfoAt image headerOff))
      (some (headerOff.toNat + storeBlockHeaderLen +
        storeInfoLen image headerOff)) := by
  have hlen : headerOff.toNat + storeBlockHeaderLen +
      storeInfoLen image headerOff ≤ image.size := by
    have hmin : storeInfoLen image headerOff ≤ _ :=
      Nat.le_trans (Nat.min_le_right _ _) (asUsize_le _)
    have hend : (UInt64.ofNat (headerOff.toNat + storeBlockHeaderLen)).toNat =
        headerOff.toNat + storeBlockHeaderLen :=
      UInt64.toNat_ofNat_of_lt' (Nat.lt_of_le_of_lt hfits image.size_lt)
    rw [toNat_saturatingSub, image.toNat_volumeSize, hend] at hmin
    omega
  rcases image.rangeCheck headerOff
      (show storeBlockHeaderLen < 2 ^ 64 by decide) with
    ⟨_, stop, hstop, hle, hstopNat⟩ | ⟨hlong, _⟩
  · have hstopEq : stop =
        UInt64.ofNat (headerOff.toNat + storeBlockHeaderLen) := by
      rw [← hstopNat, UInt64.ofNat_toNat]
    rw [← hsize] at hle
    unfold storeInfo
    rw [hstore]
    refine Runs.bind_ok (Runs.lift _) ?_
    simp only [hpointer]
    refine Runs.bind_ok (Runs.lift _) ?_
    simp only [hstop, Option.filter_some, decide_eq_true hle, if_true]
    refine Runs.bind_ok (Runs.lift _) ?_
    refine Runs.bind_ok (Runs.seekStart headerOff) ?_
    refine Runs.bind_ok (Runs.readExact _ _ hfits) ?_
    refine Runs.bind_ok
      ((Runs.lift _).congr (StoreBlockHeader.parse_ok _)) ?_
    rw [hsize, hstopEq]
    refine Runs.bind_ok (Runs.readExact _ _ hlen) ?_
    exact (Runs.lift _).congr (StoreInfo.parse_ok _)
  · exact absurd hfits hlong

theorem VssVolume.storeInfo_runs {volume : VssVolume} {image : Image}
    (hsize : volume.volumeSize = UInt64.ofNat image.size) (index : Nat) :
    Runs image none (volume.storeInfo index)
      (volume.storeInfoOf image index) none := by
  unfold storeInfoOf
  cases hstore : volume.stores[index]? with
  | none =>
      unfold storeInfo
      rw [hstore]
      exact Runs.bind_err (Runs.lift _)
  | some descriptor =>
      cases hpointer : descriptor.storeHeaderOffset with
      | none =>
          unfold storeInfo
          rw [hstore]
          refine Runs.bind_ok (Runs.lift _) ?_
          simp only [hpointer]
          exact Runs.bind_err (Runs.lift _)
      | some headerOff =>
          simp only [hpointer]
          by_cases hfits : headerOff.toNat + storeBlockHeaderLen ≤ image.size
          · rw [if_pos hfits]
            exact (storeInfo_reads hsize hstore hpointer hfits).forget
          · rw [if_neg hfits]
            have hnone : (checkedAdd headerOff
                (UInt64.ofNat storeBlockHeaderLen)).filter
                  (fun stop => decide (stop ≤ volume.volumeSize)) = none := by
              rcases image.rangeCheck headerOff
                  (show storeBlockHeaderLen < 2 ^ 64 by decide) with
                ⟨hshort, _⟩ | ⟨_, hpast⟩
              · exact absurd hshort hfits
              · rw [Option.filter_eq_none_iff, hsize]
                intro stop hstop
                rw [decide_eq_true_eq]
                exact hpast stop hstop
            unfold storeInfo
            rw [hstore]
            refine Runs.bind_ok (Runs.lift _) ?_
            simp only [hpointer]
            refine Runs.bind_ok (Runs.lift _) ?_
            simp only [hnone]
            exact Runs.bind_err (Runs.lift _)

end Runs

end ShadowCopy.Core
