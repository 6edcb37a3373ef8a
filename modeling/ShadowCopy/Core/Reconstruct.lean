import ShadowCopy.Core.Volume
import ShadowCopy.Data.Grouping

namespace ShadowCopy.Core

open ShadowCopy.Data

def diffAreaRecordType : UInt32 := 0x0003

def bitmapRecordType : UInt32 := 0x0006

def blockDescriptorLen : Nat := 32

def subBlockCount : Nat := 32

def subBlockSize : Nat := blockSize / subBlockCount

def maxStoreBlocks : Nat := 2 ^ 20

abbrev BlockMap := Groups UInt64 BlockDescriptor

/-- The reader-independent half of a snapshot. -/
structure SnapshotState where
  volumeSize : UInt64
  blockMap : BlockMap
  bitmap : List UInt8

def zeroBlock : Block := Vector.replicate blockSize 0

/-- A descriptor with none of forwarder, overlay and not-used set. -/
def BlockDescriptor.isPlain (d : BlockDescriptor) : Bool :=
  !d.flags.isForwarder && !d.flags.isOverlay && !d.flags.isNotUsed

def BlockDescriptor.isPatch (d : BlockDescriptor) : Bool :=
  d.flags.isOverlay && !d.flags.isNotUsed

section Programs

variable [Target]

/-! The store chains. -/

def storeWalk (recordType : UInt32)
    (collect : σ → StoreBlockHeader → List UInt8 → Outcome VssError σ) :
    ChainWalk VssError StoreBlockHeader σ where
  inspect block := do
    let header ← StoreBlockHeader.parse block
    if header.recordType != recordType then return none
    else return some header
  collect := collect
  nextOffset header _ := return header.nextOffset

def collectRecord (map : BlockMap) (record : List UInt8) :
    Outcome VssError (Flow BlockMap) := do
  if record.all (· == 0) then
    return .stop map
  else
    return .next (Groups.push BlockDescriptor.originalOffset map
      (← BlockDescriptor.parse record))

def diffAreaWalk : ChainWalk VssError StoreBlockHeader BlockMap :=
  storeWalk diffAreaRecordType fun map _ block =>
    scanRecords block blockDescriptorLen collectRecord blockSize
      storeBlockHeaderLen map

def buildBlockMap (first volumeSize : UInt64) : ReadM VssError BlockMap :=
  diffAreaWalk.run volumeSize maxStoreBlocks [] first ∅

def bitmapWalk :
    ChainWalk VssError StoreBlockHeader (List (UInt64 × List UInt8)) :=
  storeWalk bitmapRecordType fun pieces header block => do
    let payload ← sliceRange block storeBlockHeaderLen blockSize
    return pieces ++ [(header.relativeOffset, payload)]

/-- The payloads in `relative_offset` order; the sort is stable. -/
def joinPieces (pieces : List (UInt64 × List UInt8)) : List UInt8 :=
  (pieces.mergeSort fun left right => left.1 ≤ right.1).flatMap Prod.snd

def buildBitmap (first volumeSize : UInt64) : ReadM VssError (List UInt8) := do
  let pieces ← bitmapWalk.run volumeSize maxStoreBlocks [] first []
  return joinPieces pieces

def VssVolume.snapshotState (volume : VssVolume) (index : Nat) :
    ReadM VssError SnapshotState := do
  let count := volume.stores.length
  let d ← ReadM.lift <|
    Outcome.okOr (.storeIndexOutOfRange index count) volume.stores[index]?
  let header ← ReadM.lift <|
    Outcome.okOr (.storeInfoUnavailable index) d.storeHeaderOffset
  let bitmapOff ← ReadM.lift <|
    Outcome.okOr (.storeInfoUnavailable index) d.storeBitmapOffset
  let diffStart := saturatingAdd header (UInt64.ofNat blockSize)
  let blockMap ← buildBlockMap diffStart volume.volumeSize
  let bitmap ← buildBitmap bitmapOff volume.volumeSize
  return { volumeSize := volume.volumeSize, blockMap, bitmap }

/-! Reading one block. -/

/-- `read_block_at`: whether the block lies inside the volume, and its bytes. -/
def readBlockAt (offset volumeSize : UInt64) :
    ReadM IoError (Bool × Block) :=
  match checkedAdd offset (UInt64.ofNat blockSize) with
  | some stop =>
      if stop ≤ volumeSize then do
        let _ ← ReadM.seekStart offset
        let out ← ReadM.readExact blockSize
        return (true, out)
      else
        return (false, zeroBlock)
  | none => return (false, zeroBlock)

def applyOverlay (out overlay : Block) (allocationBitmap : UInt32) :
    Outcome IoError Block :=
  (List.range subBlockCount).foldlM
    (fun out i => do
      let mask ← shlU32 1 i
      if allocationBitmap &&& mask ≠ 0 then
        let start ← mulUsize i subBlockSize
        let stop ← addUsize start subBlockSize
        let source ← sliceRange overlay.toList start stop
        copyFromSlice out start stop source
      else
        return out)
    out

namespace SnapshotState

def isUnallocated (state : SnapshotState) (blockNumber : UInt64) :
    Outcome IoError Bool :=
  let byte := blockNumber / 8
  let bit := (blockNumber % 8).toNat
  match (usizeTryFrom byte).bind (state.bitmap[·]?) with
  | none => return false
  | some value => do
      let mask ← shlU8 1 bit
      return value &&& mask != 0

/-- One turn of the overlay loop. -/
def patchOverlay (state : SnapshotState) (out : Block) (d : BlockDescriptor) :
    ReadM IoError Block := do
  let (inRange, overlay) ← readBlockAt d.storeOffset state.volumeSize
  if inRange then
    ReadM.lift (applyOverlay out overlay d.allocationBitmap)
  else
    return out

/-- The arm of `read_block` for a block with descriptors. -/
def readDescribed (state : SnapshotState) (base : UInt64)
    (descriptors : List BlockDescriptor) : ReadM IoError Block := do
  let lastPlain := rfind? BlockDescriptor.isPlain descriptors
  let baseSource := (lastPlain.map BlockDescriptor.storeOffset).getD base
  let (_, out) ← readBlockAt baseSource state.volumeSize
  (descriptors.filter BlockDescriptor.isPatch).foldlM state.patchOverlay out

/-- The arm of `read_block` for a block without descriptors. -/
def readUndescribed (state : SnapshotState) (blockNumber base : UInt64) :
    ReadM IoError Block := do
  if ← ReadM.lift (state.isUnallocated blockNumber) then
    return zeroBlock
  else do
    let (_, out) ← readBlockAt base state.volumeSize
    return out

def readBlock (state : SnapshotState) (offset : UInt64) :
    ReadM IoError Block :=
  let blockNumber := offset / UInt64.ofNat blockSize
  let base := saturatingMul blockNumber (UInt64.ofNat blockSize)
  match state.blockMap[base]? with
  | some descriptors =>
      if !descriptors.isEmpty then
        state.readDescribed base descriptors
      else
        state.readUndescribed blockNumber base
  | none => state.readUndescribed blockNumber base

/-- The loop of `read_at`; a run that outlasts `fuel` counts as a panic. -/
def readAtLoop (state : SnapshotState) :
    Nat → Nat → UInt64 → Vector UInt8 len → ReadM IoError (Vector UInt8 len)
  | 0, _, _, _ => ReadM.lift .panic
  | fuel + 1, written, cursor, buf =>
      if written < len then do
        let base := saturatingMul (cursor / UInt64.ofNat blockSize)
          (UInt64.ofNat blockSize)
        let within := asUsize (← ReadM.lift (subU64 cursor base))
        let block ← state.readBlock base
        let left ← ReadM.lift (subUsize blockSize within)
        let room ← ReadM.lift (subUsize len written)
        let n := min left room
        let stop ← ReadM.lift (addUsize written n)
        let sourceStop ← ReadM.lift (addUsize within n)
        let source ← ReadM.lift (sliceRange block.toList within sourceStop)
        let buf ← ReadM.lift (copyFromSlice buf written stop source)
        state.readAtLoop fuel stop (saturatingAdd cursor (UInt64.ofNat n)) buf
      else
        return buf

def readAt (state : SnapshotState) (offset : UInt64) (buf : Vector UInt8 len) :
    ReadM IoError (Vector UInt8 len) :=
  state.readAtLoop (len + 1) 0 offset buf

end SnapshotState

/-- A snapshot is its state next to the volume's reader. -/
abbrev Snapshot := SnapshotState

def VssVolume.snapshot (volume : VssVolume) (index : Nat) :
    ReadM VssError Snapshot :=
  volume.snapshotState index

def Snapshot.readBlock (snapshot : Snapshot) (offset : UInt64) :
    ReadM VssError Block :=
  (SnapshotState.readBlock snapshot offset).mapErr .io

def Snapshot.readAt (snapshot : Snapshot) (offset : UInt64)
    (buf : Vector UInt8 len) : ReadM VssError (Vector UInt8 len) :=
  (SnapshotState.readAt snapshot offset buf).mapErr .io

end Programs

end ShadowCopy.Core
