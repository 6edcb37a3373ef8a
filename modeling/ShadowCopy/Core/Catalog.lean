import ShadowCopy.Core.Bytes

namespace ShadowCopy.Core

open ShadowCopy.Data

def vssVolumeHeaderOffset : UInt64 := 0x1E00

def blockSize : Nat := 16384

def catalogBlockHeaderLen : Nat := 128

def catalogEntryLen : Nat := 128

def catalogBlockRecordType : UInt32 := 0x02

def maxCatalogBlocks : Nat := 4096

def volumeHeaderRecordType : UInt32 := 0x01

abbrev Block := Vector UInt8 blockSize

@[simp] theorem toNat_ofNat_blockSize :
    (UInt64.ofNat blockSize).toNat = blockSize := rfl

structure VolumeHeader where
  hasVssIdentifier : Bool
  version : UInt32
  recordType : UInt32
  currentOffset : UInt64
  catalogOffset : UInt64
  maximumSize : UInt64
  volumeIdentifier : Guid
  storageVolumeIdentifier : Guid

structure StoreDescriptor where
  storeId : Guid
  volumeSize : UInt64
  sequence : UInt64
  flags : UInt64
  creationTime : UInt64
  storeHeaderOffset : Option UInt64
  storeBitmapOffset : Option UInt64
  deriving DecidableEq

inductive CatalogEntry where
  | empty
  | snapshot (descriptor : StoreDescriptor)
  | storePointer (storeId : Guid) (storeHeaderOffset storeBitmapOffset : UInt64)
  | other
  deriving DecidableEq

section Parse

variable [Target]

def VolumeHeader.parse (buf : List UInt8) : Outcome ε VolumeHeader := do
  return {
    hasVssIdentifier := (← readGuid buf 0) == vssIdentifier
    version := ← leU32 buf 16
    recordType := ← leU32 buf 20
    currentOffset := ← leU64 buf 24
    catalogOffset := ← leU64 buf 48
    maximumSize := ← leU64 buf 56
    volumeIdentifier := ← readGuid buf 64
    storageVolumeIdentifier := ← readGuid buf 80 }

def parseCatalogEntry (buf : List UInt8) : Outcome ε CatalogEntry := do
  let kind ← leU64 buf 0
  if kind = 0x02 then
    return .snapshot {
      storeId := ← readGuid buf 16
      volumeSize := ← leU64 buf 8
      sequence := ← leU64 buf 32
      flags := ← leU64 buf 40
      creationTime := ← leU64 buf 48
      storeHeaderOffset := none
      storeBitmapOffset := none }
  else if kind = 0x03 then
    return .storePointer (← readGuid buf 16) (← leU64 buf 32) (← leU64 buf 48)
  else if kind = 0x00 then
    return .empty
  else
    return .other

def catalogNextBlockOffset (block : List UInt8) : Outcome ε UInt64 :=
  leU64 block 40

def isCatalogBlock (block : List UInt8) : Outcome ε Bool := do
  return (← readGuid block 0) == vssIdentifier &&
    (← leU32 block 20) == catalogBlockRecordType

end Parse

/-! The values the parsers compute: fixed-offset reads never fail. -/

def VolumeHeader.decode (buf : List UInt8) : VolumeHeader where
  hasVssIdentifier := bytesAt 16 buf 0 == vssIdentifier
  version := u32At buf 16
  recordType := u32At buf 20
  currentOffset := u64At buf 24
  catalogOffset := u64At buf 48
  maximumSize := u64At buf 56
  volumeIdentifier := bytesAt 16 buf 64
  storageVolumeIdentifier := bytesAt 16 buf 80

def decodeDescriptor (buf : List UInt8) : StoreDescriptor where
  storeId := bytesAt 16 buf 16
  volumeSize := u64At buf 8
  sequence := u64At buf 32
  flags := u64At buf 40
  creationTime := u64At buf 48
  storeHeaderOffset := none
  storeBitmapOffset := none

def decodeEntry (buf : List UInt8) : CatalogEntry :=
  if u64At buf 0 = 0x02 then
    .snapshot (decodeDescriptor buf)
  else if u64At buf 0 = 0x03 then
    .storePointer (bytesAt 16 buf 16) (u64At buf 32) (u64At buf 48)
  else if u64At buf 0 = 0x00 then
    .empty
  else
    .other

def catalogBlockAccepted (block : List UInt8) : Bool :=
  bytesAt 16 block 0 == vssIdentifier &&
    u32At block 20 == catalogBlockRecordType

theorem VolumeHeader.parse_ok [Target] (buf : List UInt8) :
    (VolumeHeader.parse buf : Outcome ε VolumeHeader) =
      .ok (VolumeHeader.decode buf) := by
  simp (disch := omega) only [VolumeHeader.parse, readGuid_ok, leU32_ok,
    leU64_ok, Outcome.ok_bind]
  rfl

theorem parseCatalogEntry_ok [Target] (buf : List UInt8) :
    (parseCatalogEntry buf : Outcome ε CatalogEntry) =
      .ok (decodeEntry buf) := by
  simp (disch := omega) only [parseCatalogEntry, readGuid_ok, leU64_ok,
    Outcome.ok_bind, decodeEntry]
  split
  · rfl
  · split
    · rfl
    · split <;> rfl

theorem catalogNextBlockOffset_ok [Target] (block : List UInt8) :
    (catalogNextBlockOffset block : Outcome ε UInt64) =
      .ok (u64At block 40) :=
  leU64_ok (by omega)

theorem isCatalogBlock_ok [Target] (block : List UInt8) :
    (isCatalogBlock block : Outcome ε Bool) =
      .ok (catalogBlockAccepted block) := by
  simp (disch := omega) only [isCatalogBlock, readGuid_ok, leU32_ok,
    Outcome.ok_bind]
  rfl

end ShadowCopy.Core
