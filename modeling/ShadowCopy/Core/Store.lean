import ShadowCopy.Core.Catalog

namespace ShadowCopy.Core

open ShadowCopy.Data

def storeBlockHeaderLen : Nat := 128

def storeBlockRangeLen : Nat := 24

def storeHeaderRecordType : UInt32 := 0x0004

def maxStoreInfoLen : Nat := 2 ^ 20

structure StoreBlockHeader where
  hasVssIdentifier : Bool
  version : UInt32
  recordType : UInt32
  relativeOffset : UInt64
  currentOffset : UInt64
  nextOffset : UInt64
  storeInformationSize : UInt64

structure AttributeFlags where
  bits : UInt32
  deriving DecidableEq

namespace AttributeFlags

def persistent : UInt32 := 0x00000001

def contains (flags : AttributeFlags) (flag : UInt32) : Bool :=
  flags.bits &&& flag != 0

def isPersistent (flags : AttributeFlags) : Bool :=
  flags.contains persistent

end AttributeFlags

structure StoreInfo where
  shadowCopyId : Guid
  shadowCopySetId : Guid
  snapshotContext : UInt32
  attributes : AttributeFlags
  operatingMachine : String
  serviceMachine : String
  deriving DecidableEq

structure BlockDescriptorFlags where
  bits : UInt32
  deriving DecidableEq

namespace BlockDescriptorFlags

def forwarder : UInt32 := 0x01

def overlay : UInt32 := 0x02

def notUsed : UInt32 := 0x04

def contains (flags : BlockDescriptorFlags) (flag : UInt32) : Bool :=
  flags.bits &&& flag != 0

def isForwarder (flags : BlockDescriptorFlags) : Bool :=
  flags.contains forwarder

def isOverlay (flags : BlockDescriptorFlags) : Bool :=
  flags.contains overlay

def isNotUsed (flags : BlockDescriptorFlags) : Bool :=
  flags.contains notUsed

end BlockDescriptorFlags

structure BlockDescriptor where
  originalOffset : UInt64
  relativeStoreOffset : UInt64
  storeOffset : UInt64
  flags : BlockDescriptorFlags
  allocationBitmap : UInt32
  deriving DecidableEq

structure StoreBlockRange where
  storeOffset : UInt64
  relativeOffset : UInt64
  rangeSize : UInt64
  deriving DecidableEq

section Parse

variable [Target]

def StoreBlockHeader.parse (buf : List UInt8) :
    Outcome ε StoreBlockHeader := do
  return {
    hasVssIdentifier := (← readGuid buf 0) == vssIdentifier
    version := ← leU32 buf 16
    recordType := ← leU32 buf 20
    relativeOffset := ← leU64 buf 24
    currentOffset := ← leU64 buf 32
    nextOffset := ← leU64 buf 40
    storeInformationSize := ← leU64 buf 48 }

def BlockDescriptor.parse (buf : List UInt8) : Outcome ε BlockDescriptor := do
  return {
    originalOffset := ← leU64 buf 0
    relativeStoreOffset := ← leU64 buf 8
    storeOffset := ← leU64 buf 16
    flags := ⟨← leU32 buf 24⟩
    allocationBitmap := ← leU32 buf 28 }

def StoreBlockRange.parse (buf : List UInt8) : Outcome ε StoreBlockRange := do
  return {
    storeOffset := ← leU64 buf 0
    relativeOffset := ← leU64 buf 8
    rangeSize := ← leU64 buf 16 }

def readString (buf : List UInt8) (off len : Nat) : Outcome ε String := do
  let stop ← addUsize off len
  return ((getRange? buf off stop).map utf16leString).getD ""

def StoreInfo.parse (buf : List UInt8) : Outcome ε StoreInfo := do
  let opSize := (← leU16 buf 64).toNat
  let operatingMachine ← readString buf 66 opSize
  let svcSizeOff ← addUsize 66 opSize
  let svcSize := (← leU16 buf svcSizeOff).toNat
  let serviceMachine ← readString buf (← addUsize svcSizeOff 2) svcSize
  return {
    shadowCopyId := ← readGuid buf 16
    shadowCopySetId := ← readGuid buf 32
    snapshotContext := ← leU32 buf 48
    attributes := ⟨← leU32 buf 56⟩
    operatingMachine := operatingMachine
    serviceMachine := serviceMachine }

end Parse

/-! The values the parsers compute. -/

def StoreBlockHeader.decode (buf : List UInt8) : StoreBlockHeader where
  hasVssIdentifier := bytesAt 16 buf 0 == vssIdentifier
  version := u32At buf 16
  recordType := u32At buf 20
  relativeOffset := u64At buf 24
  currentOffset := u64At buf 32
  nextOffset := u64At buf 40
  storeInformationSize := u64At buf 48

def BlockDescriptor.decode (buf : List UInt8) : BlockDescriptor where
  originalOffset := u64At buf 0
  relativeStoreOffset := u64At buf 8
  storeOffset := u64At buf 16
  flags := ⟨u32At buf 24⟩
  allocationBitmap := u32At buf 28

def StoreBlockRange.decode (buf : List UInt8) : StoreBlockRange where
  storeOffset := u64At buf 0
  relativeOffset := u64At buf 8
  rangeSize := u64At buf 16

def decodeString (buf : List UInt8) (off len : Nat) : String :=
  ((getRange? buf off (off + len)).map utf16leString).getD ""

def StoreInfo.decode (buf : List UInt8) : StoreInfo :=
  let opSize := (u16At buf 64).toNat
  let svcSize := (u16At buf (66 + opSize)).toNat
  { shadowCopyId := bytesAt 16 buf 16
    shadowCopySetId := bytesAt 16 buf 32
    snapshotContext := u32At buf 48
    attributes := ⟨u32At buf 56⟩
    operatingMachine := decodeString buf 66 opSize
    serviceMachine := decodeString buf (66 + opSize + 2) svcSize }

theorem StoreBlockHeader.parse_ok [Target] (buf : List UInt8) :
    (StoreBlockHeader.parse buf : Outcome ε StoreBlockHeader) =
      .ok (StoreBlockHeader.decode buf) := by
  simp (disch := omega) only [StoreBlockHeader.parse, readGuid_ok, leU32_ok,
    leU64_ok, Outcome.ok_bind]
  rfl

theorem BlockDescriptor.parse_ok [Target] (buf : List UInt8) :
    (BlockDescriptor.parse buf : Outcome ε BlockDescriptor) =
      .ok (BlockDescriptor.decode buf) := by
  simp (disch := omega) only [BlockDescriptor.parse, leU32_ok, leU64_ok,
    Outcome.ok_bind]
  rfl

theorem StoreBlockRange.parse_ok [Target] (buf : List UInt8) :
    (StoreBlockRange.parse buf : Outcome ε StoreBlockRange) =
      .ok (StoreBlockRange.decode buf) := by
  simp (disch := omega) only [StoreBlockRange.parse, leU64_ok,
    Outcome.ok_bind]
  rfl

theorem readString_ok [Target] {buf : List UInt8} {off len : Nat}
    (h : off + len < 2 ^ 32) :
    (readString buf off len : Outcome ε String) =
      .ok (decodeString buf off len) := by
  rw [readString, addUsize_ok h]
  rfl

/-- Both string lengths are `u16`, so no offset `StoreInfo::parse` forms
leaves `usize`. -/
theorem StoreInfo.parse_ok [Target] (buf : List UInt8) :
    (StoreInfo.parse buf : Outcome ε StoreInfo) =
      .ok (StoreInfo.decode buf) := by
  have hop := (u16At buf 64).toNat_lt
  have hsvc := (u16At buf (66 + (u16At buf 64).toNat)).toNat_lt
  simp (disch := omega) only [StoreInfo.parse, readGuid_ok, leU16_ok, leU32_ok,
    readString_ok, addUsize_ok, Outcome.ok_bind]
  rfl

end ShadowCopy.Core
