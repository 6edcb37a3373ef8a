import ShadowCopy.Data.Reader

namespace ShadowCopy.Core

open ShadowCopy.Data

/-! The bounds-checked readers of `bytes.rs`: an array of zeros, overwritten
when the slice holds the whole range. -/

def leBytes [Target] (n : Nat) (buf : List UInt8) (off : Nat) :
    Outcome ε (Vector UInt8 n) := do
  let stop ← addUsize off n
  match getRange? buf off stop with
  | some slice => copyFromSlice (Vector.replicate n 0) 0 n slice
  | none => pure (Vector.replicate n 0)

def leU16 [Target] (buf : List UInt8) (off : Nat) : Outcome ε UInt16 := do
  return UInt16.ofNat (leValue (← leBytes 2 buf off).toList)

def leU32 [Target] (buf : List UInt8) (off : Nat) : Outcome ε UInt32 := do
  return UInt32.ofNat (leValue (← leBytes 4 buf off).toList)

def leU64 [Target] (buf : List UInt8) (off : Nat) : Outcome ε UInt64 := do
  return UInt64.ofNat (leValue (← leBytes 8 buf off).toList)

abbrev Guid := Vector UInt8 16

def readGuid [Target] (buf : List UInt8) (off : Nat) : Outcome ε Guid :=
  leBytes 16 buf off

/-- The VSS identifier `3808876b-c176-4e48-b7ae-04046e6cc752` as it lies on
disk. -/
def vssIdentifier : Guid :=
  #v[0x6b, 0x87, 0x08, 0x38, 0x76, 0xc1, 0x48, 0x4e,
    0xb7, 0xae, 0x04, 0x04, 0x6e, 0x6c, 0xc7, 0x52]

theorem leBytes_ok [Target] {n : Nat} {buf : List UInt8} {off : Nat}
    (h : off + n < 2 ^ 32) :
    (leBytes n buf off : Outcome ε (Vector UInt8 n)) =
      .ok (bytesAt n buf off) := by
  simp only [leBytes, addUsize_ok h, Outcome.ok_bind, getRange?]
  by_cases hfits : off + n ≤ buf.length
  · simp only [Nat.le_add_right, hfits, and_self, if_true,
      Nat.add_sub_cancel_left]
    have hlength : ((buf.drop off).take n).length = n - 0 := by
      rw [List.length_take, List.length_drop]
      omega
    obtain ⟨result, hcopy, hresult⟩ := copyFromSlice_ok (ε := ε)
      (Vector.replicate n 0) (Nat.zero_le n) (Nat.le_refl n) hlength
    rw [hcopy]
    apply congrArg Outcome.ok
    apply Vector.ext
    intro j hj
    rw [hresult j hj, bytesAt, Vector.getElem_ofFn]
    simp [hj, hfits]
  · simp only [hfits, and_false, if_false, Outcome.pure_eq_ok]
    apply congrArg Outcome.ok
    apply Vector.ext
    intro j hj
    simp [bytesAt, hfits]

theorem leU16_ok [Target] {buf : List UInt8} {off : Nat}
    (h : off + 2 < 2 ^ 32) :
    (leU16 buf off : Outcome ε UInt16) = .ok (u16At buf off) := by
  rw [leU16, leBytes_ok h]
  rfl

theorem leU32_ok [Target] {buf : List UInt8} {off : Nat}
    (h : off + 4 < 2 ^ 32) :
    (leU32 buf off : Outcome ε UInt32) = .ok (u32At buf off) := by
  rw [leU32, leBytes_ok h]
  rfl

theorem leU64_ok [Target] {buf : List UInt8} {off : Nat}
    (h : off + 8 < 2 ^ 32) :
    (leU64 buf off : Outcome ε UInt64) = .ok (u64At buf off) := by
  rw [leU64, leBytes_ok h]
  rfl

theorem readGuid_ok [Target] {buf : List UInt8} {off : Nat}
    (h : off + 16 < 2 ^ 32) :
    (readGuid buf off : Outcome ε Guid) = .ok (bytesAt 16 buf off) :=
  leBytes_ok h

/-! UTF-16 strings. -/

def chunkUnits : List UInt8 → List UInt16
  | low :: high :: rest =>
      UInt16.ofNat (leValue [low, high]) :: chunkUnits rest
  | _ => []

/-- `char::decode_utf16`; an unpaired surrogate decodes to `none`. -/
def decodeUtf16 : List UInt16 → List (Option Char)
  | [] => []
  | unit :: rest =>
      if unit &&& 0xF800 ≠ 0xD800 then
        some (Char.ofNat unit.toNat) :: decodeUtf16 rest
      else if 0xDC00 ≤ unit then
        none :: decodeUtf16 rest
      else
        match rest with
        | [] => [none]
        | low :: tail =>
            if low < 0xDC00 ∨ 0xDFFF < low then
              none :: decodeUtf16 (low :: tail)
            else
              some (Char.ofNat (((unit &&& 0x3FF).toNat * 2 ^ 10 +
                (low &&& 0x3FF).toNat) + 0x10000)) :: decodeUtf16 tail

def utf16leString (bytes : List UInt8) : String :=
  String.ofList ((decodeUtf16 (chunkUnits bytes)).map fun unit =>
    unit.getD (Char.ofNat 0xFFFD))

end ShadowCopy.Core
