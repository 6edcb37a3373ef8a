import ShadowCopy.Core.Layout

namespace ShadowCopy.Core

open ShadowCopy.Data

/-! How much of a store's information is read, and where its fields lie. -/

def declaredSize (image : Image) (headerOff : UInt64) : Nat :=
  (image.u64 (headerOff.toNat + 48)).toNat

def tailSize (image : Image) (headerOff : UInt64) : Nat :=
  image.size - (headerOff.toNat + storeBlockHeaderLen)

section Length

variable [Target] {image : Image} {headerOff : UInt64}

/-- The fallback of `usize::try_from` never shows, since the cap is smaller,
but the cast of the tail does. -/
theorem storeInfoLen_eq
    (hfits : headerOff.toNat + storeBlockHeaderLen ≤ image.size) :
    storeInfoLen image headerOff =
      min (min (declaredSize image headerOff) maxStoreInfoLen)
        (tailSize image headerOff % Target.usizeSize) := by
  have hdeclared : (StoreBlockHeader.decode (image.read headerOff.toNat
      storeBlockHeaderLen).toList).storeInformationSize =
        image.u64 (headerOff.toNat + 48) :=
    image.u64At_read (by decide)
  have hend : (UInt64.ofNat (headerOff.toNat + storeBlockHeaderLen)).toNat =
      headerOff.toNat + storeBlockHeaderLen :=
    UInt64.toNat_ofNat_of_lt' (Nat.lt_of_le_of_lt hfits image.size_lt)
  have hcap : maxStoreInfoLen < Target.usizeSize :=
    Target.lt_usizeSize (by decide)
  have hwant : ∀ size : UInt64,
      min ((usizeTryFrom size).getD (Target.usizeSize - 1)) maxStoreInfoLen =
        min size.toNat maxStoreInfoLen := by
    intro size
    unfold usizeTryFrom
    split
    · rfl
    · rw [Option.getD_none]
      omega
  rw [storeInfoLen, hdeclared, hwant, asUsize, toNat_saturatingSub,
    image.toNat_volumeSize, hend]
  rfl

end Length

end ShadowCopy.Core
