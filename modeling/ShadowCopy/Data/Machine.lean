import ShadowCopy.Data.Outcome
import Mathlib.Data.Nat.Bitwise

namespace ShadowCopy.Data

/-- The platform a program is compiled for, as far as results can depend on it. -/
class Target where
  usizeBits : Nat
  supported : usizeBits = 32 ∨ usizeBits = 64

namespace Target

abbrev bits32 : Target := ⟨32, .inl rfl⟩

abbrev bits64 : Target := ⟨64, .inr rfl⟩

def usizeSize [Target] : Nat := 2 ^ usizeBits

theorem two_pow_32_le_usizeSize [Target] : 2 ^ 32 ≤ usizeSize := by
  unfold usizeSize
  rcases supported with h | h
  · rw [h]
  · rw [h]
    decide

theorem lt_usizeSize [Target] {n : Nat} (h : n < 2 ^ 32) : n < usizeSize :=
  Nat.lt_of_lt_of_le h two_pow_32_le_usizeSize

end Target

open Target

/-! Checked `usize` arithmetic: an operation that leaves the type panics. -/

def addUsize [Target] (a b : Nat) : Outcome ε Nat :=
  if a + b < usizeSize then .ok (a + b) else .panic

def subUsize (a b : Nat) : Outcome ε Nat :=
  if b ≤ a then .ok (a - b) else .panic

def mulUsize [Target] (a b : Nat) : Outcome ε Nat :=
  if a * b < usizeSize then .ok (a * b) else .panic

def usizeTryFrom [Target] (value : UInt64) : Option Nat :=
  if value.toNat < usizeSize then some value.toNat else none

def asUsize [Target] (value : UInt64) : Nat :=
  value.toNat % usizeSize

theorem addUsize_ok [Target] {a b : Nat} (h : a + b < 2 ^ 32) :
    (addUsize a b : Outcome ε Nat) = .ok (a + b) :=
  if_pos (lt_usizeSize h)

theorem mulUsize_ok [Target] {a b : Nat} (h : a * b < 2 ^ 32) :
    (mulUsize a b : Outcome ε Nat) = .ok (a * b) :=
  if_pos (lt_usizeSize h)

theorem subUsize_ok {a b : Nat} (h : b ≤ a) :
    (subUsize a b : Outcome ε Nat) = .ok (a - b) :=
  if_pos h

theorem asUsize_of_lt [Target] {value : UInt64} (h : value.toNat < 2 ^ 32) :
    asUsize value = value.toNat :=
  Nat.mod_eq_of_lt (lt_usizeSize h)

theorem asUsize_le [Target] (value : UInt64) : asUsize value ≤ value.toNat :=
  Nat.mod_le _ _

theorem min_mod_eq_iff {cap value size : Nat} (hsize : 0 < size) :
    min cap (value % size) = min cap value ↔
      value < size ∨ cap ≤ value % size := by
  have hmod := Nat.mod_lt value hsize
  rcases Nat.lt_or_ge value size with hlt | hge
  · rw [Nat.mod_eq_of_lt hlt]
    exact iff_of_true rfl (.inl hlt)
  · constructor
    · intro h
      right
      omega
    · intro h
      omega

/-! `u64` arithmetic in the three forms Rust offers. -/

def checkedAdd (a b : UInt64) : Option UInt64 :=
  if a.toNat + b.toNat < 2 ^ 64 then some (a + b) else none

def saturatingAdd (a b : UInt64) : UInt64 :=
  UInt64.ofNat (min (a.toNat + b.toNat) (2 ^ 64 - 1))

def saturatingMul (a b : UInt64) : UInt64 :=
  UInt64.ofNat (min (a.toNat * b.toNat) (2 ^ 64 - 1))

def saturatingSub (a b : UInt64) : UInt64 :=
  UInt64.ofNat (a.toNat - b.toNat)

def checkedSub (a b : UInt64) : Option UInt64 :=
  if b ≤ a then some (a - b) else none

def subU64 (a b : UInt64) : Outcome ε UInt64 :=
  if b ≤ a then .ok (a - b) else .panic

theorem checkedAdd_eq_some {a b sum : UInt64} :
    checkedAdd a b = some sum ↔
      a.toNat + b.toNat < 2 ^ 64 ∧ sum.toNat = a.toNat + b.toNat := by
  unfold checkedAdd
  split
  · rename_i hfits
    rw [Option.some.injEq, ← UInt64.toNat_inj, UInt64.toNat_add]
    rw [Nat.mod_eq_of_lt hfits]
    exact ⟨fun h => ⟨hfits, h.symm⟩, fun h => h.2.symm⟩
  · rename_i hfits
    exact ⟨fun h => absurd h (by simp), fun h => absurd h.1 hfits⟩

theorem checkedAdd_of_lt {a b : UInt64} (h : a.toNat + b.toNat < 2 ^ 64) :
    ∃ sum, checkedAdd a b = some sum ∧ sum.toNat = a.toNat + b.toNat :=
  ⟨a + b, if_pos h, (checkedAdd_eq_some.mp (if_pos h)).2⟩

@[simp] theorem toNat_saturatingAdd (a b : UInt64) :
    (saturatingAdd a b).toNat = min (a.toNat + b.toNat) (2 ^ 64 - 1) := by
  rw [saturatingAdd, UInt64.toNat_ofNat']
  exact Nat.mod_eq_of_lt (by omega)

@[simp] theorem toNat_saturatingMul (a b : UInt64) :
    (saturatingMul a b).toNat = min (a.toNat * b.toNat) (2 ^ 64 - 1) := by
  rw [saturatingMul, UInt64.toNat_ofNat']
  exact Nat.mod_eq_of_lt (by omega)

@[simp] theorem toNat_saturatingSub (a b : UInt64) :
    (saturatingSub a b).toNat = a.toNat - b.toNat := by
  rw [saturatingSub, UInt64.toNat_ofNat']
  exact Nat.mod_eq_of_lt (by have := a.toNat_lt; omega)

attribute [irreducible] checkedAdd saturatingAdd saturatingMul saturatingSub

theorem subU64_ok {a b : UInt64} (h : b.toNat ≤ a.toNat) :
    ∃ difference, (subU64 a b : Outcome ε UInt64) = .ok difference ∧
      difference.toNat = a.toNat - b.toNat := by
  have hle : b ≤ a := UInt64.le_iff_toNat_le.mpr h
  exact ⟨a - b, if_pos hle, UInt64.toNat_sub_of_le _ _ hle⟩

/-! Shifts panic when the amount reaches the width of the shifted type. -/

def shlU8 (a : UInt8) (amount : Nat) : Outcome ε UInt8 :=
  if amount < 8 then .ok (a <<< UInt8.ofNat amount) else .panic

def shlU32 (a : UInt32) (amount : Nat) : Outcome ε UInt32 :=
  if amount < 32 then .ok (a <<< UInt32.ofNat amount) else .panic

theorem and_two_pow_ne_zero (value bit : Nat) :
    value &&& 2 ^ bit ≠ 0 ↔ value.testBit bit = true := by
  rw [Nat.and_two_pow]
  cases value.testBit bit <;> simp

theorem shlU8_ok {bit : Nat} (h : bit < 8) :
    ∃ mask, (shlU8 1 bit : Outcome ε UInt8) = .ok mask ∧
      ∀ value, value &&& mask ≠ 0 ↔ value.toNat.testBit bit = true := by
  refine ⟨_, if_pos h, fun value => ?_⟩
  have hmask : ((1 : UInt8) <<< UInt8.ofNat bit).toNat = 2 ^ bit := by
    rw [UInt8.toNat_shiftLeft, UInt8.toNat_ofNat', UInt8.toNat_one,
      Nat.one_shiftLeft, Nat.mod_mod_of_dvd _ (by decide), Nat.mod_eq_of_lt h]
    exact Nat.mod_eq_of_lt (Nat.pow_lt_pow_right (by decide) h)
  rw [← and_two_pow_ne_zero, ne_eq, ← UInt8.toNat_inj, UInt8.toNat_and, hmask]
  rfl

theorem shlU32_ok {bit : Nat} (h : bit < 32) :
    ∃ mask, (shlU32 1 bit : Outcome ε UInt32) = .ok mask ∧
      ∀ value, value &&& mask ≠ 0 ↔ value.toNat.testBit bit = true := by
  refine ⟨_, if_pos h, fun value => ?_⟩
  have hmask : ((1 : UInt32) <<< UInt32.ofNat bit).toNat = 2 ^ bit := by
    rw [UInt32.toNat_shiftLeft, UInt32.toNat_ofNat', UInt32.toNat_one,
      Nat.one_shiftLeft, Nat.mod_mod_of_dvd _ (by decide), Nat.mod_eq_of_lt h]
    exact Nat.mod_eq_of_lt (Nat.pow_lt_pow_right (by decide) h)
  rw [← and_two_pow_ne_zero, ne_eq, ← UInt32.toNat_inj, UInt32.toNat_and,
    hmask]
  rfl

end ShadowCopy.Data
