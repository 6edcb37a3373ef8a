import Mathlib.Data.Nat.Bitwise

namespace ShadowCopy.Data

/-! UTF-16: code units, encoding, and the text a sequence of units stands for. -/

namespace Utf16

def Surrogate (unit : UInt16) : Prop :=
  0xD800 ≤ unit.toNat ∧ unit.toNat < 0xE000

/-- The first unit of a pair. -/
def High (unit : UInt16) : Prop :=
  0xD800 ≤ unit.toNat ∧ unit.toNat < 0xDC00

/-- The second unit of a pair. -/
def Low (unit : UInt16) : Prop :=
  0xDC00 ≤ unit.toNat ∧ unit.toNat < 0xE000

def highUnit (code : Nat) : UInt16 :=
  UInt16.ofNat (0xD800 + (code - 0x10000) / 0x400)

def lowUnit (code : Nat) : UInt16 :=
  UInt16.ofNat (0xDC00 + (code - 0x10000) % 0x400)

def encodeChar (c : Char) : List UInt16 :=
  if c.toNat < 0x10000 then [UInt16.ofNat c.toNat]
  else [highUnit c.toNat, lowUnit c.toNat]

def encode (text : List Char) : List UInt16 :=
  text.flatMap encodeChar

def replacement : Char := Char.ofNat 0xFFFD

/-- A unit that is not half of a pair with the unit next to it. -/
structure Unpaired (unit : UInt16) (rest : List UInt16) : Prop where
  surrogate : Surrogate unit
  alone : High unit → ∀ low, rest.head? = some low → ¬ Low low

/-- What units stand for, an unpaired surrogate counting as one replacement
character. -/
inductive Decodes : List UInt16 → List Char → Prop
  | nil : Decodes [] []
  | encoded (c : Char) : Decodes rest text →
      Decodes (encodeChar c ++ rest) (c :: text)
  | unpaired : Unpaired unit rest → Decodes rest text →
      Decodes (unit :: rest) (replacement :: text)

theorem encode_decodes (text : List Char) : Decodes (encode text) text := by
  induction text with
  | nil => exact .nil
  | cons c text ih => exact .encoded c ih

/-! Units by their values. -/

theorem surrogate_iff {unit : UInt16} :
    Surrogate unit ↔ High unit ∨ Low unit := by
  unfold Surrogate High Low
  omega

theorem toNat_highUnit {code : Nat} (h : code < 0x110000) :
    (highUnit code).toNat = 0xD800 + (code - 0x10000) / 0x400 :=
  UInt16.toNat_ofNat_of_lt' (by
    have hsize : UInt16.size = 0x10000 := rfl
    omega)

theorem toNat_lowUnit (code : Nat) :
    (lowUnit code).toNat = 0xDC00 + (code - 0x10000) % 0x400 :=
  UInt16.toNat_ofNat_of_lt' (by
    have hsize : UInt16.size = 0x10000 := rfl
    omega)

theorem toNat_lt (c : Char) : c.toNat < 0x110000 := by
  rcases c.valid with h | ⟨_, h⟩
  · exact Nat.lt_trans h (by decide)
  · exact h

theorem toNat_not_surrogate (c : Char) :
    ¬ (0xD800 ≤ c.toNat ∧ c.toNat < 0xE000) := by
  have hvalid : c.toNat < 0xD800 ∨ 0xDFFF < c.toNat ∧ c.toNat < 0x110000 :=
    c.valid
  omega

theorem toNat_ofNat {code : Nat} (hrange : code < 0x110000)
    (h : ¬ (0xD800 ≤ code ∧ code < 0xE000)) : (Char.ofNat code).toNat = code := by
  have hvalid : code.isValidChar := by
    unfold Nat.isValidChar
    omega
  rw [Char.ofNat, dif_pos hvalid]
  rfl

theorem encodeChar_of_unit {unit : UInt16} (h : ¬ Surrogate unit) :
    encodeChar (Char.ofNat unit.toNat) = [unit] := by
  have hlt := unit.toNat_lt
  rw [encodeChar, toNat_ofNat (by omega) h, if_pos hlt, UInt16.ofNat_toNat]

theorem encodeChar_of_pair {high low : UInt16} (hhigh : High high)
    (hlow : Low low) :
    encodeChar (Char.ofNat ((high.toNat % 0x400 * 0x400 +
      low.toNat % 0x400) + 0x10000)) = [high, low] := by
  obtain ⟨hhigh, hhigh'⟩ := hhigh
  obtain ⟨hlow, hlow'⟩ := hlow
  have hcode : (Char.ofNat ((high.toNat % 0x400 * 0x400 +
      low.toNat % 0x400) + 0x10000)).toNat =
        (high.toNat % 0x400 * 0x400 + low.toNat % 0x400) + 0x10000 :=
    toNat_ofNat (by omega) (by omega)
  have hfirst : highUnit ((high.toNat % 0x400 * 0x400 + low.toNat % 0x400) +
      0x10000) = high := by
    apply UInt16.toNat_inj.mp
    rw [toNat_highUnit (by omega)]
    omega
  have hsecond : lowUnit ((high.toNat % 0x400 * 0x400 + low.toNat % 0x400) +
      0x10000) = low := by
    apply UInt16.toNat_inj.mp
    rw [toNat_lowUnit]
    omega
  rw [encodeChar, hcode, if_neg (by omega), hfirst, hsecond]

/-- A character takes one unit, which is no surrogate, or a pair. -/
theorem encodeChar_cases (c : Char) :
    (∃ unit, encodeChar c = [unit] ∧ ¬ Surrogate unit ∧
      c = Char.ofNat unit.toNat) ∨
    ∃ high low, encodeChar c = [high, low] ∧ High high ∧ Low low ∧
      c = Char.ofNat ((high.toNat % 0x400 * 0x400 + low.toNat % 0x400) +
        0x10000) := by
  have hlt := toNat_lt c
  have hplain := toNat_not_surrogate c
  unfold encodeChar
  split
  · rename_i hsmall
    have hunit : (UInt16.ofNat c.toNat).toNat = c.toNat :=
      UInt16.toNat_ofNat_of_lt' hsmall
    refine .inl ⟨_, rfl, ?_, ?_⟩
    · rw [Surrogate, hunit]
      exact hplain
    · rw [hunit, Char.ofNat_toNat]
  · have hfirst := toNat_highUnit hlt
    have hsecond := toNat_lowUnit c.toNat
    refine .inr ⟨_, _, rfl, ?_, ?_, ?_⟩
    · rw [High, hfirst]
      omega
    · rw [Low, hsecond]
      omega
    · have hcode : (0xD800 + (c.toNat - 0x10000) / 0x400) % 0x400 * 0x400 +
          (0xDC00 + (c.toNat - 0x10000) % 0x400) % 0x400 + 0x10000 =
            c.toNat := by
        omega
      rw [hfirst, hsecond, hcode, Char.ofNat_toNat]

/-- How a sequence of units can begin. -/
inductive Begins : List UInt16 → Prop
  | nil : Begins []
  | unit : ¬ Surrogate unit → Begins (unit :: rest)
  | pair : High high → Low low → Begins (high :: low :: rest)
  | unpaired : Unpaired unit rest → Begins (unit :: rest)

theorem begins (units : List UInt16) : Begins units := by
  cases units with
  | nil => exact .nil
  | cons unit rest =>
      by_cases hsurrogate : Surrogate unit
      · by_cases hhigh : High unit
        · cases rest with
          | nil => exact .unpaired ⟨hsurrogate, fun _ low h => nomatch h⟩
          | cons low rest =>
              by_cases hlow : Low low
              · exact .pair hhigh hlow
              · refine .unpaired ⟨hsurrogate, fun _ next hnext => ?_⟩
                rw [← Option.some.inj hnext]
                exact hlow
        · exact .unpaired ⟨hsurrogate, fun h => absurd h hhigh⟩
      · exact .unit hsurrogate

theorem exists_decodes (units : List UInt16) : ∃ text, Decodes units text := by
  induction hlength : units.length using Nat.strongRecOn generalizing units with
  | ind length ih =>
      have hshort : ∀ rest : List UInt16, rest.length < units.length →
          ∃ text, Decodes rest text :=
        fun rest hlt => ih rest.length (hlength ▸ hlt) rest rfl
      cases begins units with
      | nil => exact ⟨[], .nil⟩
      | @unit unit rest hunit =>
          obtain ⟨text, htext⟩ := hshort rest (Nat.lt_add_one _)
          have h := Decodes.encoded (Char.ofNat unit.toNat) htext
          rw [encodeChar_of_unit hunit] at h
          exact ⟨_, h⟩
      | @pair high low rest hhigh hlow =>
          obtain ⟨text, htext⟩ := hshort rest
            (Nat.lt_trans (Nat.lt_add_one _) (Nat.lt_add_one _))
          have h := Decodes.encoded (Char.ofNat ((high.toNat % 0x400 * 0x400 +
            low.toNat % 0x400) + 0x10000)) htext
          rw [encodeChar_of_pair hhigh hlow] at h
          exact ⟨_, h⟩
      | @unpaired unit rest hunit =>
          obtain ⟨text, htext⟩ := hshort rest (Nat.lt_add_one _)
          exact ⟨_, .unpaired hunit htext⟩

/-! The masks a decoder tests units with. -/

theorem and_0x3FF (unit : UInt16) :
    (unit &&& 0x3FF).toNat = unit.toNat % 0x400 := by
  rw [UInt16.toNat_and]
  exact Nat.and_two_pow_sub_one_eq_mod unit.toNat 10

theorem and_0xF800_eq_iff (unit : UInt16) :
    unit &&& 0xF800 = 0xD800 ↔ Surrogate unit := by
  have hlt := unit.toNat_lt
  have htop : (unit.toNat &&& 0xF800) / 2 ^ 11 = unit.toNat / 2 ^ 11 := by
    have hmask : unit.toNat / 2 ^ 11 &&& (2 ^ 5 - 1) = unit.toNat / 2 ^ 11 := by
      rw [Nat.and_two_pow_sub_one_eq_mod]
      omega
    rw [← Nat.shiftRight_eq_div_pow, Nat.shiftRight_and_distrib,
      Nat.shiftRight_eq_div_pow]
    exact hmask
  have hrest : (unit.toNat &&& 0xF800) % 2 ^ 11 = 0 := by
    rw [← Nat.and_two_pow_sub_one_eq_mod, Nat.and_assoc]
    exact Nat.and_zero _
  have hvalue : (unit &&& 0xF800).toNat = unit.toNat &&& 0xF800 :=
    UInt16.toNat_and ..
  rw [← UInt16.toNat_inj, hvalue, Surrogate]
  show _ = 0xD800 ↔ _
  omega

/-! The bytes of units, least significant first. -/

def unitBytes (unit : UInt16) : List UInt8 :=
  [UInt8.ofNat unit.toNat, UInt8.ofNat (unit.toNat / 256)]

def bytes (units : List UInt16) : List UInt8 :=
  units.flatMap unitBytes

end Utf16

end ShadowCopy.Data
