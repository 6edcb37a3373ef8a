import ShadowCopy.Core.Store
import ShadowCopy.Data.Utf16

namespace ShadowCopy.Core

open ShadowCopy.Data

/-! The strings of store information as UTF-16 text. -/

theorem decodeUtf16_unit {unit : UInt16} {rest : List UInt16}
    (h : ¬ Utf16.Surrogate unit) :
    decodeUtf16 (unit :: rest) =
      some (Char.ofNat unit.toNat) :: decodeUtf16 rest := by
  rw [decodeUtf16.eq_def]
  exact if_pos (mt (Utf16.and_0xF800_eq_iff unit).mp h)

theorem decodeUtf16_pair {high low : UInt16} {rest : List UInt16}
    (hhigh : Utf16.High high) (hlow : Utf16.Low low) :
    decodeUtf16 (high :: low :: rest) =
      some (Char.ofNat ((high.toNat % 0x400 * 0x400 + low.toNat % 0x400) +
        0x10000)) :: decodeUtf16 rest := by
  have hmask := (Utf16.and_0xF800_eq_iff high).mpr
    (Utf16.surrogate_iff.mpr (.inl hhigh))
  have hnot : ¬ 0xDC00 ≤ high := by
    rw [UInt16.le_iff_toNat_le]
    exact Nat.not_le.mpr hhigh.2
  have hin : ¬ (low < 0xDC00 ∨ 0xDFFF < low) := by
    rw [UInt16.lt_iff_toNat_lt, UInt16.lt_iff_toNat_lt, not_or]
    exact ⟨Nat.not_lt.mpr hlow.1, Nat.not_lt.mpr (Nat.le_of_lt_succ hlow.2)⟩
  rw [decodeUtf16.eq_def]
  simp only [hmask, ne_eq, not_true_eq_false, if_false, hnot, hin,
    Utf16.and_0x3FF]
  rfl

theorem decodeUtf16_unpaired {unit : UInt16} {rest : List UInt16}
    (h : Utf16.Unpaired unit rest) :
    decodeUtf16 (unit :: rest) = none :: decodeUtf16 rest := by
  have hmask := (Utf16.and_0xF800_eq_iff unit).mpr h.surrogate
  rw [decodeUtf16.eq_def]
  simp only [hmask, ne_eq, not_true_eq_false, if_false]
  split
  · rfl
  · rename_i hnot
    rw [UInt16.le_iff_toNat_le, Nat.not_le] at hnot
    cases rest with
    | nil => rw [decodeUtf16]
    | cons low tail =>
        refine if_pos ?_
        have halone := h.alone ⟨h.surrogate.1, hnot⟩ low rfl
        rw [UInt16.lt_iff_toNat_lt, UInt16.lt_iff_toNat_lt]
        by_contra hin
        obtain ⟨hlow, hhigh⟩ := not_or.mp hin
        exact halone ⟨Nat.not_lt.mp hlow,
          Nat.lt_succ_of_le (Nat.not_lt.mp hhigh)⟩

/-- The decoder, with the replacement the reader puts in. -/
def decodedText (units : List UInt16) : List Char :=
  (decodeUtf16 units).map fun unit => unit.getD (Char.ofNat 0xFFFD)

theorem decodedText_eq {units : List UInt16} {text : List Char}
    (h : Utf16.Decodes units text) : decodedText units = text := by
  induction h with
  | nil => rw [decodedText, decodeUtf16, List.map_nil]
  | @encoded rest text c _ ih =>
      rw [decodedText] at ih ⊢
      rcases Utf16.encodeChar_cases c with
        ⟨unit, hunits, hunit, hchar⟩ | ⟨high, low, hunits, hhigh, hlow, hchar⟩
      · rw [hunits, List.singleton_append, decodeUtf16_unit hunit, ← hchar,
          List.map_cons, ih, Option.getD_some]
      · rw [hunits, List.cons_append, List.singleton_append,
          decodeUtf16_pair hhigh hlow, ← hchar, List.map_cons, ih,
          Option.getD_some]
  | @unpaired unit rest text hunit _ ih =>
      rw [decodedText] at ih ⊢
      rw [decodeUtf16_unpaired hunit, List.map_cons, ih]
      rfl

theorem decodes_decodedText (units : List UInt16) :
    Utf16.Decodes units (decodedText units) := by
  obtain ⟨text, htext⟩ := Utf16.exists_decodes units
  rw [decodedText_eq htext]
  exact htext

/-! From bytes to units and back. -/

/-- The `u16` values of a slice, a trailing odd byte left out. -/
def codeUnits (slice : List UInt8) : List UInt16 :=
  (List.range (slice.length / 2)).map fun k => u16At slice (2 * k)

theorem u16At_cons_cons (low high : UInt8) (rest : List UInt8) (off : Nat) :
    u16At (low :: high :: rest) (off + 2) = u16At rest off := by
  have hbytes : bytesAt 2 (low :: high :: rest) (off + 2) =
      bytesAt 2 rest off := by
    apply Vector.ext
    intro j hj
    have hplace : off + 2 + j = off + j + 1 + 1 := by omega
    have hfits : off + 2 + 2 ≤ (low :: high :: rest).length ↔
        off + 2 ≤ rest.length := by
      rw [List.length_cons, List.length_cons]
      omega
    simp only [bytesAt, Vector.getElem_ofFn, hfits, hplace,
      List.getElem?_cons_succ]
  rw [u16At, hbytes, u16At]

theorem chunkUnits_eq (slice : List UInt8) :
    chunkUnits slice = codeUnits slice := by
  fun_induction chunkUnits slice with
  | case1 low high rest ih =>
      have hlength : (low :: high :: rest).length / 2 =
          rest.length / 2 + 1 := by
        rw [List.length_cons, List.length_cons]
        omega
      have hfirst : u16At (low :: high :: rest) 0 =
          UInt16.ofNat (leValue [low, high]) := by
        simp [u16At, bytesAt]
        rfl
      rw [codeUnits, hlength, List.range_succ_eq_map, List.map_cons,
        List.map_map, Nat.mul_zero, hfirst, ih]
      apply congrArg
      exact List.map_congr_left fun k _ =>
        (u16At_cons_cons low high rest (2 * k)).symm
  | case2 slice hshort =>
      have hlength : slice.length / 2 = 0 := by
        cases slice with
        | nil => rfl
        | cons low rest =>
            cases rest with
            | nil => exact Nat.div_eq_of_lt (Nat.lt_add_one 1)
            | cons high rest => exact absurd rfl (hshort low high rest)
      rw [codeUnits, hlength]
      rfl

theorem chunkUnits_bytes (units : List UInt16) :
    chunkUnits (Utf16.bytes units) = units := by
  induction units with
  | nil => rfl
  | cons unit rest ih =>
      have hlt := unit.toNat_lt
      have hunit : UInt16.ofNat (leValue (Utf16.unitBytes unit)) = unit := by
        have hvalue : leValue (Utf16.unitBytes unit) = unit.toNat := by
          simp [Utf16.unitBytes, leValue]
          omega
        rw [hvalue, UInt16.ofNat_toNat]
      have hbytes : Utf16.bytes (unit :: rest) =
          UInt8.ofNat unit.toNat :: UInt8.ofNat (unit.toNat / 256) ::
            Utf16.bytes rest := rfl
      rw [hbytes, chunkUnits, ih]
      exact congrArg (· :: rest) hunit

def utf16leBytes (text : String) : List UInt8 :=
  Utf16.bytes (Utf16.encode text.toList)

theorem utf16leString_eq (slice : List UInt8) :
    utf16leString slice = String.ofList (decodedText (codeUnits slice)) := by
  rw [utf16leString, chunkUnits_eq, decodedText]

theorem utf16leString_bytes (text : String) :
    utf16leString (utf16leBytes text) = text := by
  rw [utf16leString_eq, ← chunkUnits_eq, utf16leBytes, chunkUnits_bytes,
    decodedText_eq (Utf16.encode_decodes text.toList)]
  exact String.ofList_toList

/-- What a string read from a span of a buffer has to be: the text of the
whole span, or nothing where the span leaves the buffer. -/
structure SpanText (buf : List UInt8) (off len : Nat) (text : String) :
    Prop where
  inside : off + len ≤ buf.length →
    Utf16.Decodes (codeUnits ((buf.drop off).take len)) text.toList
  outside : buf.length < off + len → text = ""

theorem decodeString_spanText (buf : List UInt8) (off len : Nat) :
    SpanText buf off len (decodeString buf off len) := by
  unfold decodeString getRange?
  constructor
  · intro hin
    rw [if_pos ⟨Nat.le_add_right off len, hin⟩, Nat.add_sub_cancel_left,
      Option.map_some, Option.getD_some, utf16leString_eq,
      String.toList_ofList]
    exact decodes_decodedText _
  · intro hout
    rw [if_neg fun h => Nat.not_le.mpr hout h.2]
    rfl

end ShadowCopy.Core
