import ShadowCopy.Data.Machine
import Mathlib.Data.List.Basic

namespace ShadowCopy.Data

/-! Borrowed slices are byte lists; `[u8; n]` and filled buffers are vectors. -/

def getRange? (buf : List UInt8) (start stop : Nat) : Option (List UInt8) :=
  if start ≤ stop ∧ stop ≤ buf.length then
    some ((buf.drop start).take (stop - start))
  else
    none

def sliceRange (buf : List UInt8) (start stop : Nat) :
    Outcome ε (List UInt8) :=
  match getRange? buf start stop with
  | some slice => .ok slice
  | none => .panic

/-- `target[start..stop].copy_from_slice(source)`. -/
def copyFromSlice (target : Vector UInt8 n) (start stop : Nat)
    (source : List UInt8) : Outcome ε (Vector UInt8 n) :=
  if start ≤ stop ∧ stop ≤ n ∧ source.length = stop - start then
    .ok (Vector.ofFn fun j : Fin n =>
      if start ≤ j.val ∧ j.val < stop then source[j.val - start]?.getD 0
      else target[j])
  else
    .panic

theorem sliceRange_ok {buf : List UInt8} {start stop : Nat}
    (hstart : start ≤ stop) (hstop : stop ≤ buf.length) :
    (sliceRange buf start stop : Outcome ε (List UInt8)) =
      .ok ((buf.drop start).take (stop - start)) := by
  rw [sliceRange, getRange?, if_pos ⟨hstart, hstop⟩]

theorem copyFromSlice_ok (target : Vector UInt8 n) {start stop : Nat}
    {source : List UInt8} (hstart : start ≤ stop) (hstop : stop ≤ n)
    (hlength : source.length = stop - start) :
    ∃ result, (copyFromSlice target start stop source :
        Outcome ε (Vector UInt8 n)) = .ok result ∧
      ∀ j (hj : j < n), result[j] =
        if start ≤ j ∧ j < stop then source[j - start]?.getD 0
        else target[j] := by
  refine ⟨_, if_pos ⟨hstart, hstop, hlength⟩, fun j hj => ?_⟩
  rw [Vector.getElem_ofFn]
  rfl

/-- `target[into..into + count].copy_from_slice(&source[start..start + count])`
does not panic where both ranges fit. -/
theorem copySlice_ok (source : Vector UInt8 m) (target : Vector UInt8 n)
    {start into count : Nat} (hstart : start + count ≤ m)
    (hinto : into + count ≤ n) :
    ∃ slice result,
      (sliceRange source.toList start (start + count) :
        Outcome ε (List UInt8)) = .ok slice ∧
      (copyFromSlice target into (into + count) slice :
        Outcome ε (Vector UInt8 n)) = .ok result ∧
      ∀ j (hj : j < n), result[j] =
        if into ≤ j ∧ j < into + count then
          source[start + (j - into)]?.getD 0
        else target[j] := by
  have hslice := sliceRange_ok (ε := ε) (Nat.le_add_right start count)
    (show start + count ≤ source.toList.length by simpa using hstart)
  rw [Nat.add_sub_cancel_left] at hslice
  have hlength : ((source.toList.drop start).take count).length =
      into + count - into := by
    rw [List.length_take, List.length_drop, Vector.length_toList]
    omega
  obtain ⟨result, hcopy, hresult⟩ := copyFromSlice_ok (ε := ε) target
    (Nat.le_add_right into count) hinto hlength
  refine ⟨_, result, hslice, hcopy, fun j hj => ?_⟩
  rw [hresult j hj]
  split
  · rename_i hin
    rw [List.getElem?_take_of_lt (by omega), List.getElem?_drop,
      Vector.getElem?_toList]
  · rfl

/-! Little-endian integers. -/

def leValue : List UInt8 → Nat
  | [] => 0
  | byte :: rest => byte.toNat + 256 * leValue rest

/-- `n` bytes of a slice starting at `off`, all zero when the slice is too
short to hold them. -/
def bytesAt (n : Nat) (buf : List UInt8) (off : Nat) : Vector UInt8 n :=
  Vector.ofFn fun j : Fin n =>
    if off + n ≤ buf.length then buf[off + j.val]?.getD 0 else 0

def u16At (buf : List UInt8) (off : Nat) : UInt16 :=
  UInt16.ofNat (leValue (bytesAt 2 buf off).toList)

def u32At (buf : List UInt8) (off : Nat) : UInt32 :=
  UInt32.ofNat (leValue (bytesAt 4 buf off).toList)

def u64At (buf : List UInt8) (off : Nat) : UInt64 :=
  UInt64.ofNat (leValue (bytesAt 8 buf off).toList)

theorem bytesAt_eq_zero {n : Nat} {buf : List UInt8} {off : Nat}
    (h : buf.length < off + n) :
    bytesAt n buf off = Vector.replicate n 0 := by
  apply Vector.ext
  intro j hj
  rw [bytesAt, Vector.getElem_ofFn, if_neg (Nat.not_le.mpr h),
    Vector.getElem_replicate]

theorem bytesAt_take {n m : Nat} {buf : List UInt8} {off : Nat}
    (h : off + n ≤ m) : bytesAt n (buf.take m) off = bytesAt n buf off := by
  have hfits : off + n ≤ (buf.take m).length ↔ off + n ≤ buf.length := by
    rw [List.length_take]
    omega
  apply Vector.ext
  intro j hj
  simp only [bytesAt, Vector.getElem_ofFn, hfits,
    List.getElem?_take_of_lt (show off + j < m by omega)]

theorem u32At_eq_zero {buf : List UInt8} {off : Nat}
    (h : buf.length < off + 4) : u32At buf off = 0 := by
  rw [u32At, bytesAt_eq_zero h]
  rfl

end ShadowCopy.Data
