import ShadowCopy.Data.Buffer

namespace ShadowCopy.Data

/-! Little-endian numbers of any width, and fields laid end to end. -/

def encodeLe : Nat → Nat → List UInt8
  | 0, _ => []
  | width + 1, value => UInt8.ofNat value :: encodeLe width (value / 256)

@[simp] theorem length_encodeLe (width value : Nat) :
    (encodeLe width value).length = width := by
  induction width generalizing value with
  | zero => rfl
  | succ width ih => rw [encodeLe, List.length_cons, ih]

theorem leValue_encodeLe (width value : Nat) :
    leValue (encodeLe width value) = value % 256 ^ width := by
  induction width generalizing value with
  | zero => rw [encodeLe, leValue, Nat.pow_zero, Nat.mod_one]
  | succ width ih =>
      have hbyte : (UInt8.ofNat value).toNat = value % 256 := UInt8.toNat_ofNat'
      rw [encodeLe, leValue, ih, hbyte, Nat.pow_succ', Nat.mod_mul]

theorem leValue_lt (bytes : List UInt8) :
    leValue bytes < 256 ^ bytes.length := by
  induction bytes with
  | nil => exact Nat.one_pos
  | cons byte rest ih =>
      have hbyte := byte.toNat_lt
      rw [leValue, List.length_cons, Nat.pow_succ']
      omega

theorem encodeLe_leValue (bytes : List UInt8) :
    encodeLe bytes.length (leValue bytes) = bytes := by
  induction bytes with
  | nil => rfl
  | cons byte rest ih =>
      have hbyte : byte.toNat < 256 := byte.toNat_lt
      have hhead : UInt8.ofNat (leValue (byte :: rest)) = byte := by
        apply UInt8.toNat_inj.mp
        rw [UInt8.toNat_ofNat', leValue]
        omega
      have htail : leValue (byte :: rest) / 256 = leValue rest := by
        rw [leValue]
        omega
      rw [List.length_cons, encodeLe, hhead, htail, ih]

/-! Reading a field past the fields before it, and the field itself. -/

section Fields

variable {before rest : List UInt8} {off : Nat}

theorem bytesAt_skip (n : Nat) (h : before.length ≤ off) :
    bytesAt n (before ++ rest) off = bytesAt n rest (off - before.length) := by
  have hfits : off + n ≤ (before ++ rest).length ↔
      off - before.length + n ≤ rest.length := by
    rw [List.length_append]
    omega
  apply Vector.ext
  intro j hj
  simp only [bytesAt, Vector.getElem_ofFn, hfits]
  rw [List.getElem?_append_right (Nat.le_trans h (Nat.le_add_right off j)),
    Nat.sub_add_comm h]

theorem bytesAt_head {n : Nat} {field : List UInt8} (h : field.length = n) :
    (bytesAt n (field ++ rest) 0).toList = field := by
  subst h
  have hfits : 0 + field.length ≤ (field ++ rest).length := by
    rw [List.length_append]
    omega
  apply List.ext_getElem
  · rw [Vector.length_toList]
  · intro j hleft hright
    rw [Vector.getElem_toList]
    simp only [bytesAt, Vector.getElem_ofFn]
    rw [if_pos hfits, Nat.zero_add, List.getElem?_append_left hright,
      List.getElem?_eq_getElem hright]
    rfl

theorem bytesAt_field {n : Nat} (value : Vector UInt8 n) :
    bytesAt n (value.toList ++ rest) 0 = value :=
  Vector.toList_inj.mp (bytesAt_head Vector.length_toList)

theorem u16At_skip (h : before.length ≤ off) :
    u16At (before ++ rest) off = u16At rest (off - before.length) := by
  rw [u16At, bytesAt_skip 2 h]
  rfl

theorem u32At_skip (h : before.length ≤ off) :
    u32At (before ++ rest) off = u32At rest (off - before.length) := by
  rw [u32At, bytesAt_skip 4 h]
  rfl

theorem u64At_skip (h : before.length ≤ off) :
    u64At (before ++ rest) off = u64At rest (off - before.length) := by
  rw [u64At, bytesAt_skip 8 h]
  rfl

theorem u16At_field (value : UInt16) :
    u16At (encodeLe 2 value.toNat ++ rest) 0 = value := by
  have hlt : value.toNat < 256 ^ 2 := value.toNat_lt
  rw [u16At, bytesAt_head (length_encodeLe 2 _), leValue_encodeLe,
    Nat.mod_eq_of_lt hlt, UInt16.ofNat_toNat]

theorem u32At_field (value : UInt32) :
    u32At (encodeLe 4 value.toNat ++ rest) 0 = value := by
  have hlt : value.toNat < 256 ^ 4 := value.toNat_lt
  rw [u32At, bytesAt_head (length_encodeLe 4 _), leValue_encodeLe,
    Nat.mod_eq_of_lt hlt, UInt32.ofNat_toNat]

theorem u64At_field (value : UInt64) :
    u64At (encodeLe 8 value.toNat ++ rest) 0 = value := by
  have hlt : value.toNat < 256 ^ 8 := value.toNat_lt
  rw [u64At, bytesAt_head (length_encodeLe 8 _), leValue_encodeLe,
    Nat.mod_eq_of_lt hlt, UInt64.ofNat_toNat]

end Fields

/-! The bytes a field was read from. -/

section Sources

variable {buf : List UInt8} {off : Nat}

theorem bytesAt_toList (n : Nat) (h : off + n ≤ buf.length) :
    (bytesAt n buf off).toList = (buf.drop off).take n := by
  apply List.ext_getElem
  · rw [Vector.length_toList, List.length_take, List.length_drop]
    omega
  · intro j hleft hright
    have hj : j < n := by simpa using hleft
    rw [Vector.getElem_toList]
    simp only [bytesAt, Vector.getElem_ofFn]
    rw [if_pos h, List.getElem_take, List.getElem_drop,
      List.getElem?_eq_getElem (by omega)]
    rfl

theorem encodeLe_u32At (h : off + 4 ≤ buf.length) :
    encodeLe 4 (u32At buf off).toNat = (buf.drop off).take 4 := by
  have hlt := leValue_lt (bytesAt 4 buf off).toList
  rw [Vector.length_toList] at hlt
  have hvalue : (u32At buf off).toNat = leValue (bytesAt 4 buf off).toList :=
    UInt32.toNat_ofNat_of_lt' hlt
  have hbytes := encodeLe_leValue (bytesAt 4 buf off).toList
  rw [Vector.length_toList] at hbytes
  rw [hvalue, hbytes, bytesAt_toList 4 h]

theorem encodeLe_u64At (h : off + 8 ≤ buf.length) :
    encodeLe 8 (u64At buf off).toNat = (buf.drop off).take 8 := by
  have hlt := leValue_lt (bytesAt 8 buf off).toList
  rw [Vector.length_toList] at hlt
  have hvalue : (u64At buf off).toNat = leValue (bytesAt 8 buf off).toList :=
    UInt64.toNat_ofNat_of_lt' hlt
  have hbytes := encodeLe_leValue (bytesAt 8 buf off).toList
  rw [Vector.length_toList] at hbytes
  rw [hvalue, hbytes, bytesAt_toList 8 h]

end Sources

end ShadowCopy.Data
