import ShadowCopy.Core.Reconstructed

namespace ShadowCopy.Core

open ShadowCopy.Data

theorem toNat_div_blockSize (offset : UInt64) :
    (offset / UInt64.ofNat blockSize).toNat = offset.toNat / blockSize := by
  rw [UInt64.toNat_div, toNat_ofNat_blockSize]

theorem toNat_baseOf (offset : UInt64) :
    (baseOf offset).toNat = offset.toNat / blockSize * blockSize := by
  have hle : offset.toNat / blockSize * blockSize ≤ offset.toNat :=
    Nat.div_mul_le_self _ _
  have hlt := offset.toNat_lt
  rw [baseOf, toNat_saturatingMul, toNat_div_blockSize, toNat_ofNat_blockSize]
  omega

theorem baseOf_baseOf (offset : UInt64) :
    baseOf (baseOf offset) = baseOf offset := by
  rw [← UInt64.toNat_inj, toNat_baseOf, toNat_baseOf,
    Nat.mul_div_cancel _ (by decide)]

theorem baseOf_toNat_add_mod (offset : UInt64) :
    (baseOf offset).toNat + offset.toNat % blockSize = offset.toNat := by
  rw [toNat_baseOf, Nat.mul_comm]
  exact Nat.div_add_mod _ _

theorem baseOf_toNat_add_le (offset : UInt64) :
    (baseOf offset).toNat + blockSize ≤ 2 ^ 64 := by
  have hlt := offset.toNat_lt
  rw [toNat_baseOf, blockSize_eq]
  omega

namespace SnapshotState

theorem position_lt (offset : UInt64) (k : Nat) : position offset k < 2 ^ 64 :=
  Nat.lt_of_le_of_lt (Nat.min_le_right _ _) (by decide)

variable [Target] {image : Image} {state : SnapshotState}

theorem blockOf_congr {left right : UInt64}
    (h : left.toNat / blockSize = right.toNat / blockSize) :
    state.blockOf image left = state.blockOf image right := by
  have hnumber : left / UInt64.ofNat blockSize =
      right / UInt64.ofNat blockSize := by
    rw [← UInt64.toNat_inj, toNat_div_blockSize, toNat_div_blockSize, h]
  unfold blockOf baseOf
  rw [hnumber]

theorem blockOf_baseOf (cursor : UInt64) :
    state.blockOf image (baseOf cursor) = state.blockOf image cursor := by
  apply blockOf_congr
  rw [toNat_baseOf, Nat.mul_div_cancel _ (by decide)]

theorem within_ok (cursor : UInt64) :
    ∃ within, (subU64 cursor (baseOf cursor) : Outcome IoError UInt64) =
      .ok within ∧ asUsize within = cursor.toNat % blockSize := by
  have hsplit := baseOf_toNat_add_mod cursor
  have hmod := mod_blockSize_lt cursor.toNat
  have hsmall : blockSize < 2 ^ 32 := by decide
  obtain ⟨within, hsub, hwithin⟩ := subU64_ok (ε := IoError)
    (show (baseOf cursor).toNat ≤ cursor.toNat by omega)
  refine ⟨within, hsub, ?_⟩
  rw [asUsize_of_lt (by omega)]
  omega

theorem byteOf_eq (offset : UInt64) {position j : Nat} (hj : j < blockSize)
    (hposition : position = (baseOf offset).toNat + j) :
    state.byteOf image position = (state.blockOf image offset)[j] := by
  have hbase := toNat_baseOf offset
  have hle := baseOf_toNat_add_le offset
  have hnumber : position / blockSize = offset.toNat / blockSize := by
    rw [hposition, hbase, Nat.add_comm,
      Nat.add_mul_div_right _ _ (by decide), Nat.div_eq_of_lt hj, Nat.zero_add]
  have hwithin : position % blockSize = j := by
    rw [hposition, hbase, Nat.add_comm, Nat.add_mul_mod_self_right,
      Nat.mod_eq_of_lt hj]
  have hnat : (UInt64.ofNat position).toNat = position :=
    UInt64.toNat_ofNat_of_lt' (show position < 2 ^ 64 by omega)
  rw [byteOf, blockOf_congr (hnat.symm ▸ hnumber)]
  simp only [hwithin]
  rfl

/-- `read_at` fills the buffer with the snapshot's bytes: induction on the
fuel, the part already written being right and the cursor standing at the next
position. -/
theorem readAtLoop_runs {len : Nat}
    (hsize : state.volumeSize = UInt64.ofNat image.size)
    (hlen : len < Target.usizeSize) (offset : UInt64) (fuel : Nat) :
    ∀ written cursor (buf : Vector UInt8 len), len - written < fuel →
      written ≤ len → cursor.toNat = position offset written →
      (∀ k (hk : k < len), k < written →
        buf[k] = state.byteOf image (position offset k)) →
      Runs image none (state.readAtLoop fuel written cursor buf)
        (.ok (state.readAtOf image offset len)) none := by
  induction fuel with
  | zero => intro _ _ _ hfuel; exact absurd hfuel (Nat.not_lt_zero _)
  | succ fuel ih =>
      intro written cursor buf hfuel hwritten hcursor hdone
      rw [readAtLoop]
      by_cases hmore : written < len
      · rw [if_pos hmore]
        have hlast := baseOf_toNat_add_le cursor
        have hsplit := baseOf_toNat_add_mod cursor
        have hmod := mod_blockSize_lt cursor.toNat
        have hsmall : blockSize < 2 ^ 32 := by decide
        obtain ⟨within, hsub, hcast⟩ := within_ok cursor
        refine Runs.bind_ok ((Runs.lift _).congr hsub) ?_
        refine Runs.bind_ok (readBlock_runs hsize (baseOf cursor)) ?_
        rw [hcast, blockOf_baseOf]
        refine Runs.bind_ok
          ((Runs.lift _).congr (subUsize_ok (Nat.le_of_lt hmod))) ?_
        refine Runs.bind_ok
          ((Runs.lift _).congr (subUsize_ok (Nat.le_of_lt hmore))) ?_
        generalize hn : min (blockSize - cursor.toNat % blockSize)
          (len - written) = n
        have hadd : (addUsize written n : Outcome IoError Nat) =
            .ok (written + n) := if_pos (by omega)
        refine Runs.bind_ok ((Runs.lift _).congr hadd) ?_
        refine Runs.bind_ok ((Runs.lift _).congr (addUsize_ok (by omega))) ?_
        obtain ⟨source, filled, hslice, hcopy, hfilled⟩ :=
          copySlice_ok (ε := IoError) (state.blockOf image cursor) buf
            (show cursor.toNat % blockSize + n ≤ blockSize by omega)
            (show written + n ≤ len by omega)
        refine Runs.bind_ok ((Runs.lift _).congr hslice) ?_
        refine Runs.bind_ok ((Runs.lift _).congr hcopy) ?_
        have hnNat : (UInt64.ofNat n).toNat = n :=
          UInt64.toNat_ofNat_of_lt' (show n < 2 ^ 64 by omega)
        apply ih
        · omega
        · omega
        · rw [toNat_saturatingAdd, hnNat, hcursor]
          unfold position
          omega
        · intro k hk hkstop
          rw [hfilled k hk]
          by_cases hold : k < written
          · rw [if_neg (by omega)]
            exact hdone k hk hold
          · have hj : cursor.toNat % blockSize + (k - written) < blockSize := by
              omega
            have hposition : position offset k =
                (baseOf cursor).toNat +
                  (cursor.toNat % blockSize + (k - written)) := by
              unfold position at hcursor ⊢
              omega
            rw [if_pos ⟨Nat.not_lt.mp hold, hkstop⟩,
              byteOf_eq cursor hj hposition]
            simp [hj]
      · rw [if_neg hmore]
        have hall : buf = state.readAtOf image offset len := by
          apply Vector.ext
          intro k hk
          rw [readAtOf, Vector.getElem_ofFn]
          exact hdone k hk (by omega)
        rw [hall]
        exact Runs.pure _

theorem readAt_runs {len : Nat}
    (hsize : state.volumeSize = UInt64.ofNat image.size)
    (hlen : len < Target.usizeSize) (offset : UInt64)
    (buf : Vector UInt8 len) :
    Runs image none (state.readAt offset buf)
      (.ok (state.readAtOf image offset len)) none := by
  have hstart : offset.toNat = position offset 0 := by
    have := offset.toNat_lt
    unfold position
    omega
  exact readAtLoop_runs hsize hlen offset (len + 1) 0 offset buf (by omega)
    (Nat.zero_le _) hstart fun k _ hk => absurd hk (Nat.not_lt_zero k)

end SnapshotState

end ShadowCopy.Core
