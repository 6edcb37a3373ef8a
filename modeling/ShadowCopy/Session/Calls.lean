import ShadowCopy.Core.Agreement
import ShadowCopy.Core.Vfs
import ShadowCopy.Data.FailFast

namespace ShadowCopy.Core

open ShadowCopy.Data

/-! The calls each program makes over an image when none of them fails. -/

def blockCalls (image : Image) (off : UInt64) : Nat :=
  if inRange image off then 2 else 0

namespace VssVolume

/-- Opening asks for the size, reads the header if it fits and then every
catalog block the walk looks at. -/
def openCalls (volume : VssVolume) (image : Image) : Nat :=
  1 + ((if headerFits image then 2 else 0) +
    if volume.hasVssHeader && volume.catalogOffset != 0 then
      2 * (catalogInspected image volume.catalogOffset).length
    else
      0)

def storeInfoCalls (volume : VssVolume) (image : Image) (index : Nat) : Nat :=
  match volume.stores[index]?.bind StoreDescriptor.storeHeaderOffset with
  | none => 0
  | some headerOff =>
      if headerOff.toNat + storeBlockHeaderLen ≤ image.size then 3 else 0

def snapshotCalls (volume : VssVolume) (image : Image) (index : Nat) : Nat :=
  match volume.stores[index]? with
  | none => 0
  | some d =>
      match d.storeHeaderOffset, d.storeBitmapOffset with
      | some headerOff, some bitmapOff =>
          2 * (storeInspected image diffAreaRecordType
              (diffStart headerOff)).length +
            2 * (storeInspected image bitmapRecordType bitmapOff).length
      | _, _ => 0

end VssVolume

namespace SnapshotState

variable [Target]

def readBlockCalls (state : SnapshotState) (image : Image) (offset : UInt64) :
    Nat :=
  match state.blockMap[baseOf offset]? with
  | some (d :: rest) =>
      blockCalls image (((rfind? BlockDescriptor.isPlain (d :: rest)).map
          BlockDescriptor.storeOffset).getD (baseOf offset)) +
        (((d :: rest).filter BlockDescriptor.isPatch).map fun d =>
          blockCalls image d.storeOffset).sum
  | _ =>
      if state.bit (offset / UInt64.ofNat blockSize) then 0
      else blockCalls image (baseOf offset)

/-- Byte `k` of a read at `offset` begins another block, or lies past the last
position there is, where every byte is fetched on its own. -/
def beginsTurn (offset : UInt64) (k : Nat) : Bool :=
  k == 0 || (offset.toNat + k) % blockSize == 0 ||
    decide (2 ^ 64 ≤ offset.toNat + k)

def readAtCalls (state : SnapshotState) (image : Image) (offset : UInt64)
    (len : Nat) : Nat :=
  (((List.range len).filter (beginsTurn offset)).map fun k =>
    state.readBlockCalls image (UInt64.ofNat (position offset k))).sum

end SnapshotState

section Calls

variable [Target] {image : Image}

omit [Target] in
theorem ChainWalk.run_calls [FromIoError ε] {walk : ChainWalk ε η σ}
    {accepts : List UInt8 → Bool} {next : List UInt8 → UInt64}
    {gather : σ → List UInt8 → σ} (h : walk.Computes accepts next gather)
    (image : Image) (remaining : Nat) (visited : List UInt64)
    (first : UInt64) (state : σ) :
    Calls image none
      (walk.run (UInt64.ofNat image.size) remaining visited first state)
      (2 * ((image.links accepts next).inspected remaining visited
        first).length) := by
  induction remaining generalizing visited first state with
  | zero => exact Calls.pure state
  | succ remaining ih =>
      rw [run, Links.inspected]
      by_cases hzero : first = 0
      · have hfits : ¬ (image.links accepts next).fits first = true := by
          simp [Image.blockFits, hzero]
        rw [if_pos hzero, if_neg fun h => hfits h.1]
        exact Calls.pure state
      rw [if_neg hzero]
      by_cases hseen : first ∈ visited
      · rw [if_pos hseen, if_neg fun h => h.2 hseen]
        exact Calls.pure state
      rw [if_neg hseen]
      rcases image.rangeCheck first (show blockSize < 2 ^ 64 by decide) with
        ⟨hrange, stop, hstop, hle, _⟩ | ⟨hrange, hpast⟩
      · have hfits : (image.links accepts next).fits first = true := by
          simp [Image.links, Image.blockFits, hzero, hrange]
        simp only [hstop, if_pos hle, hfits, hseen, not_false_eq_true,
          and_self, if_true]
        cases haccepts : accepts (image.blockAt first) with
        | false =>
            have hstop : ¬ (image.links accepts next).accepts first = true := by
              simp [haccepts]
            rw [if_neg hstop]
            refine Calls.congr (Calls.bind_range hrange ?_) (Nat.add_zero 2)
            exact Calls.bind_lift (h.rejected _ (by simp) haccepts)
              (Calls.pure state)
        | true =>
            obtain ⟨header, hinspect, hcollect, hnext⟩ :=
              h.accepted _ (by simp) haccepts
            have hmore : (image.links accepts next).accepts first = true :=
              haccepts
            rw [if_pos hmore, List.length_cons, Nat.mul_succ, Nat.add_comm]
            refine Calls.bind_range hrange ?_
            refine Calls.bind_lift hinspect ?_
            refine Calls.bind_lift (hcollect state) ?_
            refine Calls.bind_lift hnext ?_
            exact (ih (first :: visited) (next (image.blockAt first)) _).weaken
      · have hfits : ¬ (image.links accepts next).fits first = true := by
          simp [Image.blockFits, hrange]
        rw [if_neg fun h => hfits h.1]
        cases hstop : checkedAdd first (UInt64.ofNat blockSize) with
        | none => exact Calls.pure state
        | some stop =>
            simp only [if_neg (hpast stop hstop)]
            exact Calls.pure state

theorem openHeader_calls (image : Image) :
    Calls image none (openHeader (UInt64.ofNat image.size))
      (if headerFits image then 2 else 0) := by
  have hle : vssVolumeHeaderOffset + UInt64.ofNat catalogBlockHeaderLen ≤
      UInt64.ofNat image.size ↔ headerFits image := by
    rw [UInt64.le_iff_toNat_le, image.toNat_volumeSize]
    rfl
  unfold openHeader
  by_cases hfits : headerFits image
  · rw [if_pos (hle.mpr hfits), if_pos hfits]
    refine Calls.congr (Calls.bind_range hfits ?_) (Nat.add_zero 2)
    exact Calls.bind_lift (VolumeHeader.parse_ok _) (Calls.pure _)
  · rw [if_neg (mt hle.mp hfits), if_neg hfits]
    exact Calls.pure _

theorem openVolume_calls (image : Image) :
    Calls image none openVolume ((volumeOf image).openCalls image) := by
  refine Calls.bind_ok Runs.seekEnd.forget (Calls.call _) ?_
  refine Calls.bind_ok (openHeader_runs image) (openHeader_calls image) ?_
  refine Calls.bind_idle ?_ fun _ _ => rfl
  unfold openStores
  cases (volumeOf image).hasVssHeader &&
      (volumeOf image).catalogOffset != 0 with
  | false => exact Calls.pure []
  | true =>
      exact ChainWalk.run_calls catalogWalk_computes image maxCatalogBlocks []
        (volumeOf image).catalogOffset []

theorem VssVolume.storeInfo_calls {volume : VssVolume}
    (hsize : volume.volumeSize = UInt64.ofNat image.size) (index : Nat) :
    Calls image none (volume.storeInfo index)
      (volume.storeInfoCalls image index) := by
  unfold storeInfo storeInfoCalls
  cases hstore : volume.stores[index]? with
  | none => exact Calls.bind_err (Runs.lift _) (Calls.lift _)
  | some descriptor =>
      refine Calls.bind_lift (Outcome.okOr_some _ _) ?_
      rw [Option.bind_some]
      cases hpointer : descriptor.storeHeaderOffset with
      | none => exact Calls.bind_err (Runs.lift _) (Calls.lift _)
      | some headerOff =>
          refine Calls.bind_lift (Outcome.okOr_some _ _) ?_
          rw [hsize]
          rcases image.rangeCheck headerOff
              (show storeBlockHeaderLen < 2 ^ 64 by decide) with
            ⟨hfits, stop, hstop, hle, hstopNat⟩ | ⟨hlong, hpast⟩
          · simp only [hstop, Option.filter_some, decide_eq_true hle, if_true,
              if_pos hfits]
            refine Calls.bind_lift (Outcome.okOr_some _ _) ?_
            refine Calls.congr (Calls.bind_range hfits ?_) (Nat.add_comm 2 1)
            refine Calls.bind_lift (StoreBlockHeader.parse_ok _) ?_
            exact Calls.bind_idle (Calls.call _) fun _ _ => rfl
          · have hnone : (checkedAdd headerOff
                (UInt64.ofNat storeBlockHeaderLen)).filter
                  (fun stop => decide (stop ≤ UInt64.ofNat image.size)) =
                none := by
              rw [Option.filter_eq_none_iff]
              intro stop hstop
              rw [decide_eq_true_eq]
              exact hpast stop hstop
            simp only [hnone, if_neg hlong]
            exact Calls.bind_err (Runs.lift _) (Calls.lift _)

theorem VssVolume.snapshotState_calls {volume : VssVolume}
    (hsize : volume.volumeSize = UInt64.ofNat image.size) (index : Nat) :
    Calls image none (volume.snapshotState index)
      (volume.snapshotCalls image index) := by
  unfold snapshotState snapshotCalls
  cases hstore : volume.stores[index]? with
  | none => exact Calls.bind_err (Runs.lift _) (Calls.lift _)
  | some d =>
      refine Calls.bind_lift (Outcome.okOr_some _ _) ?_
      dsimp only
      cases hheader : d.storeHeaderOffset with
      | none => exact Calls.bind_err (Runs.lift _) (Calls.lift _)
      | some headerOff =>
          refine Calls.bind_lift (Outcome.okOr_some _ _) ?_
          cases hbitmap : d.storeBitmapOffset with
          | none => exact Calls.bind_err (Runs.lift _) (Calls.lift _)
          | some bitmapOff =>
              refine Calls.bind_lift (Outcome.okOr_some _ _) ?_
              simp only [hsize]
              refine Calls.bind_ok (buildBlockMap_runs (diffStart headerOff))
                (ChainWalk.run_calls diffAreaWalk_computes image _ _ _ _) ?_
              refine Calls.bind_idle (Calls.bind_idle ?_ fun _ _ => rfl)
                fun _ _ => rfl
              exact ChainWalk.run_calls bitmapWalk_computes image
                maxStoreBlocks [] bitmapOff []

omit [Target] in
theorem readBlockAt_calls (offset : UInt64) :
    Calls image none (readBlockAt offset (UInt64.ofNat image.size))
      (blockCalls image offset) := by
  unfold readBlockAt blockCalls inRange
  rcases image.rangeCheck offset (show blockSize < 2 ^ 64 by decide) with
    ⟨hrange, stop, hstop, hle, _⟩ | ⟨hrange, hpast⟩
  · simp only [hstop, if_pos hle, decide_eq_true hrange, if_true]
    exact Calls.congr (Calls.bind_range hrange (Calls.pure _)) (Nat.add_zero 2)
  · simp only [decide_eq_false hrange, Bool.false_eq_true, if_false]
    cases hstop : checkedAdd offset (UInt64.ofNat blockSize) with
    | none => exact Calls.pure _
    | some stop =>
        simp only [if_neg (hpast stop hstop)]
        exact Calls.pure _

namespace SnapshotState

variable {state : SnapshotState}

theorem patchOverlay_calls (hsize : state.volumeSize = UInt64.ofNat image.size)
    (out : Block) (d : BlockDescriptor) :
    Calls image none (state.patchOverlay out d)
      (blockCalls image d.storeOffset) := by
  unfold patchOverlay
  rw [hsize]
  refine Calls.bind_idle (readBlockAt_calls _) fun found reader => ?_
  obtain ⟨inRange, overlay⟩ := found
  cases inRange <;> rfl

theorem readUndescribed_calls
    (hsize : state.volumeSize = UInt64.ofNat image.size)
    (blockNumber base : UInt64) :
    Calls image none (state.readUndescribed blockNumber base)
      (if state.bit blockNumber then 0 else blockCalls image base) := by
  unfold readUndescribed
  rw [hsize]
  refine Calls.bind_lift (isUnallocated_ok state blockNumber) ?_
  cases state.bit blockNumber with
  | true => exact Calls.pure zeroBlock
  | false => exact Calls.bind_idle (readBlockAt_calls base) fun _ _ => rfl

theorem readBlock_calls (hsize : state.volumeSize = UInt64.ofNat image.size)
    (offset : UInt64) :
    Calls image none (state.readBlock offset)
      (state.readBlockCalls image offset) := by
  unfold readBlock readBlockCalls baseOf
  dsimp only
  cases state.blockMap[saturatingMul (offset / UInt64.ofNat blockSize)
      (UInt64.ofNat blockSize)]? with
  | none => exact readUndescribed_calls hsize _ _
  | some descriptors =>
      cases descriptors with
      | nil => exact readUndescribed_calls hsize _ _
      | cons d rest =>
          simp only [List.isEmpty_cons, Bool.not_false, if_true]
          unfold readDescribed
          dsimp only
          nth_rewrite 1 [hsize]
          refine Calls.bind_ok (readBlockAt_runs _) (readBlockAt_calls _) ?_
          exact Calls.foldlM _ _
            (fun out d _ => patchOverlay_runs hsize out d)
            fun out d _ => patchOverlay_calls hsize out d

theorem readBlockCalls_baseOf (cursor : UInt64) :
    state.readBlockCalls image (baseOf cursor) =
      state.readBlockCalls image cursor := by
  have hnumber : baseOf cursor / UInt64.ofNat blockSize =
      cursor / UInt64.ofNat blockSize := by
    rw [← UInt64.toNat_inj, toNat_div_blockSize, toNat_div_blockSize,
      toNat_baseOf, Nat.mul_div_cancel _ (by decide)]
  unfold readBlockCalls
  rw [baseOf_baseOf, hnumber]

omit [Target] in
/-- What the loop copies in one turn holds no other beginning. -/
theorem beginsTurn_within {offset : UInt64} {written n k : Nat}
    (hn : n ≤ blockSize - position offset written % blockSize)
    (hlate : written < k) (hwithin : k < written + n) :
    beginsTurn offset k = false := by
  unfold position at hn
  simp only [blockSize_eq] at hn
  have hstart : k ≠ 0 := Nat.ne_zero_of_lt hlate
  have haligned : (offset.toNat + k) % 16384 ≠ 0 := by omega
  have hlast : ¬ 2 ^ 64 ≤ offset.toNat + k := by omega
  rw [beginsTurn, blockSize_eq, beq_false_of_ne hstart,
    beq_false_of_ne haligned, decide_eq_false hlast]
  rfl

omit [Target] in
theorem beginsTurn_next {offset : UInt64} {written n : Nat}
    (hn : n = blockSize - position offset written % blockSize) :
    beginsTurn offset (written + n) = true := by
  unfold position at hn
  simp only [blockSize_eq] at hn
  have hnext : (offset.toNat + (written + n)) % 16384 = 0 ∨
      2 ^ 64 ≤ offset.toNat + (written + n) := by omega
  simp only [beginsTurn, blockSize_eq, Bool.or_eq_true, beq_iff_eq,
    decide_eq_true_eq]
  exact hnext.elim (fun h => .inl (.inr h)) .inr

omit [Target] in
theorem turns_step {offset : UInt64} {len written n : Nat}
    (hbegins : beginsTurn offset written = true) (hpos : 0 < n)
    (hn : n ≤ blockSize - position offset written % blockSize)
    (hroom : written + n ≤ len) :
    (List.range' written (len - written)).filter (beginsTurn offset) =
      written :: (List.range' (written + n)
        (len - (written + n))).filter (beginsTurn offset) := by
  obtain ⟨m, rfl⟩ := Nat.exists_eq_succ_of_ne_zero (Nat.ne_of_gt hpos)
  have hsplit : List.range' written (len - written) =
      (written :: List.range' (written + 1) m) ++
        List.range' (written + (m + 1)) (len - (written + (m + 1))) := by
    rw [← List.range'_succ, List.range'_append_1]
    congr 1
    omega
  have hquiet : (List.range' (written + 1) m).filter (beginsTurn offset) =
      [] := by
    refine List.filter_eq_nil_iff.mpr fun k hk => ?_
    obtain ⟨hlow, hhigh⟩ := List.mem_range'_1.mp hk
    rw [beginsTurn_within hn (by omega) (by omega)]
    exact Bool.false_ne_true
  rw [hsplit, List.filter_append, List.filter_cons_of_pos hbegins, hquiet]
  rfl

/-- Induction on the fuel, every turn of the loop standing at the beginning of
another block. -/
theorem readAtLoop_calls {len : Nat}
    (hsize : state.volumeSize = UInt64.ofNat image.size)
    (hlen : len < Target.usizeSize) (offset : UInt64) (fuel : Nat) :
    ∀ written cursor (buf : Vector UInt8 len), len - written < fuel →
      written ≤ len → cursor.toNat = position offset written →
      (written < len → beginsTurn offset written = true) →
      Calls image none (state.readAtLoop fuel written cursor buf)
        (((List.range' written (len - written)).filter
          (beginsTurn offset)).map fun k =>
            state.readBlockCalls image
              (UInt64.ofNat (position offset k))).sum := by
  induction fuel with
  | zero => intro _ _ _ hfuel; exact absurd hfuel (Nat.not_lt_zero _)
  | succ fuel ih =>
      intro written cursor buf hfuel hwritten hcursor hbegins
      rw [readAtLoop]
      by_cases hmore : written < len
      · rw [if_pos hmore]
        have hmod := mod_blockSize_lt cursor.toNat
        have hsmall : blockSize < 2 ^ 32 := by decide
        obtain ⟨within, hsub, hcast⟩ := within_ok cursor
        generalize hn : min (blockSize - cursor.toNat % blockSize)
          (len - written) = n
        have hleft : n ≤ blockSize - position offset written % blockSize := by
          rw [← hcursor, ← hn]
          exact Nat.min_le_left _ _
        have hroom : written + n ≤ len := by omega
        rw [turns_step (hbegins hmore) (by omega) hleft hroom, List.map_cons,
          List.sum_cons, ← hcursor, UInt64.ofNat_toNat,
          ← readBlockCalls_baseOf cursor]
        refine Calls.bind_lift hsub ?_
        refine Calls.bind_ok (readBlock_runs hsize (baseOf cursor))
          (readBlock_calls hsize (baseOf cursor)) ?_
        rw [hcast]
        refine Calls.bind_lift (subUsize_ok (Nat.le_of_lt hmod)) ?_
        refine Calls.bind_lift (subUsize_ok (Nat.le_of_lt hmore)) ?_
        rw [hn]
        have hadd : (addUsize written n : Outcome IoError Nat) =
            .ok (written + n) := if_pos (by omega)
        refine Calls.bind_lift hadd ?_
        refine Calls.bind_lift (addUsize_ok (by omega)) ?_
        obtain ⟨source, filled, hslice, hcopy, _⟩ :=
          copySlice_ok (ε := IoError) (state.blockOf image (baseOf cursor)) buf
            (show cursor.toNat % blockSize + n ≤ blockSize by omega) hroom
        refine Calls.bind_lift hslice ?_
        refine Calls.bind_lift hcopy ?_
        have hnNat : (UInt64.ofNat n).toNat = n :=
          UInt64.toNat_ofNat_of_lt' (show n < 2 ^ 64 by omega)
        apply ih
        · omega
        · exact hroom
        · rw [toNat_saturatingAdd, hnNat, hcursor]
          unfold position
          omega
        · intro hagain
          apply beginsTurn_next
          rw [← hcursor]
          omega
      · rw [if_neg hmore, Nat.sub_eq_zero_of_le (Nat.not_lt.mp hmore)]
        exact Calls.pure buf

theorem readAt_calls {len : Nat}
    (hsize : state.volumeSize = UInt64.ofNat image.size)
    (hlen : len < Target.usizeSize) (offset : UInt64)
    (buf : Vector UInt8 len) :
    Calls image none (state.readAt offset buf)
      (state.readAtCalls image offset len) := by
  have hstart : offset.toNat = position offset 0 := by
    have := offset.toNat_lt
    unfold position
    omega
  have h := readAtLoop_calls hsize hlen offset (len + 1) 0 offset buf (by omega)
    (Nat.zero_le _) hstart fun _ => rfl
  rw [readAtCalls, List.range_eq_range']
  exact h

end SnapshotState

namespace VssSnapshotSource

theorem openSource_calls (image : Image) (index : Nat) :
    Calls image none (openSource index)
      ((volumeOf image).openCalls image +
        (volumeOf image).snapshotCalls image index) := by
  refine Calls.bind_ok (openVolume_runs image) (openVolume_calls image) ?_
  exact Calls.bind_idle (VssVolume.snapshotState_calls rfl index)
    fun _ _ => rfl

theorem readAt_calls {source : VssSnapshotSource}
    (hsize : source.state.volumeSize = UInt64.ofNat image.size) {len : Nat}
    (hlen : len < Target.usizeSize) (offset : UInt64)
    (buf : Vector UInt8 len) :
    Calls image none (source.readAt offset buf)
      (source.state.readAtCalls image offset (source.want offset len)) := by
  have hwant := want_le source offset len
  unfold readAt
  by_cases hzero : source.want offset len = 0
  · rw [if_pos hzero, hzero]
    exact Calls.pure _
  · rw [if_neg hzero]
    refine Calls.bind_idle ?_ fun _ _ => rfl
    exact (SnapshotState.readAt_calls hsize
      (Nat.lt_of_le_of_lt hwant hlen) offset _).mapErr
        (VfsError.io "vss snapshot read")

end VssSnapshotSource

end Calls

end ShadowCopy.Core
