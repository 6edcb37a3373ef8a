import ShadowCopy.Core.Store
import ShadowCopy.Data.Chain

namespace ShadowCopy.Core

open ShadowCopy.Data

/-! Both inner loops read fixed-length records off a block:
`while off + len <= BLOCK_SIZE { .. &block[off..off + len] ..; off += len }`. -/

inductive Flow (σ : Type) where
  | next (state : σ)
  | stop (state : σ)

/-- The record loop; a run that outlasts `fuel` counts as a panic. -/
def scanRecords [Target] (block : List UInt8) (len : Nat)
    (body : σ → List UInt8 → Outcome ε (Flow σ)) :
    Nat → Nat → σ → Outcome ε σ
  | 0, _, _ => .panic
  | fuel + 1, off, state => do
      let stop ← addUsize off len
      if stop ≤ blockSize then
        match ← body state (← sliceRange block off stop) with
        | .next state => scanRecords block len body fuel stop state
        | .stop state => return state
      else
        return state

def records (block : List UInt8) (len : Nat) : Nat → Nat → List (List UInt8)
  | _, 0 => []
  | off, count + 1 =>
      (block.drop off).take len :: records block len (off + len) count

def foldFlow (step : σ → α → Flow σ) : σ → List α → σ
  | state, [] => state
  | state, item :: rest =>
      match step state item with
      | .next state => foldFlow step state rest
      | .stop state => state

theorem foldFlow_next (step : σ → α → σ) (state : σ) (items : List α) :
    foldFlow (fun state item => .next (step state item)) state items =
      items.foldl step state := by
  induction items generalizing state with
  | nil => rfl
  | cons item rest ih => exact ih (step state item)

/-- A loop that breaks at the first item failing `keep` folds the items before
it. -/
theorem foldFlow_takeWhile (keep : α → Bool) (step : σ → α → σ) (state : σ)
    (items : List α) :
    foldFlow
        (fun state item =>
          if keep item then .next (step state item) else .stop state)
        state items =
      (items.takeWhile keep).foldl step state := by
  induction items generalizing state with
  | nil => rfl
  | cons item rest ih =>
      rw [foldFlow]
      cases hkeep : keep item with
      | false => simp [hkeep]
      | true =>
          rw [List.takeWhile_cons_of_pos hkeep, List.foldl_cons]
          exact ih (step state item)

/-- The record loop never panics and folds the `count` records that fit:
induction on how many are left. -/
theorem scanRecords_ok [Target] {block : List UInt8} (len : Nat)
    (body : σ → List UInt8 → Outcome ε (Flow σ))
    (step : σ → List UInt8 → Flow σ)
    (hbody : ∀ state record, record.length = len →
      body state record = .ok (step state record))
    (hblock : block.length = blockSize) (count : Nat) :
    ∀ fuel off state, off + count * len ≤ blockSize →
      blockSize < off + (count + 1) * len → count < fuel →
      off + (count + 1) * len < 2 ^ 32 →
      scanRecords block len body fuel off state =
        .ok (foldFlow step state (records block len off count)) := by
  induction count with
  | zero =>
      intro fuel off state hfits hend hfuel hsmall
      obtain ⟨fuel, rfl⟩ := Nat.exists_eq_succ_of_ne_zero
        (Nat.ne_of_gt hfuel)
      have hstop : ¬ off + len ≤ blockSize := by omega
      rw [scanRecords, addUsize_ok (by omega), Outcome.ok_bind, if_neg hstop]
      rfl
  | succ count ih =>
      intro fuel off state hfits hend hfuel hsmall
      obtain ⟨fuel, rfl⟩ := Nat.exists_eq_succ_of_ne_zero
        (Nat.ne_of_gt (Nat.zero_lt_of_lt hfuel))
      simp only [Nat.succ_mul] at hfits hend hsmall
      have hstop : off + len ≤ blockSize := by omega
      have hlength : ((block.drop off).take (off + len - off)).length = len := by
        rw [List.length_take, List.length_drop]
        omega
      rw [scanRecords, addUsize_ok (by omega), Outcome.ok_bind, if_pos hstop,
        sliceRange_ok (by omega) (by omega), Outcome.ok_bind,
        hbody state _ hlength, Outcome.ok_bind, records, foldFlow,
        Nat.add_sub_cancel_left]
      cases step state ((block.drop off).take len) with
      | stop state => rfl
      | next state =>
          exact ih fuel (off + len) state (by omega) (by rw [Nat.succ_mul]; omega)
            (by omega) (by rw [Nat.succ_mul]; omega)

/-! The three chain walks share one loop and differ in what they ask of a
block, what they collect from it and how they find the next one. -/

structure ChainWalk (ε η σ : Type) where
  inspect : List UInt8 → Outcome ε (Option η)
  collect : σ → η → List UInt8 → Outcome ε σ
  nextOffset : η → List UInt8 → Outcome ε UInt64

namespace ChainWalk

variable [FromIoError ε]

/-- `while next != 0 && blocks < cap`, with `remaining = cap - blocks`. -/
def run (walk : ChainWalk ε η σ) (volumeSize : UInt64) :
    Nat → List UInt64 → UInt64 → σ → ReadM ε σ
  | 0, _, _, state => return state
  | remaining + 1, visited, next, state => do
      if next = 0 then
        return state
      else if next ∈ visited then
        return state  -- cycle
      else
        match checkedAdd next (UInt64.ofNat blockSize) with
        | none => return state  -- overflow
        | some stop =>
            if stop ≤ volumeSize then
              let _ ← ReadM.seekStart next
              let block ← ReadM.readExact blockSize
              match ← ReadM.lift (walk.inspect block.toList) with
              | none => return state
              | some header =>
                  let state ←
                    ReadM.lift (walk.collect state header block.toList)
                  let following ←
                    ReadM.lift (walk.nextOffset header block.toList)
                  walk.run volumeSize remaining (next :: visited) following
                    state
            else
              return state  -- out of range

/-- What the three parts of a walk compute on a whole block. -/
structure Computes (walk : ChainWalk ε η σ) (accepts : List UInt8 → Bool)
    (next : List UInt8 → UInt64) (gather : σ → List UInt8 → σ) : Prop where
  rejected : ∀ block, block.length = blockSize → accepts block = false →
    walk.inspect block = .ok none
  accepted : ∀ block, block.length = blockSize → accepts block = true →
    ∃ header, walk.inspect block = .ok (some header) ∧
      (∀ state, walk.collect state header block = .ok (gather state block)) ∧
      walk.nextOffset header block = .ok (next block)

end ChainWalk

end ShadowCopy.Core

namespace ShadowCopy.Data.Image

open ShadowCopy.Core

/-- The block at a volume offset, as the byte slice the parsers see. -/
def blockAt (image : Image) (off : UInt64) : List UInt8 :=
  (image.read off.toNat blockSize).toList

@[simp] theorem length_blockAt (image : Image) (off : UInt64) :
    (image.blockAt off).length = blockSize := by
  simp [blockAt]

def blockFits (image : Image) (off : UInt64) : Bool :=
  off != 0 && decide (off.toNat + blockSize ≤ image.size)

/-- The pointer structure a chain walk sees in an image. -/
def links (image : Image) (accepts : List UInt8 → Bool)
    (next : List UInt8 → UInt64) : Links UInt64 where
  fits := image.blockFits
  accepts := fun off => accepts (image.blockAt off)
  next := fun off => next (image.blockAt off)

@[simp] theorem links_fits (image : Image) (accepts : List UInt8 → Bool)
    (next : List UInt8 → UInt64) (off : UInt64) :
    (image.links accepts next).fits off = image.blockFits off := rfl

@[simp] theorem links_accepts (image : Image) (accepts : List UInt8 → Bool)
    (next : List UInt8 → UInt64) (off : UInt64) :
    (image.links accepts next).accepts off = accepts (image.blockAt off) := rfl

@[simp] theorem links_next (image : Image) (accepts : List UInt8 → Bool)
    (next : List UInt8 → UInt64) (off : UInt64) :
    (image.links accepts next).next off = next (image.blockAt off) := rfl

theorem toNat_volumeSize (image : Image) :
    (UInt64.ofNat image.size).toNat = image.size :=
  UInt64.toNat_ofNat_of_lt' image.size_lt

/-- The range check every read starts with: the checked end of a range lies
inside the volume exactly when the unbounded one does. -/
theorem rangeCheck (image : Image) (off : UInt64) {n : Nat}
    (hn : n < 2 ^ 64) :
    (off.toNat + n ≤ image.size ∧
      ∃ stop, checkedAdd off (UInt64.ofNat n) = some stop ∧
        stop ≤ UInt64.ofNat image.size ∧ stop.toNat = off.toNat + n) ∨
    (¬ off.toNat + n ≤ image.size ∧
      ∀ stop, checkedAdd off (UInt64.ofNat n) = some stop →
        ¬ stop ≤ UInt64.ofNat image.size) := by
  have hnat : (UInt64.ofNat n).toNat = n := UInt64.toNat_ofNat_of_lt' hn
  have hle : ∀ stop : UInt64, stop.toNat = off.toNat + n →
      (stop ≤ UInt64.ofNat image.size ↔ off.toNat + n ≤ image.size) := by
    intro stop hstop
    rw [UInt64.le_iff_toNat_le, image.toNat_volumeSize, hstop]
  by_cases hfits : off.toNat + n ≤ image.size
  · have hlt : off.toNat + (UInt64.ofNat n).toNat < 2 ^ 64 := by
      rw [hnat]
      exact Nat.lt_of_le_of_lt hfits image.size_lt
    obtain ⟨stop, hstop, hstopNat⟩ := checkedAdd_of_lt hlt
    rw [hnat] at hstopNat
    exact .inl ⟨hfits, stop, hstop, (hle stop hstopNat).mpr hfits, hstopNat⟩
  · refine .inr ⟨hfits, fun stop hstop => ?_⟩
    have hstopNat := (checkedAdd_eq_some.mp hstop).2
    rw [hnat] at hstopNat
    exact mt (hle stop hstopNat).mp hfits

end ShadowCopy.Data.Image

namespace ShadowCopy.Core.ChainWalk

open ShadowCopy.Data

/-- A walk folds the blocks of the chain it follows: induction on the blocks
still allowed, the visited set being the chain so far. -/
theorem run_runs [FromIoError ε] {walk : ChainWalk ε η σ}
    {accepts : List UInt8 → Bool} {next : List UInt8 → UInt64}
    {gather : σ → List UInt8 → σ} (h : walk.Computes accepts next gather)
    (image : Image) (remaining : Nat) (visited : List UInt64)
    (first : UInt64) (state : σ) :
    Runs image none
      (walk.run (UInt64.ofNat image.size) remaining visited first state)
      (.ok (((image.links accepts next).collected remaining visited
        first).foldl (fun state off => gather state (image.blockAt off))
          state))
      none := by
  induction remaining generalizing visited first state with
  | zero => exact Runs.pure state
  | succ remaining ih =>
      rw [run, Links.collected]
      by_cases hzero : first = 0
      · have hfits : ¬ (image.links accepts next).fits first = true := by
          simp [Image.blockFits, hzero]
        rw [if_pos hzero, if_neg fun h => hfits h.1]
        exact Runs.pure state
      rw [if_neg hzero]
      by_cases hseen : first ∈ visited
      · rw [if_pos hseen, if_neg fun h => h.2.1 hseen]
        exact Runs.pure state
      rw [if_neg hseen]
      rcases image.rangeCheck first (show blockSize < 2 ^ 64 by decide) with
        ⟨hrange, stop, hstop, hle, _⟩ | ⟨hrange, hpast⟩
      · have hfits : (image.links accepts next).fits first = true := by
          simp [Image.links, Image.blockFits, hzero, hrange]
        simp only [hstop, if_pos hle, hfits, hseen, not_false_eq_true,
          true_and]
        refine Runs.bind_ok (Runs.seekStart first) ?_
        refine Runs.bind_ok (Runs.readExact first.toNat blockSize hrange).forget ?_
        cases haccepts : accepts (image.blockAt first) with
        | false =>
            refine Runs.bind_ok
              ((Runs.lift _).congr (h.rejected _ (by simp) haccepts)) ?_
            have : ¬ (image.links accepts next).accepts first = true := by
              simp [haccepts]
            rw [if_neg this]
            exact Runs.pure state
        | true =>
            obtain ⟨header, hinspect, hcollect, hnext⟩ :=
              h.accepted _ (by simp) haccepts
            refine Runs.bind_ok ((Runs.lift _).congr hinspect) ?_
            refine Runs.bind_ok ((Runs.lift _).congr (hcollect state)) ?_
            refine Runs.bind_ok ((Runs.lift _).congr hnext) ?_
            have : (image.links accepts next).accepts first = true := haccepts
            rw [if_pos this, List.foldl_cons]
            exact ih (first :: visited) (next (image.blockAt first))
              (gather state (image.blockAt first))
      · have hfits : ¬ (image.links accepts next).fits first = true := by
          simp [Image.blockFits, hrange]
        rw [if_neg fun h => hfits h.1]
        cases hstop : checkedAdd first (UInt64.ofNat blockSize) with
        | none => exact Runs.pure state
        | some stop =>
            simp only [if_neg (hpast stop hstop)]
            exact Runs.pure state

end ShadowCopy.Core.ChainWalk
