import ShadowCopy.Data.Joined
import ShadowCopy.Reconstruction.Bounds

namespace ShadowCopy.Core

open ShadowCopy.Data

/-! Which bit of which bitmap block answers for a volume block. -/

def payloadLen : Nat := blockSize - storeBlockHeaderLen

/-- The volume blocks one bitmap block answers for. -/
def pieceBlocks : Nat := 8 * payloadLen

example : pieceBlocks = 130048 := rfl

/-- A bitmap block as it lies on the volume: `relative_offset` and payload. -/
def bitmapBlockAt (image : Image) (v : UInt64) :
    UInt64 × Vector UInt8 payloadLen :=
  (image.u64 (v.toNat + 24),
    image.read (v.toNat + storeBlockHeaderLen) payloadLen)

/-- The bit for block `n` is set in the pieces in `relative_offset` order. -/
def Marked (pieces : List (UInt64 × Vector UInt8 payloadLen)) (n : UInt64) :
    Prop :=
  ∃ piece byte,
    (pieces.mergeSort fun left right =>
      left.1 ≤ right.1)[n.toNat / pieceBlocks]? = some piece ∧
    piece.2[n.toNat % pieceBlocks / 8]? = some byte ∧
    byte.toNat.testBit (n.toNat % 8) = true

theorem Marked.lt {pieces : List (UInt64 × Vector UInt8 payloadLen)}
    {n : UInt64} (h : Marked pieces n) :
    n.toNat < pieces.length * pieceBlocks := by
  obtain ⟨piece, byte, hpiece, _, _⟩ := h
  obtain ⟨hlt, _⟩ := List.getElem?_eq_some_iff.mp hpiece
  rw [List.length_mergeSort] at hlt
  exact (Nat.div_lt_iff_lt_mul (by decide)).mp hlt

theorem bitmapPiece_blockAt (image : Image) (v : UInt64) :
    bitmapPiece (image.blockAt v) =
      ((bitmapBlockAt image v).1, (bitmapBlockAt image v).2.toList) := by
  have hpayload : (image.blockAt v).drop storeBlockHeaderLen =
      (image.read (v.toNat + storeBlockHeaderLen) payloadLen).toList := by
    have hlength : ((image.blockAt v).drop storeBlockHeaderLen).length =
        payloadLen := by
      rw [List.length_drop, image.length_blockAt, payloadLen]
    rw [← image.slice_read (show storeBlockHeaderLen + payloadLen ≤ blockSize
      by decide), ← Image.blockAt, ← hlength, List.take_length]
  have hoffset : u64At (image.blockAt v) 24 = image.u64 (v.toNat + 24) :=
    image.u64At_read (by decide)
  rw [bitmapPiece, hpayload, hoffset]
  rfl

theorem joinPieces_eq (pieces : List (UInt64 × Vector UInt8 payloadLen)) :
    joinPieces (pieces.map fun piece => (piece.1, piece.2.toList)) =
      (pieces.mergeSort fun left right => left.1 ≤ right.1).flatMap
        fun piece => piece.2.toList :=
  joinPieces_map _ pieces

theorem bitmapOf_eq (image : Image) (first : UInt64) :
    bitmapOf image first =
      joinPieces (((storeChain image bitmapRecordType first).map
        (bitmapBlockAt image)).map fun piece => (piece.1, piece.2.toList)) := by
  rw [bitmapOf, List.map_map]
  apply congrArg joinPieces
  exact List.map_congr_left fun v _ => bitmapPiece_blockAt image v

section Lookup

variable [Target] {state : SnapshotState}

theorem bit_eq_getElem (hfits : state.bitmap.length ≤ Target.usizeSize)
    (n : UInt64) :
    state.bit n = true ↔ ∃ byte, state.bitmap[n.toNat / 8]? = some byte ∧
      byte.toNat.testBit (n.toNat % 8) = true := by
  have hbyte : (n / 8).toNat = n.toNat / 8 := UInt64.toNat_div ..
  have hbit : (n % 8).toNat = n.toNat % 8 := UInt64.toNat_mod ..
  have hlookup : (usizeTryFrom (n / 8)).bind (state.bitmap[·]?) =
      state.bitmap[n.toNat / 8]? := by
    unfold usizeTryFrom
    rw [hbyte]
    split
    · rfl
    · rename_i hlarge
      exact (List.getElem?_eq_none (by omega)).symm
  rw [SnapshotState.bit, hlookup, hbit]
  cases state.bitmap[n.toNat / 8]? with
  | none => simp
  | some value => simp

theorem bit_eq_true_iff_marked
    {pieces : List (UInt64 × Vector UInt8 payloadLen)}
    (hbitmap : state.bitmap =
      joinPieces (pieces.map fun piece => (piece.1, piece.2.toList)))
    (hfits : state.bitmap.length ≤ Target.usizeSize) (n : UInt64) :
    state.bit n = true ↔ Marked pieces n := by
  have hpiece : n.toNat / 8 / payloadLen = n.toNat / pieceBlocks := by
    rw [Nat.div_div_eq_div_mul, pieceBlocks]
  have hbyte : n.toNat / 8 % payloadLen = n.toNat % pieceBlocks / 8 := by
    rw [pieceBlocks, Nat.mod_mul_right_div_self]
  rw [bit_eq_getElem hfits, hbitmap, joinPieces_eq,
    getElem?_flatMap_of_length (by decide)
      (fun piece _ => Vector.length_toList), hpiece, hbyte, Marked]
  constructor
  · rintro ⟨byte, hlookup, hset⟩
    obtain ⟨piece, hat, hin⟩ := Option.bind_eq_some_iff.mp hlookup
    exact ⟨piece, byte, hat, by rw [← hin, Vector.getElem?_toList], hset⟩
  · rintro ⟨piece, byte, hat, hin, hset⟩
    refine ⟨byte, ?_, hset⟩
    rw [hat, Option.bind_some, Vector.getElem?_toList, hin]

end Lookup

/-- The bitmap of a chain answers for every block from the block of the chain
that holds its bit, and does not depend on how the chain is linked. -/
theorem bitmap_addresses [Target] (image : Image) (first : UInt64) :
    ∃ nodes bitmap, CollectsLongest image
        (isStoreBlockAt image bitmapRecordType) maxStoreBlocks first
        bitmapWalk nodes ∧
      Returns image (buildBitmap first (UInt64.ofNat image.size)) bitmap ∧
      (Target.usizeBits = 64 → bitmap.length ≤ Target.usizeSize) ∧
      (bitmap.length ≤ Target.usizeSize →
        ∀ state : SnapshotState, state.bitmap = bitmap → ∀ n,
          ∃ answer, state.isUnallocated n = .ok answer ∧
            (answer = true ↔ Marked (nodes.map (bitmapBlockAt image)) n) ∧
            (nodes.length * pieceBlocks ≤ n.toNat → answer = false)) ∧
      (((nodes.map (bitmapBlockAt image)).map Prod.fst).Nodup →
        ∀ relinked start others, CollectsLongest relinked
            (isStoreBlockAt relinked bitmapRecordType) maxStoreBlocks start
            bitmapWalk others →
          (nodes.map (bitmapBlockAt image)).Perm
            (others.map (bitmapBlockAt relinked)) →
          Returns relinked
            (buildBitmap start (UInt64.ofNat relinked.size)) bitmap) := by
  have hcollects := bitmapWalk_collects image first
  have hlength := length_bitmapOf image first
  refine ⟨_, _, hcollects, (buildBitmap_runs first).yields rfl,
    ?_, ?_, ?_⟩
  · intro hbits
    have hcap := hcollects.longest.valid.length_le
    rw [hlength, Target.usizeSize, hbits]
    exact Nat.le_trans (Nat.mul_le_mul_left _ hcap) (by decide)
  · intro hfits state hstate n
    have hmarked : state.bit n = true ↔
        Marked ((storeChain image bitmapRecordType first).map
          (bitmapBlockAt image)) n :=
      bit_eq_true_iff_marked (hstate.trans (bitmapOf_eq image first))
        (hstate ▸ hfits) n
    refine ⟨_, state.isUnallocated_ok n, hmarked, fun hpast => ?_⟩
    rw [← Bool.not_eq_true, hmarked]
    intro hset
    have hlt := hset.lt
    rw [List.length_map] at hlt
    exact absurd hlt (Nat.not_lt.mpr hpast)
  · intro hdistinct relinked start others hothers hperm
    obtain rfl := hothers.longest.unique (bitmapWalk_collects relinked start).longest
    have hsame : bitmapOf relinked start = bitmapOf image first := by
      rw [bitmapOf_eq, bitmapOf_eq, joinPieces_eq, joinPieces_eq,
        mergeSort_eq_of_perm hperm hdistinct]
    rw [← hsame]
    exact (buildBitmap_runs start).yields rfl

end ShadowCopy.Core
