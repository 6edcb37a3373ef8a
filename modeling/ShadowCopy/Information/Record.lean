import ShadowCopy.Core.Information
import ShadowCopy.Information.Strings
import ShadowCopy.Reconstruction.Provenance

namespace ShadowCopy.Core

open ShadowCopy.Data

/-! Store information as the format lays it out, and what is read back. -/

/-- A `u16` length and as many bytes of text. -/
structure StringAt (image : Image) (off : Nat) (text : String) : Prop where
  size : (image.u16 off).toNat = (utf16leBytes text).length
  bytes : (image.read (off + 2) (utf16leBytes text).length).toList =
    utf16leBytes text

namespace StoreInfo

def operatingEnd (info : StoreInfo) : Nat :=
  66 + (utf16leBytes info.operatingMachine).length

def recordLen (info : StoreInfo) : Nat :=
  info.operatingEnd + 2 + (utf16leBytes info.serviceMachine).length

/-- What the first `n` bytes of the record still say. -/
def cut (info : StoreInfo) (n : Nat) : StoreInfo where
  shadowCopyId :=
    if 32 ≤ n then info.shadowCopyId else Vector.replicate 16 0
  shadowCopySetId :=
    if 48 ≤ n then info.shadowCopySetId else Vector.replicate 16 0
  snapshotContext := if 52 ≤ n then info.snapshotContext else 0
  attributes := ⟨if 60 ≤ n then info.attributes.bits else 0⟩
  operatingMachine :=
    if info.operatingEnd ≤ n then info.operatingMachine else ""
  serviceMachine := if info.recordLen ≤ n then info.serviceMachine else ""

/-- What is cut off had nothing to say. -/
structure Whole (info : StoreInfo) (n : Nat) : Prop where
  shadowCopyId : 32 ≤ n ∨ info.shadowCopyId = Vector.replicate 16 0
  shadowCopySetId : 48 ≤ n ∨ info.shadowCopySetId = Vector.replicate 16 0
  snapshotContext : 52 ≤ n ∨ info.snapshotContext = 0
  attributes : 60 ≤ n ∨ info.attributes.bits = 0
  operatingMachine : info.operatingEnd ≤ n ∨ info.operatingMachine = ""
  serviceMachine : info.recordLen ≤ n ∨ info.serviceMachine = ""

theorem kept_iff {p : Prop} [Decidable p] {value default : α} :
    (if p then value else default) = value ↔ p ∨ value = default := by
  split
  · rename_i h
    exact iff_of_true rfl (.inl h)
  · rename_i h
    rw [or_iff_right h, eq_comm]

theorem cut_eq_iff (info : StoreInfo) (n : Nat) :
    info.cut n = info ↔ info.Whole n := by
  constructor
  · intro h
    exact ⟨kept_iff.mp (congrArg shadowCopyId h),
      kept_iff.mp (congrArg shadowCopySetId h),
      kept_iff.mp (congrArg snapshotContext h),
      kept_iff.mp (congrArg (fun info => info.attributes.bits) h),
      kept_iff.mp (congrArg operatingMachine h),
      kept_iff.mp (congrArg serviceMachine h)⟩
  · intro h
    rw [cut, kept_iff.mpr h.shadowCopyId, kept_iff.mpr h.shadowCopySetId,
      kept_iff.mpr h.snapshotContext, kept_iff.mpr h.attributes,
      kept_iff.mpr h.operatingMachine, kept_iff.mpr h.serviceMachine]

theorem operatingEnd_le (info : StoreInfo) :
    66 ≤ info.operatingEnd ∧ info.operatingEnd + 2 ≤ info.recordLen :=
  ⟨Nat.le_add_right _ _, Nat.le_add_right _ _⟩

theorem whole_of_recordLen_le {info : StoreInfo} {n : Nat}
    (h : info.recordLen ≤ n) : info.Whole n := by
  obtain ⟨hop, hsvc⟩ := info.operatingEnd_le
  exact ⟨.inl (by omega), .inl (by omega), .inl (by omega), .inl (by omega),
    .inl (by omega), .inl h⟩

theorem cut_min {info : StoreInfo} {m : Nat} (h : info.recordLen ≤ m)
    (n : Nat) : info.cut (min m n) = info.cut n := by
  obtain ⟨hop, hsvc⟩ := info.operatingEnd_le
  have hmin : ∀ place, place ≤ info.recordLen →
      (place ≤ min m n ↔ place ≤ n) := by
    intro place hplace
    omega
  simp only [cut, hmin 32 (by omega), hmin 48 (by omega), hmin 52 (by omega),
    hmin 60 (by omega), hmin _ (show info.operatingEnd ≤ _ by omega),
    hmin _ (Nat.le_refl info.recordLen)]

end StoreInfo

/-- Identifiers at 16 and 32, context at 48, attributes at 56, and then the
two strings. -/
structure RecordAt (image : Image) (off : Nat) (info : StoreInfo) : Prop where
  shadowCopyId : image.guid (off + 16) = info.shadowCopyId
  shadowCopySetId : image.guid (off + 32) = info.shadowCopySetId
  snapshotContext : image.u32 (off + 48) = info.snapshotContext
  attributes : image.u32 (off + 56) = info.attributes.bits
  operatingMachine : StringAt image (off + 64) info.operatingMachine
  serviceMachine :
    StringAt image (off + info.operatingEnd) info.serviceMachine

section Truncated

variable {image : Image} {off n k : Nat}

theorem bytesAt_read_cut (size : Nat) :
    bytesAt size (image.read off n).toList k =
      if k + size ≤ n then image.read (off + k) size
      else Vector.replicate size 0 := by
  split
  · rename_i h
    exact image.bytesAt_read size h
  · rename_i h
    exact bytesAt_eq_zero (by
      rw [Vector.length_toList]
      exact Nat.not_le.mp h)

theorem u16At_read_cut :
    u16At (image.read off n).toList k =
      if k + 2 ≤ n then image.u16 (off + k) else 0 := by
  rw [u16At, bytesAt_read_cut]
  split
  · rfl
  · rfl

theorem u32At_read_cut :
    u32At (image.read off n).toList k =
      if k + 4 ≤ n then image.u32 (off + k) else 0 := by
  rw [u32At, bytesAt_read_cut]
  split
  · rfl
  · rfl

theorem decodeString_outside {buf : List UInt8} {start len : Nat}
    (h : buf.length < start + len) : decodeString buf start len = "" :=
  (decodeString_spanText buf start len).outside h

theorem StringAt.decodeString_read {text : String}
    (h : StringAt image (off + k) text) :
    decodeString (image.read off n).toList (k + 2)
        (u16At (image.read off n).toList k).toNat =
      if k + 2 + (utf16leBytes text).length ≤ n then text else "" := by
  have hlength : (image.read off n).toList.length = n := Vector.length_toList
  rw [u16At_read_cut]
  by_cases hsize : k + 2 ≤ n
  · rw [if_pos hsize, h.size]
    split
    · rename_i hin
      rw [decodeString, getRange?, hlength, if_pos ⟨Nat.le_add_right _ _, hin⟩,
        Nat.add_sub_cancel_left, image.slice_read hin, ← Nat.add_assoc,
        h.bytes]
      exact utf16leString_bytes text
    · rename_i hout
      apply decodeString_outside
      rw [hlength]
      exact Nat.not_le.mp hout
  · rw [if_neg hsize, if_neg (by omega)]
    apply decodeString_outside
    rw [hlength]
    exact Nat.not_le.mp hsize

/-- Each field is read from its own place, or is empty. -/
theorem RecordAt.decode_read {info : StoreInfo} (h : RecordAt image off info)
    (n : Nat) : StoreInfo.decode (image.read off n).toList = info.cut n := by
  have hlength : (image.read off n).toList.length = n := Vector.length_toList
  obtain ⟨hop, hsvc⟩ := info.operatingEnd_le
  have hoperating : decodeString (image.read off n).toList 66
      (u16At (image.read off n).toList 64).toNat =
        if info.operatingEnd ≤ n then info.operatingMachine else "" :=
    h.operatingMachine.decodeString_read
  have hservice : decodeString (image.read off n).toList
      (66 + (u16At (image.read off n).toList 64).toNat + 2)
      (u16At (image.read off n).toList
        (66 + (u16At (image.read off n).toList 64).toNat)).toNat =
        if info.recordLen ≤ n then info.serviceMachine else "" := by
    by_cases hsize : 64 + 2 ≤ n
    · have hend : 66 + (u16At (image.read off n).toList 64).toNat =
          info.operatingEnd := by
        rw [u16At_read_cut, if_pos hsize, h.operatingMachine.size,
          StoreInfo.operatingEnd]
      rw [hend]
      exact h.serviceMachine.decodeString_read
    · rw [u16At_read_cut, if_neg hsize, if_neg (by omega), u16At_read_cut]
      rw [if_neg (show ¬ 66 + (0 : UInt16).toNat + 2 ≤ n from
        fun hle => hsize (Nat.le_trans (by decide) hle))]
      apply decodeString_outside
      rw [hlength]
      exact Nat.lt_of_lt_of_le (Nat.not_le.mp hsize) (by decide)
  rw [StoreInfo.decode, StoreInfo.cut, hoperating, hservice, bytesAt_read_cut, bytesAt_read_cut, u32At_read_cut,
    u32At_read_cut, ← h.shadowCopyId, ← h.shadowCopySetId, ← h.snapshotContext,
    ← h.attributes]
  rfl

end Truncated

def StoreInfo.fixedFields (info : StoreInfo) :
    Guid × Guid × UInt32 × AttributeFlags :=
  (info.shadowCopyId, info.shadowCopySetId, info.snapshotContext,
    info.attributes)

theorem StoreInfo.fixedFields_congr {buf other : List UInt8}
    (h : other.take 60 = buf.take 60) :
    (StoreInfo.decode other).fixedFields =
      (StoreInfo.decode buf).fixedFields := by
  have hbytes : ∀ n off, off + n ≤ 60 →
      bytesAt n other off = bytesAt n buf off := by
    intro n off hin
    rw [← bytesAt_take hin, h, bytesAt_take hin]
  have hid := hbytes 16 16 (by decide)
  have hset := hbytes 16 32 (by decide)
  have hcontext := hbytes 4 48 (by decide)
  have hattributes := hbytes 4 56 (by decide)
  simp only [fixedFields, decode, u32At, hid, hset, hcontext, hattributes]

/-- A record in its place: behind the header of a store, inside the volume,
and within what the header declares. -/
structure Recorded (image : Image) (volume : VssVolume) (index : Nat)
    (headerOff : UInt64) (info : StoreInfo) : Prop where
  header : volume.HeaderAt index headerOff
  record : RecordAt image (headerOff.toNat + storeBlockHeaderLen) info
  inside : headerOff.toNat + storeBlockHeaderLen + info.recordLen ≤ image.size
  declared : info.recordLen ≤ declaredSize image headerOff

namespace Recorded

variable {image : Image} {volume : VssVolume} {index : Nat}
  {headerOff : UInt64} {info : StoreInfo}

theorem recordLen_le (h : Recorded image volume index headerOff info) :
    info.recordLen ≤ maxStoreInfoLen := by
  have hop := (image.u16
    (headerOff.toNat + storeBlockHeaderLen + 64)).toNat_lt
  have hsvc := (image.u16
    (headerOff.toNat + storeBlockHeaderLen + info.operatingEnd)).toNat_lt
  rw [h.record.operatingMachine.size] at hop
  rw [h.record.serviceMachine.size] at hsvc
  rw [StoreInfo.recordLen, StoreInfo.operatingEnd, maxStoreInfoLen]
  omega

theorem recordLen_le_tailSize (h : Recorded image volume index headerOff info) :
    info.recordLen ≤ tailSize image headerOff := by
  have hin := h.inside
  rw [tailSize]
  omega

/-- Of the three bounds on the read, only the tail of the volume can cut the
record. -/
theorem returns_cut [Target] (h : Recorded image volume index headerOff info)
    (hopen : openVolume.runOn image = .ok volume) :
    Returns image (volume.storeInfo index)
      (info.cut (tailSize image headerOff % Target.usizeSize)) := by
  obtain rfl := Outcome.ok.inj ((openVolume_runs image).runOn.symm.trans hopen)
  have hfits : headerOff.toNat + storeBlockHeaderLen ≤ image.size :=
    Nat.le_trans (Nat.le_add_right _ _) h.inside
  obtain ⟨d, hstore, hpointer⟩ := h.header
  have hanswer : (volumeOf image).storeInfoOf image index =
      .ok (storeInfoAt image headerOff) := by
    simp only [VssVolume.storeInfoOf, hstore, hpointer, if_pos hfits]
  have hcut : storeInfoAt image headerOff =
      info.cut (tailSize image headerOff % Target.usizeSize) := by
    rw [storeInfoAt, h.record.decode_read, storeInfoLen_eq hfits,
      StoreInfo.cut_min (Nat.le_min.mpr ⟨h.declared, h.recordLen_le⟩)]
  rw [← hcut]
  exact (VssVolume.storeInfo_runs rfl index).yields hanswer

theorem whole_of_bits64 [Target]
    (h : Recorded image volume index headerOff info)
    (hbits : Target.usizeBits = 64) :
    info.Whole (tailSize image headerOff % Target.usizeSize) := by
  have hlt : tailSize image headerOff < Target.usizeSize := by
    rw [Target.usizeSize, hbits]
    exact Nat.lt_of_le_of_lt (Nat.sub_le _ _) image.size_lt
  rw [Nat.mod_eq_of_lt hlt]
  exact StoreInfo.whole_of_recordLen_le h.recordLen_le_tailSize

end Recorded

/-- A record comes back exactly when the cast of the volume's tail leaves it
whole, as it does on a 64-bit target. A string is the text of its declared
span whatever the bytes, and the fields before the strings do not depend on
what follows them. -/
theorem storeInfo_decodes [Target] :
    (∀ image volume index headerOff info,
      openVolume.runOn image = .ok volume →
      Recorded image volume index headerOff info →
        ∃ answer, Returns image (volume.storeInfo index) answer ∧
          (answer = info ↔
            info.Whole (tailSize image headerOff % Target.usizeSize)) ∧
          (Target.usizeBits = 64 → answer = info)) ∧
    ∀ buf, ∃ answer,
      (StoreInfo.parse buf : Outcome VssError StoreInfo) = .ok answer ∧
      SpanText buf 66 (u16At buf 64).toNat answer.operatingMachine ∧
      SpanText buf (66 + (u16At buf 64).toNat + 2)
        (u16At buf (66 + (u16At buf 64).toNat)).toNat answer.serviceMachine ∧
      ∀ other : List UInt8, other.take 60 = buf.take 60 → ∃ same,
        (StoreInfo.parse other : Outcome VssError StoreInfo) = .ok same ∧
        same.fixedFields = answer.fixedFields := by
  constructor
  · intro image volume index headerOff info hopen h
    refine ⟨_, h.returns_cut hopen, info.cut_eq_iff _, fun hbits => ?_⟩
    exact (info.cut_eq_iff _).mpr (h.whole_of_bits64 hbits)
  · intro buf
    refine ⟨_, StoreInfo.parse_ok buf, decodeString_spanText _ _ _,
      decodeString_spanText _ _ _, fun other hsame => ?_⟩
    exact ⟨_, StoreInfo.parse_ok other, StoreInfo.fixedFields_congr hsame⟩

/-! A record with 4 GiB behind the header. -/

def wide : Image :=
  .ofPatches (32896 + 2 ^ 32) (by decide)
    [ (0x1E00, vssIdentifier.toList), (0x1E30, encodeU64 16384),
      (16384, vssIdentifier.toList), (16404, [2]),
      (16512, [2]), (16528, [1]),
      (16640, [3]), (16656, [1]), (16672, encodeU64 32768),
      (16688, encodeU64 65536),
      (32768, vssIdentifier.toList), (32788, [4]), (32816, encodeU64 74),
      (32912, [7]), (32928, [8]), (32944, [0x1D]), (32952, [1]),
      (32960, [2]), (32962, [0x41, 0x00]),
      (32964, [4]), (32966, [0x34, 0xD8, 0x1E, 0xDD]) ]

def wideInfo : StoreInfo :=
  ⟨sampleGuid 7, sampleGuid 8, 0x1D, ⟨1⟩, String.ofList ['A'],
    String.ofList [Char.ofNat 0x1D11E]⟩

theorem wide_walkedEntries :
    walkedEntries wide (volumeOf wide) =
      [ .snapshot ⟨sampleGuid 1, 0, 0, 0, 0, none, none⟩,
        .storePointer (sampleGuid 1) 32768 65536 ] ++
        List.replicate 125 .empty := by
  refine (walkedEntries_ofPatches 16384 2 (by decide) (by decide +kernel)
    (by decide +kernel) (by decide +kernel) (by decide +kernel)
    (by decide +kernel) (by decide +kernel)).trans ?_
  decide +kernel

theorem wide_recorded :
    Recorded wide (volumeOf wide) 0 32768 wideInfo := by
  have hoperating : utf16leBytes wideInfo.operatingMachine = [0x41, 0x00] := by
    rw [utf16leBytes, wideInfo, String.toList_ofList]
    rfl
  have hservice : utf16leBytes wideInfo.serviceMachine =
      [0x34, 0xD8, 0x1E, 0xDD] := by
    rw [utf16leBytes, wideInfo, String.toList_ofList]
    rfl
  have hoperatingEnd : wideInfo.operatingEnd = 68 := by
    rw [StoreInfo.operatingEnd, hoperating]
    rfl
  have hrecordLen : wideInfo.recordLen = 74 := by
    rw [StoreInfo.recordLen, hoperatingEnd, hservice]
    rfl
  refine ⟨⟨⟨sampleGuid 1, 0, 0, 0, 0, some 32768, some 65536⟩, ?_, rfl⟩,
    ⟨by decide +kernel, by decide +kernel, by decide +kernel,
      by decide +kernel, ⟨?_, ?_⟩, ⟨?_, ?_⟩⟩, ?_, ?_⟩
  · rw [volumeOf_stores_eq, wide_walkedEntries]
    decide +kernel
  · rw [hoperating]
    decide +kernel
  · rw [hoperating]
    decide +kernel
  · rw [hoperatingEnd, hservice]
    decide +kernel
  · rw [hoperatingEnd, hservice]
    decide +kernel
  · rw [hrecordLen]
    decide +kernel
  · rw [hrecordLen]
    decide +kernel

theorem wide_tailSize : tailSize wide 32768 = 2 ^ 32 := by
  decide +kernel

theorem wideInfo_cut_ne : wideInfo.cut 0 ≠ wideInfo := by
  intro h
  have hid : Vector.replicate 16 0 = sampleGuid 7 :=
    congrArg StoreInfo.shadowCopyId h
  exact absurd hid (by decide)

theorem storeInfo_decodes_wide : let _ := Target.bits64
    Recorded wide (volumeOf wide) 0 32768 wideInfo ∧
      Returns wide ((volumeOf wide).storeInfo 0) wideInfo := by
  intro _
  obtain ⟨answer, hreturns, _, hsame⟩ := storeInfo_decodes.1 wide _ 0 32768
    wideInfo (openVolume_runs wide).runOn wide_recorded
  rw [hsame rfl] at hreturns
  exact ⟨wide_recorded, hreturns⟩

/-- On a 32-bit target the tail of 4 GiB counts as empty. -/
theorem storeInfo_decodes_wide_32 : let _ := Target.bits32
    ∃ volume answer, openVolume.runOn wide = .ok volume ∧
      Recorded wide volume 0 32768 wideInfo ∧
      (volume.storeInfo 0).runOn wide = .ok answer ∧ answer ≠ wideInfo := by
  intro _
  have hopen := (openVolume_runs wide).runOn
  refine ⟨volumeOf wide, _, hopen, wide_recorded,
    (wide_recorded.returns_cut hopen).runOn, fun hsame => ?_⟩
  rw [wide_tailSize, show (2 : Nat) ^ 32 % Target.usizeSize = 0 from
    Nat.mod_self _] at hsame
  exact wideInfo_cut_ne hsame

end ShadowCopy.Core
