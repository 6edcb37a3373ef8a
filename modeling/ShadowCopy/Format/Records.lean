import ShadowCopy.Data.LittleEndian
import ShadowCopy.Information.Record

namespace ShadowCopy.Core

open ShadowCopy.Data

/-! The records as they are written.  Their parsers undo the writing, whatever
follows the record. -/

/-- The sixteen bytes that mark a block, or zeros in their place. -/
def identifierBytes (marked : Bool) : Guid :=
  if marked then vssIdentifier else Vector.replicate 16 0

theorem identifierBytes_beq (marked : Bool) :
    (identifierBytes marked == vssIdentifier) = marked := by
  cases marked <;> decide

def VolumeHeader.encode (header : VolumeHeader) : List UInt8 :=
  (identifierBytes header.hasVssIdentifier).toList ++
    (encodeLe 4 header.version.toNat ++
      (encodeLe 4 header.recordType.toNat ++
        (encodeLe 8 header.currentOffset.toNat ++
          (List.replicate 16 0 ++
            (encodeLe 8 header.catalogOffset.toNat ++
              (encodeLe 8 header.maximumSize.toNat ++
                (header.volumeIdentifier.toList ++
                  (header.storageVolumeIdentifier.toList ++
                    List.replicate 32 0))))))))

def StoreBlockHeader.encode (header : StoreBlockHeader) : List UInt8 :=
  (identifierBytes header.hasVssIdentifier).toList ++
    (encodeLe 4 header.version.toNat ++
      (encodeLe 4 header.recordType.toNat ++
        (encodeLe 8 header.relativeOffset.toNat ++
          (encodeLe 8 header.currentOffset.toNat ++
            (encodeLe 8 header.nextOffset.toNat ++
              (encodeLe 8 header.storeInformationSize.toNat ++
                List.replicate 72 0))))))

/-- A catalog entry; one of another type is written as type 0x01. -/
def CatalogEntry.encode : CatalogEntry → List UInt8
  | .empty => encodeLe 8 (0x00 : UInt64).toNat ++ List.replicate 120 0
  | .other => encodeLe 8 (0x01 : UInt64).toNat ++ List.replicate 120 0
  | .snapshot d =>
      encodeLe 8 (0x02 : UInt64).toNat ++
        (encodeLe 8 d.volumeSize.toNat ++
          (d.storeId.toList ++
            (encodeLe 8 d.sequence.toNat ++
              (encodeLe 8 d.flags.toNat ++
                (encodeLe 8 d.creationTime.toNat ++
                  List.replicate 72 0)))))
  | .storePointer storeId storeHeaderOffset storeBitmapOffset =>
      encodeLe 8 (0x03 : UInt64).toNat ++
        (List.replicate 8 0 ++
          (storeId.toList ++
            (encodeLe 8 storeHeaderOffset.toNat ++
              (List.replicate 8 0 ++
                (encodeLe 8 storeBitmapOffset.toNat ++
                  List.replicate 72 0)))))

def BlockDescriptor.encode (d : BlockDescriptor) : List UInt8 :=
  encodeLe 8 d.originalOffset.toNat ++
    (encodeLe 8 d.relativeStoreOffset.toNat ++
      (encodeLe 8 d.storeOffset.toNat ++
        (encodeLe 4 d.flags.bits.toNat ++
          encodeLe 4 d.allocationBitmap.toNat)))

def StoreBlockRange.encode (range : StoreBlockRange) : List UInt8 :=
  encodeLe 8 range.storeOffset.toNat ++
    (encodeLe 8 range.relativeOffset.toNat ++
      encodeLe 8 range.rangeSize.toNat)

@[simp] theorem VolumeHeader.length_encode (header : VolumeHeader) :
    header.encode.length = catalogBlockHeaderLen := by
  simp [encode, catalogBlockHeaderLen]

@[simp] theorem StoreBlockHeader.length_encode (header : StoreBlockHeader) :
    header.encode.length = storeBlockHeaderLen := by
  simp [encode, storeBlockHeaderLen]

@[simp] theorem CatalogEntry.length_encode (entry : CatalogEntry) :
    entry.encode.length = catalogEntryLen := by
  cases entry <;> simp [encode, catalogEntryLen]

@[simp] theorem BlockDescriptor.length_encode (d : BlockDescriptor) :
    d.encode.length = 32 := by
  simp [encode]

@[simp] theorem StoreBlockRange.length_encode (range : StoreBlockRange) :
    range.encode.length = storeBlockRangeLen := by
  simp [encode, storeBlockRangeLen]

section RoundTrips

variable (rest : List UInt8)

theorem VolumeHeader.decode_encode (header : VolumeHeader) :
    VolumeHeader.decode (header.encode ++ rest) = header := by
  simp (disch := simp) only [decode, encode, List.append_assoc, bytesAt_skip,
    u32At_skip, u64At_skip, length_encodeLe, List.length_replicate,
    Vector.length_toList, Nat.reduceSub, u32At_field, u64At_field,
    bytesAt_field, identifierBytes_beq]

theorem StoreBlockHeader.decode_encode (header : StoreBlockHeader) :
    StoreBlockHeader.decode (header.encode ++ rest) = header := by
  simp (disch := simp) only [decode, encode, List.append_assoc, u32At_skip,
    u64At_skip, length_encodeLe, Vector.length_toList, Nat.reduceSub,
    u32At_field, u64At_field, bytesAt_field, identifierBytes_beq]

theorem BlockDescriptor.decode_encode (d : BlockDescriptor) :
    BlockDescriptor.decode (d.encode ++ rest) = d := by
  simp (disch := simp) only [decode, encode, List.append_assoc, u64At_skip,
    u32At_skip, length_encodeLe, Nat.reduceSub, u64At_field, u32At_field]

theorem StoreBlockRange.decode_encode (range : StoreBlockRange) :
    StoreBlockRange.decode (range.encode ++ rest) = range := by
  simp (disch := simp) only [decode, encode, List.append_assoc, u64At_skip,
    length_encodeLe, Nat.reduceSub, u64At_field]

/-- An entry as it lies on disk: its store is not paired yet. -/
def CatalogEntry.Bare : CatalogEntry → Prop
  | .snapshot d => d.storeHeaderOffset = none ∧ d.storeBitmapOffset = none
  | _ => True

theorem CatalogEntry.decode_encode {entry : CatalogEntry} (h : entry.Bare) :
    decodeEntry (entry.encode ++ rest) = entry := by
  cases entry with
  | empty =>
      simp only [decodeEntry, encode, List.append_assoc, u64At_field]
      rfl
  | other =>
      simp only [decodeEntry, encode, List.append_assoc, u64At_field]
      rfl
  | snapshot d =>
      obtain ⟨storeId, volumeSize, sequence, flags, creationTime, header,
        bitmap⟩ := d
      obtain ⟨rfl, rfl⟩ := h
      simp (disch := simp) only [decodeEntry, decodeDescriptor, encode,
        List.append_assoc, bytesAt_skip, u64At_skip, length_encodeLe,
        Vector.length_toList, Nat.reduceSub, u64At_field, bytesAt_field,
        if_true]
  | storePointer storeId header bitmap =>
      simp (disch := simp) only [decodeEntry, encode, List.append_assoc,
        bytesAt_skip, u64At_skip, length_encodeLe, List.length_replicate,
        Vector.length_toList, Nat.reduceSub, u64At_field, bytesAt_field]
      rfl

end RoundTrips

/-! The two diff-area records leave no byte out: they are written back as they
were read. -/

theorem take_append_drop_at (buf : List UInt8) (off n : Nat) :
    (buf.drop off).take n ++ buf.drop (off + n) = buf.drop off := by
  rw [← List.drop_drop, List.take_append_drop]

theorem BlockDescriptor.encode_decode {buf : List UInt8}
    (h : buf.length = 32) : (BlockDescriptor.decode buf).encode = buf := by
  have hend : (buf.drop 28).take 4 = buf.drop 28 :=
    List.take_of_length_le (by rw [List.length_drop]; omega)
  simp (disch := omega) only [encode, decode, encodeLe_u64At, encodeLe_u32At]
  rw [hend, take_append_drop_at buf 24 4, take_append_drop_at buf 16 8,
    take_append_drop_at buf 8 8, take_append_drop_at buf 0 8, List.drop_zero]

/-- The record that ends the list of a diff-area block. -/
def BlockDescriptor.zero : BlockDescriptor := ⟨0, 0, 0, ⟨0⟩, 0⟩

theorem BlockDescriptor.encode_zero :
    zero.encode = List.replicate 32 0 := by
  decide

theorem BlockDescriptor.encode_all_zero (d : BlockDescriptor) :
    (d.encode.all fun byte => byte == 0) = decide (d = zero) := by
  rw [Bool.eq_iff_iff, decide_eq_true_eq, List.all_eq_true]
  constructor
  · intro h
    have hbytes : d.encode = zero.encode := by
      rw [encode_zero, List.eq_replicate_iff]
      exact ⟨d.length_encode, fun byte hbyte => eq_of_beq (h byte hbyte)⟩
    have hdecoded := decode_encode [] d
    rw [hbytes, decode_encode] at hdecoded
    exact hdecoded.symm
  · rintro rfl byte hbyte
    rw [encode_zero] at hbyte
    exact beq_iff_eq.mpr (List.eq_of_mem_replicate hbyte)

theorem StoreBlockRange.encode_decode {buf : List UInt8}
    (h : buf.length = storeBlockRangeLen) :
    (StoreBlockRange.decode buf).encode = buf := by
  have hlen : buf.length = 24 := h
  have hend : (buf.drop 16).take 8 = buf.drop 16 :=
    List.take_of_length_le (by rw [List.length_drop]; omega)
  simp (disch := omega) only [encode, decode, encodeLe_u64At]
  rw [hend, take_append_drop_at buf 8 8, take_append_drop_at buf 0 8,
    List.drop_zero]

/-! Store information, whose strings are of any length a `u16` can tell. -/

/-- The fields of store information that lie at fixed places. -/
def StoreInfo.encodeFixed (info : StoreInfo) : List UInt8 :=
  List.replicate 16 0 ++
    (info.shadowCopyId.toList ++
      (info.shadowCopySetId.toList ++
        (encodeLe 4 info.snapshotContext.toNat ++
          (List.replicate 4 0 ++
            (encodeLe 4 info.attributes.bits.toNat ++
              List.replicate 4 0)))))

/-- Store information as it is written. -/
def StoreInfo.encode (info : StoreInfo) : List UInt8 :=
  info.encodeFixed ++
    (encodeLe 2 (utf16leBytes info.operatingMachine).length ++
      (utf16leBytes info.operatingMachine ++
        (encodeLe 2 (utf16leBytes info.serviceMachine).length ++
          utf16leBytes info.serviceMachine)))

section Strings

variable {before buf : List UInt8}

theorem decodeString_skip {off len : Nat} (h : before.length ≤ off) :
    decodeString (before ++ buf) off len =
      decodeString buf (off - before.length) len := by
  have hinside : off ≤ off + len ∧ off + len ≤ (before ++ buf).length ↔
      off - before.length ≤ off - before.length + len ∧
        off - before.length + len ≤ buf.length := by
    rw [List.length_append]
    omega
  have hdrop : (before ++ buf).drop off = buf.drop (off - before.length) := by
    rw [List.drop_append, List.drop_eq_nil_of_le h, List.nil_append]
  unfold decodeString getRange?
  simp only [hinside, hdrop, Nat.add_sub_cancel_left]

theorem decodeString_text (text : String) (rest : List UInt8) :
    decodeString (utf16leBytes text ++ rest) 0 (utf16leBytes text).length =
      text := by
  have hinside : (0 : Nat) ≤ 0 + (utf16leBytes text).length ∧
      0 + (utf16leBytes text).length ≤
        (utf16leBytes text ++ rest).length := by
    rw [List.length_append]
    omega
  rw [decodeString, getRange?, if_pos hinside, Nat.zero_add, Nat.sub_zero,
    List.drop_zero, List.take_left, Option.map_some, Option.getD_some,
    utf16leString_bytes]

theorem toNat_u16At_field {len : Nat} (h : len < 2 ^ 16)
    (rest : List UInt8) : (u16At (encodeLe 2 len ++ rest) 0).toNat = len := by
  have hlen : (UInt16.ofNat len).toNat = len := UInt16.toNat_ofNat_of_lt' h
  nth_rewrite 1 [← hlen]
  rw [u16At_field, hlen]

end Strings

theorem StoreInfo.length_encodeFixed (info : StoreInfo) :
    info.encodeFixed.length = 64 := by
  simp [encodeFixed]

theorem StoreInfo.length_encode (info : StoreInfo) :
    info.encode.length = info.recordLen := by
  simp [encode, length_encodeFixed, recordLen, operatingEnd]
  omega

/-- The two strings, behind 64 bytes of other fields. -/
theorem decodeStrings_encode (operating service : String)
    (before : List UInt8) (hbefore : before.length = 64)
    (hop : (utf16leBytes operating).length < 2 ^ 16)
    (hsvc : (utf16leBytes service).length < 2 ^ 16) (rest : List UInt8) :
    let buf := before ++
      (encodeLe 2 (utf16leBytes operating).length ++
        (utf16leBytes operating ++
          (encodeLe 2 (utf16leBytes service).length ++
            (utf16leBytes service ++ rest))))
    let opSize := (u16At buf 64).toNat
    let svcSize := (u16At buf (66 + opSize)).toNat
    decodeString buf 66 opSize = operating ∧
      decodeString buf (66 + opSize + 2) svcSize = service := by
  intro buf opSize svcSize
  have hopSize : opSize = (utf16leBytes operating).length := by
    simp only [opSize, buf]
    rw [u16At_skip (Nat.le_of_eq hbefore), hbefore]
    exact toNat_u16At_field hop _
  have hsvcSize : svcSize = (utf16leBytes service).length := by
    simp only [svcSize, buf]
    rw [hopSize, u16At_skip (by omega),
      u16At_skip (by rw [length_encodeLe]; omega),
      u16At_skip (by rw [length_encodeLe]; omega), length_encodeLe, hbefore,
      show 66 + (utf16leBytes operating).length - 64 - 2 -
        (utf16leBytes operating).length = 0 by omega]
    exact toNat_u16At_field hsvc _
  constructor
  · rw [hopSize, decodeString_skip (by omega),
      decodeString_skip (by rw [length_encodeLe]; omega), length_encodeLe,
      hbefore]
    exact decodeString_text operating _
  · rw [hopSize, hsvcSize, decodeString_skip (by omega),
      decodeString_skip (by rw [length_encodeLe]; omega),
      decodeString_skip (by rw [length_encodeLe]; omega),
      decodeString_skip (by simp only [length_encodeLe]; omega),
      length_encodeLe, length_encodeLe, hbefore,
      show 66 + (utf16leBytes operating).length + 2 - 64 - 2 -
        (utf16leBytes operating).length - 2 = 0 by omega]
    exact decodeString_text service rest

theorem StoreInfo.decode_encode (rest : List UInt8) (info : StoreInfo)
    (hop : (utf16leBytes info.operatingMachine).length < 2 ^ 16)
    (hsvc : (utf16leBytes info.serviceMachine).length < 2 ^ 16) :
    decode (info.encode ++ rest) = info := by
  have hassoc : info.encode ++ rest = info.encodeFixed ++
      (encodeLe 2 (utf16leBytes info.operatingMachine).length ++
        (utf16leBytes info.operatingMachine ++
          (encodeLe 2 (utf16leBytes info.serviceMachine).length ++
            (utf16leBytes info.serviceMachine ++ rest)))) := by
    simp only [encode, List.append_assoc]
  obtain ⟨hoperating, hservice⟩ := decodeStrings_encode info.operatingMachine
    info.serviceMachine _ info.length_encodeFixed hop hsvc rest
  rw [← hassoc] at hoperating hservice
  have hid : bytesAt 16 (info.encode ++ rest) 16 = info.shadowCopyId := by
    simp (disch := simp) only [encode, encodeFixed, List.append_assoc,
      bytesAt_skip, List.length_replicate, Nat.reduceSub, bytesAt_field]
  have hset : bytesAt 16 (info.encode ++ rest) 32 = info.shadowCopySetId := by
    simp (disch := simp) only [encode, encodeFixed, List.append_assoc,
      bytesAt_skip, List.length_replicate, Vector.length_toList,
      Nat.reduceSub, bytesAt_field]
  have hcontext : u32At (info.encode ++ rest) 48 = info.snapshotContext := by
    simp (disch := simp) only [encode, encodeFixed, List.append_assoc,
      u32At_skip, List.length_replicate, Vector.length_toList, Nat.reduceSub,
      u32At_field]
  have hattributes : u32At (info.encode ++ rest) 56 =
      info.attributes.bits := by
    simp (disch := simp) only [encode, encodeFixed, List.append_assoc,
      u32At_skip, length_encodeLe, List.length_replicate, Vector.length_toList,
      Nat.reduceSub, u32At_field]
  rw [decode, hid, hset, hcontext, hattributes]
  exact congrArg₂ (StoreInfo.mk _ _ _ _) hoperating hservice

/-- What is written is parsed back, whatever follows it. The records of the
diff area leave no byte out, so what is parsed is also written back. -/
theorem records_round_trip [Target] (ε : Type) (rest : List UInt8) :
    (∀ header : VolumeHeader,
      (VolumeHeader.parse (header.encode ++ rest) : Outcome ε _) =
        .ok header) ∧
    (∀ header : StoreBlockHeader,
      (StoreBlockHeader.parse (header.encode ++ rest) : Outcome ε _) =
        .ok header) ∧
    (∀ entry : CatalogEntry, entry.Bare →
      (parseCatalogEntry (entry.encode ++ rest) : Outcome ε _) = .ok entry) ∧
    (∀ info : StoreInfo,
      (utf16leBytes info.operatingMachine).length < 2 ^ 16 →
      (utf16leBytes info.serviceMachine).length < 2 ^ 16 →
        (StoreInfo.parse (info.encode ++ rest) : Outcome ε _) = .ok info) ∧
    (∀ d : BlockDescriptor,
      (BlockDescriptor.parse (d.encode ++ rest) : Outcome ε _) = .ok d) ∧
    (∀ range : StoreBlockRange,
      (StoreBlockRange.parse (range.encode ++ rest) : Outcome ε _) =
        .ok range) ∧
    (∀ buf : List UInt8, buf.length = blockDescriptorLen → ∃ d,
      (BlockDescriptor.parse buf : Outcome ε _) = .ok d ∧ d.encode = buf) ∧
    ∀ buf : List UInt8, buf.length = storeBlockRangeLen → ∃ range,
      (StoreBlockRange.parse buf : Outcome ε _) = .ok range ∧
        range.encode = buf := by
  refine ⟨fun header => ?_, fun header => ?_, fun entry hbare => ?_,
    fun info hop hsvc => ?_, fun d => ?_, fun range => ?_, fun buf hlen => ?_,
    fun buf hlen => ?_⟩
  · rw [VolumeHeader.parse_ok, VolumeHeader.decode_encode]
  · rw [StoreBlockHeader.parse_ok, StoreBlockHeader.decode_encode]
  · rw [parseCatalogEntry_ok, CatalogEntry.decode_encode rest hbare]
  · rw [StoreInfo.parse_ok, StoreInfo.decode_encode rest info hop hsvc]
  · rw [BlockDescriptor.parse_ok, BlockDescriptor.decode_encode]
  · rw [StoreBlockRange.parse_ok, StoreBlockRange.decode_encode]
  · exact ⟨_, BlockDescriptor.parse_ok buf, BlockDescriptor.encode_decode hlen⟩
  · exact ⟨_, StoreBlockRange.parse_ok buf, StoreBlockRange.encode_decode hlen⟩

end ShadowCopy.Core
