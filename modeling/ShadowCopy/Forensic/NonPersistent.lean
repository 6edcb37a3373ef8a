import ShadowCopy.Core.Information
import ShadowCopy.Forensic.Audit

namespace ShadowCopy.Forensic

open ShadowCopy.Data
open ShadowCopy.Core

/-! When a non-persistent finding rests on attribute flags that are on disk. -/

/-- The attribute word lies in the volume and in the declared record. -/
def AttributesOnDisk (image : Image) (headerOff : UInt64) : Prop :=
  headerOff.toNat + 188 ≤ image.size ∧ 60 ≤ declaredSize image headerOff

instance (image : Image) (headerOff : UInt64) :
    Decidable (AttributesOnDisk image headerOff) :=
  inferInstanceAs (Decidable (_ ∧ _))

def attributeWord (image : Image) (headerOff : UInt64) : UInt32 :=
  image.u32 (headerOff.toNat + 184)

/-- The findings that the volume supports for one store. -/
def supportedFindings (formatGuid : Guid → String) (image : Image)
    (d : StoreDescriptor) : List Anomaly :=
  match d.storeHeaderOffset with
  | none => []
  | some headerOff =>
      if AttributesOnDisk image headerOff ∧
          attributeWord image headerOff &&& 1 = 0 then
        [.new (.storeNonPersistent (formatGuid d.storeId)
          (attributeWord image headerOff))]
      else
        []

/-- What keeps the flags the audit sees apart from the zeros it assumes. -/
def AttributesRead [Target] (image : Image) (d : StoreDescriptor) : Prop :=
  match d.storeHeaderOffset with
  | none => True
  | some headerOff =>
      image.size < headerOff.toNat + storeBlockHeaderLen ∨
        AttributesOnDisk image headerOff ∧
          (60 ≤ tailSize image headerOff % Target.usizeSize ∨
            attributeWord image headerOff = 0)

section Findings

variable [Target] {image : Image} {headerOff : UInt64}

theorem attributes_storeInfoAt :
    (storeInfoAt image headerOff).attributes.bits =
      if 60 ≤ storeInfoLen image headerOff then
        attributeWord image headerOff
      else
        0 := by
  rw [storeInfoAt, StoreInfo.decode]
  dsimp only
  split
  · rename_i hlong
    exact image.u32At_read hlong
  · rename_i hshort
    apply u32At_eq_zero
    simpa using hshort

theorem findings_of_fits {volume : VssVolume} {index : Nat}
    {d : StoreDescriptor} (formatGuid : Guid → String)
    (hstore : volume.stores[index]? = some d)
    (hpointer : d.storeHeaderOffset = some headerOff)
    (hfits : headerOff.toNat + storeBlockHeaderLen ≤ image.size)
    {word : UInt32}
    (hword : (storeInfoAt image headerOff).attributes.bits = word) :
    attributeFindings formatGuid volume image d index =
      if word &&& 1 = 0 then
        [.new (.storeNonPersistent (formatGuid d.storeId) word)]
      else
        [] := by
  have hinfo : volume.storeInfoOf image index =
      .ok (storeInfoAt image headerOff) := by
    simp only [VssVolume.storeInfoOf, hstore, hpointer, if_pos hfits]
  have hpersistent : (storeInfoAt image headerOff).attributes.isPersistent =
      (word &&& 1 != 0) := by
    rw [← hword]
    rfl
  simp only [attributeFindings, hinfo, Outcome.toOption, hpersistent, hword]
  by_cases hbit : word &&& 1 = 0 <;> simp [hbit]

omit [Target] in
/-- The finding of a record read so far as the cut of its tail allows: with
the attributes out of reach the audit assumes zeros. -/
theorem findings_iff_of_onDisk (formatGuid : Guid → String)
    {d : StoreDescriptor} {findings : List Anomaly} {word seen : UInt32}
    (hfindings : findings = if seen &&& 1 = 0 then
      [.new (.storeNonPersistent (formatGuid d.storeId) seen)] else [])
    (hseen : seen = word ∨ seen = 0) :
    (findings = if word &&& 1 = 0 then
      [.new (.storeNonPersistent (formatGuid d.storeId) word)] else []) ↔
      seen = word := by
  rw [hfindings]
  constructor
  · intro h
    rcases hseen with hsame | rfl
    · exact hsame
    · by_cases hbit : word &&& 1 = 0
      · rw [if_pos hbit] at h
        have hkind := congrArg Anomaly.kind (List.singleton_inj.mp h)
        exact (AnomalyKind.storeNonPersistent.inj hkind).2
      · rw [if_neg hbit] at h
        exact absurd h (List.cons_ne_nil _ _)
  · intro h
    rw [h]

theorem attributeFindings_iff_of_fits {volume : VssVolume} {index : Nat}
    {d : StoreDescriptor} (formatGuid : Guid → String)
    (hstore : volume.stores[index]? = some d)
    (hpointer : d.storeHeaderOffset = some headerOff)
    (hfits : headerOff.toNat + storeBlockHeaderLen ≤ image.size) :
    (attributeFindings formatGuid volume image d index =
        if AttributesOnDisk image headerOff ∧
            attributeWord image headerOff &&& 1 = 0 then
          [.new (.storeNonPersistent (formatGuid d.storeId)
            (attributeWord image headerOff))]
        else
          []) ↔
      AttributesOnDisk image headerOff ∧
        (60 ≤ tailSize image headerOff % Target.usizeSize ∨
          attributeWord image headerOff = 0) := by
  have hlen := storeInfoLen_eq hfits
  have hcap : maxStoreInfoLen = 1048576 := rfl
  have hheader : storeBlockHeaderLen = 128 := rfl
  have htail : tailSize image headerOff =
      image.size - (headerOff.toNat + 128) := rfl
  have hbits := @attributes_storeInfoAt _ image headerOff
  have hfindings :=
    findings_of_fits formatGuid hstore hpointer hfits hbits
  by_cases hdisk : AttributesOnDisk image headerOff
  · have hreach : 60 ≤ storeInfoLen image headerOff ↔
        60 ≤ tailSize image headerOff % Target.usizeSize := by
      obtain ⟨hvolume, hdeclared⟩ := hdisk
      omega
    simp only [hdisk, true_and]
    rw [findings_iff_of_onDisk formatGuid hfindings]
    · rw [← hreach]
      split
      · rename_i hlong
        exact iff_of_true rfl (.inl hlong)
      · rename_i hshort
        rw [or_iff_right hshort, eq_comm]
    · split
      · exact .inl rfl
      · exact .inr rfl
  · have hshort : ¬ 60 ≤ storeInfoLen image headerOff := by
      unfold AttributesOnDisk at hdisk
      have hmod := Nat.mod_le (tailSize image headerOff) Target.usizeSize
      omega
    rw [if_neg hshort] at hfindings
    rw [hfindings]
    simp only [hdisk, false_and, if_false, iff_false]
    exact List.cons_ne_nil _ _

theorem attributeFindings_iff {volume : VssVolume} {index : Nat}
    {d : StoreDescriptor} (formatGuid : Guid → String)
    (hstore : volume.stores[index]? = some d) :
    attributeFindings formatGuid volume image d index =
        supportedFindings formatGuid image d ↔
      AttributesRead image d := by
  unfold supportedFindings AttributesRead
  cases hpointer : d.storeHeaderOffset with
  | none =>
      have hinfo : volume.storeInfoOf image index =
          .err (.storeInfoUnavailable index) := by
        simp only [VssVolume.storeInfoOf, hstore, hpointer]
      simp only [attributeFindings, hinfo, Outcome.toOption]
  | some headerOff =>
      dsimp only
      by_cases hfits : headerOff.toNat + storeBlockHeaderLen ≤ image.size
      · rw [or_iff_right (Nat.not_lt.mpr hfits)]
        exact attributeFindings_iff_of_fits formatGuid hstore hpointer hfits
      · have hinfo : volume.storeInfoOf image index =
            .err (.storeOffsetOutOfBounds index headerOff
              volume.volumeSize) := by
          simp only [VssVolume.storeInfoOf, hstore, hpointer, if_neg hfits]
        have hheader : storeBlockHeaderLen = 128 := rfl
        have hdisk : ¬ AttributesOnDisk image headerOff := by
          unfold AttributesOnDisk
          omega
        simp only [attributeFindings, hinfo, Outcome.toOption, hdisk,
          false_and, if_false, true_iff]
        exact .inl (Nat.not_le.mp hfits)

end Findings

theorem nonPersistent_auditOf [Target] (formatGuid : Guid → String)
    (volume : VssVolume) (image : Image) :
    (auditOf formatGuid volume image).filter
        (fun anomaly => anomaly.kind.isStoreNonPersistent) =
      volume.stores.zipIdx.flatMap fun (d, index) =>
        attributeFindings formatGuid volume image d index :=
  filter_auditOf formatGuid volume image AnomalyKind.isStoreNonPersistent
    false false true (.inl rfl) (fun _ _ _ _ => rfl) (fun _ _ => rfl) fun _ _ => rfl

/-- The non-persistent findings of an audit are those of its stores in turn,
and the ones of a store are right exactly when its flags were read. -/
theorem audit_nonPersistent_iff [Target] (formatGuid : Guid → String)
    (image : Image) :
    ∃ volume anomalies, ∃ findings : StoreDescriptor × Nat → List Anomaly,
      openVolume.runOn image = .ok volume ∧
      Returns image (audit formatGuid volume) anomalies ∧
      anomalies.filter (fun anomaly => anomaly.kind.isStoreNonPersistent) =
        volume.stores.zipIdx.flatMap findings ∧
      ∀ index d, volume.stores[index]? = some d →
        (∀ out, Returns image
          (checkAttributes formatGuid volume out (d, index))
          (out ++ findings (d, index))) ∧
        (findings (d, index) = supportedFindings formatGuid image d ↔
          AttributesRead image d) := by
  refine ⟨volumeOf image, auditOf formatGuid (volumeOf image) image,
    fun (d, index) =>
      attributeFindings formatGuid (volumeOf image) image d index,
    (openVolume_runs image).runOn, audit_returns formatGuid rfl,
    nonPersistent_auditOf formatGuid (volumeOf image) image, ?_⟩
  intro index d hstore
  constructor
  · exact fun out => checkAttributes_returns formatGuid rfl out d index
  · exact attributeFindings_iff formatGuid hstore

/-! A store whose record declares no length. -/

/-- A mixed-endian identifier in its `8-4-4-4-12` form. -/
def hyphenated (raw : Guid) : String :=
  let digits (places : List Nat) : List Char := places.flatMap fun place =>
    let byte := (raw.toList.getD place 0).toNat
    [Nat.digitChar (byte / 16), Nat.digitChar (byte % 16)]
  String.ofList (['-'].intercalate
    [digits [3, 2, 1, 0], digits [5, 4], digits [7, 6], digits [8, 9],
      digits [10, 11, 12, 13, 14, 15]])

theorem audit_nonPersistent_sample : let _ := Target.bits64
    ∃ volume d anomalies, openVolume.runOn (sample []) = .ok volume ∧
      volume.stores[0]? = some d ∧ d.storeHeaderOffset = some 32768 ∧
      (sample []).guid 32768 = vssIdentifier ∧
      (sample []).u32 32788 = storeHeaderRecordType ∧
      ¬ AttributesOnDisk (sample []) 32768 ∧
      (audit hyphenated volume).runOn (sample []) = .ok anomalies ∧
      Anomaly.new (.storeNonPersistent (hyphenated d.storeId) 0) ∈
        anomalies := by
  intro _
  have hstore := sample_older
  have hidentifier : (sample []).guid 32768 = vssIdentifier := by
    decide +kernel
  have htyped : (sample []).u32 32788 = storeHeaderRecordType := by
    decide +kernel
  have hdisk : ¬ AttributesOnDisk (sample []) 32768 := by decide +kernel
  have hdeclared : declaredSize (sample []) 32768 = 0 := by decide +kernel
  have hfits : (32768 : UInt64).toNat + storeBlockHeaderLen ≤
      (sample []).size := by decide
  generalize sample [] = image at *
  have hlen : storeInfoLen image 32768 = 0 := by
    rw [storeInfoLen_eq hfits, hdeclared]
    simp
  have hbits := @attributes_storeInfoAt Target.bits64 image 32768
  rw [if_neg (by rw [hlen]; decide)] at hbits
  have hfindings := findings_of_fits hyphenated hstore rfl hfits hbits
  refine ⟨volumeOf image, _, _, (openVolume_runs image).runOn, hstore, rfl,
    hidentifier, htyped, hdisk, (audit_returns hyphenated rfl).runOn, ?_⟩
  have hmem : Anomaly.new (.storeNonPersistent (hyphenated (sampleGuid 1)) 0) ∈
      (volumeOf image).stores.zipIdx.flatMap fun (d, index) =>
        attributeFindings hyphenated (volumeOf image) image d index := by
    refine List.mem_flatMap.mpr
      ⟨(⟨sampleGuid 1, 0, 0, 0, 1, some 32768, some 65536⟩, 0), ?_, ?_⟩
    · exact List.mem_zipIdx_iff_getElem?.mpr hstore
    · dsimp only
      rw [hfindings, if_pos (by decide)]
      exact List.mem_singleton_self _
  rw [← nonPersistent_auditOf] at hmem
  exact (List.mem_filter.mp hmem).1

end ShadowCopy.Forensic
