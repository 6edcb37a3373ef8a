import ShadowCopy.Forensic.Findings
import ShadowCopy.Forensic.NonPersistent
import ShadowCopy.Forensic.Sequences
import ShadowCopy.Format.Volume

namespace ShadowCopy.Forensic

open ShadowCopy.Data
open ShadowCopy.Core

/-! What the text of a report tells of the stores of a volume. -/

/-- What of a store is reported. -/
def reportedFields (d : StoreDescriptor) : Guid × UInt64 × UInt64 × UInt64 :=
  (d.storeId, d.sequence, d.volumeSize, d.creationTime)

/-- The finding that a store with some fields is present. -/
def presentOf (formatGuid : Guid → String) :
    Guid × UInt64 × UInt64 × UInt64 → Anomaly
  | (storeId, sequence, volumeSize, creationTime) =>
      .new (.storePresent (formatGuid storeId) sequence volumeSize creationTime)

theorem presentOf_injective {formatGuid : Guid → String}
    (hformat : Function.Injective formatGuid) :
    Function.Injective (presentOf formatGuid) := by
  intro left right h
  obtain ⟨hid, hsequence, hsize, htime⟩ :=
    AnomalyKind.storePresent.inj (congrArg Anomaly.kind h)
  exact Prod.ext (hformat hid) (Prod.ext hsequence (Prod.ext hsize htime))

/-- The code and the evidence of a finding. -/
def Anomaly.text (anomaly : Anomaly) : String × List Evidence :=
  (anomaly.observation.code, anomaly.observation.evidence)

theorem text_injective {left right : List Anomaly}
    (hleft : ∀ anomaly ∈ left, anomaly = .new anomaly.kind)
    (hright : ∀ anomaly ∈ right, anomaly = .new anomaly.kind)
    (h : left.map Anomaly.text = right.map Anomaly.text) : left = right := by
  induction left generalizing right with
  | nil => exact (List.map_eq_nil_iff.mp h.symm).symm
  | cons first rest ih =>
      obtain ⟨other, others, rfl, hother, hothers⟩ :=
        List.map_eq_cons_iff.mp h.symm
      have hderived := hleft first List.mem_cons_self
      have hotherDerived := hright other List.mem_cons_self
      have hsame : first = other := by
        rw [hderived, hotherDerived] at hother ⊢
        exact congrArg Anomaly.new (AnomalyKind.eq_of_evidence
          (congrArg Prod.fst hother).symm (congrArg Prod.snd hother).symm)
      rw [hsame, ih (fun a ha => hleft a (List.mem_cons_of_mem _ ha))
        (fun a ha => hright a (List.mem_cons_of_mem _ ha)) hothers.symm]

section Catalogs

variable {formatGuid : Guid → String} {volume other : VssVolume}

theorem presentAnomalies_eq_iff (hformat : Function.Injective formatGuid)
    {left right : List StoreDescriptor} :
    left.map (presentAnomaly formatGuid) =
        right.map (presentAnomaly formatGuid) ↔
      left.map reportedFields = right.map reportedFields := by
  have hmap : ∀ stores : List StoreDescriptor,
      stores.map (presentAnomaly formatGuid) =
        (stores.map reportedFields).map (presentOf formatGuid) := by
    intro stores
    rw [List.map_map]
    rfl
  rw [hmap, hmap]
  exact (List.map_injective_iff.mpr (presentOf_injective hformat)).eq_iff

/-- The stores are told by what is present in the findings. -/
theorem filter_catalogFindings (formatGuid : Guid → String)
    (volume : VssVolume) :
    (catalogFindings formatGuid volume).filter
        (fun anomaly => anomaly.kind.isStorePresent) =
      volume.stores.map (presentAnomaly formatGuid) := by
  unfold catalogFindings
  split
  · rename_i hnone
    rw [List.isEmpty_iff.mp (Bool.and_eq_true_iff.mp hnone).2]
    rfl
  · rw [List.filter_append]
    have hpresent : (volume.stores.map (presentAnomaly formatGuid)).filter
        (fun anomaly => anomaly.kind.isStorePresent) =
          volume.stores.map (presentAnomaly formatGuid) := by
      refine List.filter_eq_self.mpr fun anomaly hmem => ?_
      obtain ⟨d, _, rfl⟩ := List.mem_map.mp hmem
      rfl
    have hgaps : (gapAnomalies (volume.stores.map
        StoreDescriptor.sequence)).filter
          (fun anomaly => anomaly.kind.isStorePresent) = [] := by
      refine List.filter_eq_nil_iff.mpr fun anomaly hmem => ?_
      rw [gapAnomalies_eq] at hmem
      obtain ⟨pair, _, rfl⟩ := List.mem_map.mp hmem
      exact Bool.false_ne_true
    rw [hpresent, hgaps, List.append_nil]

theorem catalogFindings_eq_iff (hformat : Function.Injective formatGuid)
    (hvolume : volume.hasVssHeader = false → volume.stores = [])
    (hother : other.hasVssHeader = false → other.stores = []) :
    catalogFindings formatGuid volume = catalogFindings formatGuid other ↔
      volume.hasVssHeader = other.hasVssHeader ∧
        volume.stores.map reportedFields =
          other.stores.map reportedFields := by
  constructor
  · intro h
    have hpresent := congrArg
      (List.filter fun anomaly => anomaly.kind.isStorePresent) h
    rw [filter_catalogFindings, filter_catalogFindings] at hpresent
    refine ⟨?_, (presentAnomalies_eq_iff hformat).mp hpresent⟩
    have hlength := congrArg List.length hpresent
    rw [List.length_map, List.length_map] at hlength
    unfold catalogFindings at h
    cases hheader : volume.hasVssHeader <;>
      cases hotherHeader : other.hasVssHeader
    · rfl
    · rw [hvolume hheader] at hlength h
      have hnone := List.eq_nil_of_length_eq_zero hlength.symm
      simp [hheader, hotherHeader, hnone, gapAnomalies] at h
    · rw [hother hotherHeader] at hlength h
      have hnone := List.eq_nil_of_length_eq_zero hlength
      simp [hheader, hotherHeader, hnone, gapAnomalies] at h
    · rfl
  · rintro ⟨hheader, hfields⟩
    have hsequences : volume.stores.map StoreDescriptor.sequence =
        other.stores.map StoreDescriptor.sequence := by
      have hmapped := congrArg (List.map fun fields => fields.2.1) hfields
      rw [List.map_map, List.map_map] at hmapped
      exact hmapped
    have hempty : volume.stores.isEmpty = other.stores.isEmpty := by
      rw [← @List.isEmpty_map _ _ volume.stores reportedFields, hfields,
        List.isEmpty_map]
    rw [catalogFindings, catalogFindings, hheader, hempty, hsequences,
      (presentAnomalies_eq_iff hformat).mpr hfields]

end Catalogs

/-- The findings of the stores and their sequence numbers are all but those of
the attributes. -/
theorem filter_audit [Target] (formatGuid : Guid → String)
    (volume : VssVolume) (reader : Reader) :
    (catalogFindings formatGuid volume ++
        heardFindings formatGuid volume reader).filter
          (fun anomaly => !anomaly.kind.isStoreNonPersistent) =
      catalogFindings formatGuid volume := by
  have hcatalog : (catalogFindings formatGuid volume).filter
      (fun anomaly => !anomaly.kind.isStoreNonPersistent) =
        catalogFindings formatGuid volume := by
    refine List.filter_eq_self.mpr fun anomaly hmem => ?_
    rcases catalogFindings_kind formatGuid hmem with
      rfl | ⟨d, _, rfl⟩ | ⟨previous, next, rfl⟩
    · rfl
    · rfl
    · rfl
  have hheard : (heardFindings formatGuid volume reader).filter
      (fun anomaly => !anomaly.kind.isStoreNonPersistent) = [] := by
    refine List.filter_eq_nil_iff.mpr fun anomaly hmem => ?_
    obtain ⟨d, _, attributeFlags, rfl⟩ := heardFindings_kind formatGuid hmem
    exact Bool.false_ne_true
  rw [List.filter_append, hcatalog, hheard, List.append_nil]

theorem stores_of_no_header [Target] {image : Image}
    (h : (volumeOf image).hasVssHeader = false) :
    (volumeOf image).stores = [] :=
  stores_of_absent (mt (hasVssHeader_iff image).mpr (by simp [h]))

/-- Take the findings of any two audits, the ones on attributes left out.  If
identifiers are told apart by their texts, they read the same exactly when both
volumes have a header or neither has, and the same identifiers, sequence
numbers, sizes and times are listed in one order. -/
theorem report_identifies_stores [Target] {formatGuid : Guid → String}
    (hformat : Function.Injective formatGuid) (left right : Reader) :
    ∃ volume other anomalies found,
      openVolume.runOn left.image = .ok volume ∧
      openVolume.runOn right.image = .ok other ∧
      (audit formatGuid volume left).1 = .ok anomalies ∧
      (audit formatGuid other right).1 = .ok found ∧
      ((anomalies.filter (fun anomaly =>
            !anomaly.kind.isStoreNonPersistent)).map Anomaly.text =
          (found.filter (fun anomaly =>
            !anomaly.kind.isStoreNonPersistent)).map Anomaly.text ↔
        volume.hasVssHeader = other.hasVssHeader ∧
          volume.stores.map reportedFields =
            other.stores.map reportedFields) := by
  refine ⟨_, _, _, _, (openVolume_runs left.image).runOn,
    (openVolume_runs right.image).runOn,
    congrArg Prod.fst (audit_faulty formatGuid rfl),
    congrArg Prod.fst (audit_faulty formatGuid rfl), ?_⟩
  rw [filter_audit, filter_audit,
    ← catalogFindings_eq_iff hformat stores_of_no_header stores_of_no_header]
  constructor
  · exact text_injective
      (fun _ hmem => (foundIn_catalogFindings formatGuid hmem).derived)
      (fun _ hmem => (foundIn_catalogFindings formatGuid hmem).derived)
  · exact congrArg (List.map Anomaly.text)

/-! The `8-4-4-4-12` form tells identifiers apart. -/

/-- The two digits of a byte. -/
def byteDigits (byte : UInt8) : List Char :=
  [Nat.digitChar (byte.toNat / 16), Nat.digitChar (byte.toNat % 16)]

theorem byteDigits_injective {a b : UInt8} (h : byteDigits a = byteDigits b) :
    a = b := by
  have ha := a.toNat_lt
  have hb := b.toNat_lt
  obtain ⟨hhigh, hlow⟩ := List.cons.inj h
  have hhigh := digitChar_injective _ (by omega) _ (by omega) hhigh
  have hlow := digitChar_injective _ (Nat.mod_lt _ (by decide)) _
    (Nat.mod_lt _ (by decide)) (List.cons.inj hlow).1
  apply UInt8.toNat_inj.mp
  omega

def placesDigits (raw : Guid) (places : List Nat) : List Char :=
  places.flatMap fun place => byteDigits (raw.toList.getD place 0)

theorem hyphenated_eq (raw : Guid) : hyphenated raw = String.ofList
    (placesDigits raw [3, 2, 1, 0] ++ ('-' :: (placesDigits raw [5, 4] ++
      ('-' :: (placesDigits raw [7, 6] ++ ('-' :: (placesDigits raw [8, 9] ++
        ('-' :: placesDigits raw [10, 11, 12, 13, 14, 15])))))))) := by
  rfl

theorem placesDigits_inj {left right : Guid} {places : List Nat}
    {rest more : List Char}
    (h : placesDigits left places ++ rest = placesDigits right places ++ more) :
    (∀ place ∈ places, left.toList.getD place 0 = right.toList.getD place 0) ∧
      rest = more := by
  induction places with
  | nil => exact ⟨fun _ hmem => absurd hmem List.not_mem_nil, h⟩
  | cons place places ih =>
      rw [placesDigits, placesDigits, List.flatMap_cons, List.flatMap_cons,
        List.append_assoc, List.append_assoc] at h
      obtain ⟨hdigits, hrest⟩ := List.append_inj h rfl
      obtain ⟨hplaces, hmore⟩ := ih hrest
      exact ⟨List.forall_mem_cons.mpr ⟨byteDigits_injective hdigits, hplaces⟩,
        hmore⟩

theorem hyphenated_injective : Function.Injective hyphenated := by
  intro left right h
  rw [hyphenated_eq, hyphenated_eq] at h
  obtain ⟨hfirst, h⟩ := placesDigits_inj (String.ofList_injective h)
  obtain ⟨hsecond, h⟩ := placesDigits_inj (List.cons.inj h).2
  obtain ⟨hthird, h⟩ := placesDigits_inj (List.cons.inj h).2
  obtain ⟨hfourth, h⟩ := placesDigits_inj (List.cons.inj h).2
  have hlast := (List.cons.inj h).2
  rw [← List.append_nil (placesDigits left _),
    ← List.append_nil (placesDigits right _)] at hlast
  have hfifth := (placesDigits_inj hlast).1
  have hall : ∀ place < 16,
      left.toList.getD place 0 = right.toList.getD place 0 := by
    intro place hplace
    have hsome : place ∈ [3, 2, 1, 0] ∨ place ∈ [5, 4] ∨ place ∈ [7, 6] ∨
        place ∈ [8, 9] ∨ place ∈ [10, 11, 12, 13, 14, 15] := by
      simp only [List.mem_cons, List.not_mem_nil, or_false]
      omega
    rcases hsome with hmem | hmem | hmem | hmem | hmem
    · exact hfirst place hmem
    · exact hsecond place hmem
    · exact hthird place hmem
    · exact hfourth place hmem
    · exact hfifth place hmem
  apply Vector.ext
  intro place hplace
  simpa [hplace] using hall place hplace

/-- Volumes whose only copies differ in nothing but their identifiers. -/
def bareLayout (byte : UInt8) : VolumeLayout where
  copies := [⟨sampleGuid byte, 114688, 1, 0, 0, none⟩]
  catalog :=
    [ (16384,
        ⟨[ .snapshot ⟨sampleGuid byte, 114688, 1, 0, 0, none, none⟩ ],
          by simp, by simp [CatalogEntry.Bare]⟩) ]
  catalogFollowed := ⟨by simp, by simp, show 1 ≤ maxCatalogBlocks by decide⟩
  listed := rfl

theorem bareLayout_fits {byte : UInt8} (h : byte = 1 ∨ byte = 2) :
    (bareLayout byte).Fits 114688 := by
  rw [VolumeLayout.fits_iff]
  rcases h with rfl | rfl <;> decide +kernel

theorem report_identifies_stores_hyphenated : let _ := Target.bits64
    ∃ anomalies found,
      (audit hyphenated ((bareLayout 1).volume 114688)
        (Reader.fresh ((bareLayout 1).write oneBackground) 0)).1 =
          .ok anomalies ∧
      (audit hyphenated ((bareLayout 2).volume 114688)
        (Reader.fresh ((bareLayout 2).write oneBackground) 0)).1 =
          .ok found ∧
      (anomalies.filter fun anomaly =>
          !anomaly.kind.isStoreNonPersistent).map Anomaly.text ≠
        (found.filter fun anomaly =>
          !anomaly.kind.isStoreNonPersistent).map Anomaly.text := by
  intro _
  have hone := @openVolume_write (bareLayout 1) oneBackground _
    (bareLayout_fits (.inl rfl))
  have htwo := @openVolume_write (bareLayout 2) oneBackground _
    (bareLayout_fits (.inr rfl))
  generalize (bareLayout 1).write oneBackground = image at *
  generalize (bareLayout 2).write oneBackground = otherImage at *
  obtain ⟨volume, other, anomalies, found, hvolume, hother, haudit, hfound,
    hsame⟩ := report_identifies_stores hyphenated_injective
      (Reader.fresh image 0) (Reader.fresh otherImage 0)
  obtain rfl := Outcome.ok.inj (hone.symm.trans hvolume)
  obtain rfl := Outcome.ok.inj (htwo.symm.trans hother)
  refine ⟨anomalies, found, haudit, hfound, fun htext => ?_⟩
  have hid := congrArg (List.map Prod.fst) (hsame.mp htext).2
  exact absurd hid (by decide)

end ShadowCopy.Forensic
