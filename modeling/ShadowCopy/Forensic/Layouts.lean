import ShadowCopy.Format.Volume
import ShadowCopy.Forensic.Sequences

namespace ShadowCopy.Forensic

open ShadowCopy.Data
open ShadowCopy.Core

/-! The audit of a volume that was laid out in full. -/

section Layouts

variable (formatGuid : Guid → String)

def copyFindings (copy : CopyLayout) : List Anomaly :=
  match copy.store with
  | some store =>
      if !store.info.attributes.isPersistent then
        [.new (.storeNonPersistent (formatGuid copy.storeId)
          store.info.attributes.bits)]
      else
        []
  | none => []

/-- The findings a layout gives rise to. -/
def layoutFindings (layout : VolumeLayout) : List Anomaly :=
  if layout.copies.isEmpty then
    [.new .noShadowCopies]
  else
    layout.copies.map (fun copy => presentAnomaly formatGuid copy.descriptor) ++
      gapAnomalies (layout.copies.map CopyLayout.sequence) ++
        layout.copies.flatMap (copyFindings formatGuid)

/-- Shadow copies with no number missing between them and persistent stores. -/
structure Unremarkable (layout : VolumeLayout) : Prop where
  copies : layout.copies ≠ []
  contiguous : ∀ value : UInt64,
    (∃ copy ∈ layout.copies, copy.sequence < value) →
    (∃ copy ∈ layout.copies, value < copy.sequence) →
      ∃ copy ∈ layout.copies, copy.sequence = value
  persistent : ∀ copy ∈ layout.copies, ∀ store, copy.store = some store →
    store.info.attributes.isPersistent = true

variable {layout : VolumeLayout} {image : Image}

theorem attributeFindings_of_laidOut [Target] (h : layout.LaidOut image)
    (htails : ∀ copy ∈ layout.copies, ∀ store, copy.store = some store →
      tailSize image store.headerOff < Target.usizeSize) :
    ((volumeOf image).stores.zipIdx.flatMap fun (descriptor, index) =>
      attributeFindings formatGuid (volumeOf image) image descriptor index) =
        layout.copies.flatMap (copyFindings formatGuid) := by
  have hstores : (volumeOf image).stores.zipIdx =
      layout.copies.zipIdx.map (Prod.map CopyLayout.descriptor id) := by
    rw [volumeOf_of_laidOut h, VolumeLayout.volume, List.zipIdx_map]
  have hcopies : layout.copies.flatMap (copyFindings formatGuid) =
      layout.copies.zipIdx.flatMap fun item =>
        copyFindings formatGuid item.1 := by
    rw [← List.flatMap_map Prod.fst, List.zipIdx_map_fst]
  rw [hstores, List.flatMap_map, hcopies]
  apply List.flatMap_congr
  rintro ⟨copy, index⟩ hmem
  have hcopy : layout.copies[index]? = some copy :=
    List.mem_zipIdx_iff_getElem?.mp hmem
  simp only [Prod.map, id, attributeFindings, copyFindings]
  cases hstore : copy.store with
  | none =>
      rw [(unavailable_of_laidOut h hcopy hstore).2]
      rfl
  | some store =>
      rw [storeInfoOf_of_laidOut h hcopy hstore
        (htails copy (List.mem_of_getElem? hcopy) store hstore)]
      rfl

theorem auditOf_of_laidOut [Target] (h : layout.LaidOut image)
    (htails : ∀ copy ∈ layout.copies, ∀ store, copy.store = some store →
      tailSize image store.headerOff < Target.usizeSize) :
    auditOf formatGuid (volumeOf image) image =
      layoutFindings formatGuid layout := by
  have hfindings := attributeFindings_of_laidOut formatGuid h htails
  rw [auditOf, hfindings, volumeOf_of_laidOut h, layoutFindings,
    VolumeLayout.volume]
  simp only [Bool.true_and, List.isEmpty_map, List.map_map]
  rfl

theorem copyFindings_eq_nil (copy : CopyLayout) :
    copyFindings formatGuid copy = [] ↔
      ∀ store, copy.store = some store →
        store.info.attributes.isPersistent = true := by
  unfold copyFindings
  cases copy.store with
  | none => simp
  | some store =>
      cases hflag : store.info.attributes.isPersistent <;> simp [hflag]

theorem gapAnomalies_eq_nil (sequences : List UInt64) :
    gapAnomalies sequences = [] ↔
      ∀ value, (∃ low ∈ sequences, low < value) →
        (∃ high ∈ sequences, value < high) → value ∈ sequences := by
  have hgaps := gapsOf_gaps sequences
  rw [gapAnomalies_eq, List.map_eq_nil_iff]
  constructor
  · intro hnone value hlow hhigh
    by_contra hmissing
    obtain ⟨gap, hgap, _⟩ :=
      (hgaps.missing value).mpr ⟨hmissing, hlow, hhigh⟩
    rw [hnone] at hgap
    contradiction
  · intro hfilled
    refine List.eq_nil_iff_forall_not_mem.mpr fun gap hgap => ?_
    obtain ⟨value, hvalue⟩ := hgaps.nonempty gap hgap
    obtain ⟨hmissing, hlow, hhigh⟩ :=
      (hgaps.missing value).mp ⟨gap, hgap, hvalue⟩
    exact hmissing (hfilled value hlow hhigh)

theorem forall_present_iff {findings : List Anomaly}
    (h : ∀ anomaly ∈ findings, anomaly.kind.isStorePresent = false) :
    (∀ anomaly ∈ findings, anomaly.kind.isStorePresent = true) ↔
      findings = [] := by
  cases findings with
  | nil => simp
  | cons anomaly rest =>
      constructor
      · intro hall
        have hfirst := hall anomaly (List.mem_cons_self ..)
        rw [h anomaly (List.mem_cons_self ..)] at hfirst
        contradiction
      · exact fun hnil => absurd hnil (List.cons_ne_nil _ _)

theorem copyFindings_absent {copy : CopyLayout} {anomaly : Anomaly}
    (h : anomaly ∈ copyFindings formatGuid copy) :
    anomaly.kind.isStorePresent = false := by
  unfold copyFindings at h
  split at h
  · split at h
    · rw [List.mem_singleton.mp h]
      rfl
    · contradiction
  · contradiction

theorem gapAnomalies_absent {sequences : List UInt64} {anomaly : Anomaly}
    (h : anomaly ∈ gapAnomalies sequences) :
    anomaly.kind.isStorePresent = false := by
  rw [gapAnomalies_eq] at h
  obtain ⟨pair, _, rfl⟩ := List.mem_map.mp h
  rfl

/-- Only presence is found exactly when there is nothing else to find. -/
theorem layoutFindings_present_iff :
    (∀ anomaly ∈ layoutFindings formatGuid layout,
      anomaly.kind.isStorePresent = true) ↔ Unremarkable layout := by
  have hpresent : ∀ anomaly ∈ layout.copies.map (fun copy =>
      presentAnomaly formatGuid copy.descriptor),
        anomaly.kind.isStorePresent = true := by
    intro anomaly hmem
    obtain ⟨copy, _, rfl⟩ := List.mem_map.mp hmem
    rfl
  have hgaps := forall_present_iff fun anomaly =>
    @gapAnomalies_absent (layout.copies.map CopyLayout.sequence) anomaly
  have hflagged := @forall_present_iff
    (layout.copies.flatMap (copyFindings formatGuid)) fun anomaly hmem => by
      obtain ⟨copy, _, hcopy⟩ := List.mem_flatMap.mp hmem
      exact copyFindings_absent formatGuid hcopy
  by_cases hcopies : layout.copies = []
  · constructor
    · intro h
      rw [layoutFindings, hcopies] at h
      exact absurd (h _ (List.mem_singleton_self _)) Bool.false_ne_true
    · exact fun h => absurd hcopies h.copies
  · have hempty : ¬ layout.copies.isEmpty = true :=
      mt List.isEmpty_iff.mp hcopies
    rw [layoutFindings, if_neg hempty]
    simp only [List.forall_mem_append, hgaps, hflagged]
    rw [iff_true_intro hpresent, true_and]
    simp only [gapAnomalies_eq_nil, List.flatMap_eq_nil_iff,
      copyFindings_eq_nil, List.mem_map, exists_exists_and_eq_and]
    exact ⟨fun h => ⟨hcopies, h.1, h.2⟩,
      fun h => ⟨h.contiguous, h.persistent⟩⟩

end Layouts

/-- The audit of a volume that was laid out in full follows from the layout
alone, and finds nothing but the stores themselves exactly when the layout is
unremarkable. -/
theorem audit_of_laid_out_volume [Target] (formatGuid : Guid → String)
    {layout : VolumeLayout} {image : Image} (h : layout.LaidOut image)
    (htails : ∀ copy ∈ layout.copies, ∀ store, copy.store = some store →
      tailSize image store.headerOff < Target.usizeSize) :
    Returns image openVolume (layout.volume image.size) ∧
      Returns image (audit formatGuid (layout.volume image.size))
        (layoutFindings formatGuid layout) ∧
      ((∀ anomaly ∈ layoutFindings formatGuid layout,
        anomaly.kind.isStorePresent = true) ↔ Unremarkable layout) := by
  rw [← volumeOf_of_laidOut h, ← auditOf_of_laidOut formatGuid h htails]
  refine ⟨(openVolume_runs image).yields rfl, audit_returns formatGuid rfl, ?_⟩
  rw [auditOf_of_laidOut formatGuid h htails]
  exact layoutFindings_present_iff formatGuid

theorem audit_of_laid_out_volume_one : let _ := Target.bits64
    Returns (oneLayout.write oneBackground)
      (audit (fun _ => "") (oneLayout.volume 114688))
      [.new (.storePresent "" 1 114688 0)] := by
  intro _
  have hsize : (oneLayout.write oneBackground).size = 114688 := by
    rw [VolumeLayout.write, Image.size_writeAll]
    rfl
  have hfindings : layoutFindings (fun _ => "") oneLayout =
      [.new (.storePresent "" 1 114688 0)] := by
    simp [layoutFindings, oneLayout, gapAnomalies, copyFindings, presentAnomaly,
      CopyLayout.descriptor, CopyLayout.bare, oneStore, oneInfo]
    decide
  rw [← hfindings, ← hsize]
  refine (audit_of_laid_out_volume (fun _ => "")
    (VolumeLayout.write_laidOut oneLayout_fits) ?_).2.1
  intro copy _ store _
  exact Nat.lt_of_le_of_lt (Nat.sub_le _ _)
    (oneLayout.write oneBackground).size_lt

end ShadowCopy.Forensic
