import ShadowCopy.Catalog.Enumeration
import ShadowCopy.Data.Joined
import ShadowCopy.Forensic.Audit

namespace ShadowCopy.Forensic

open ShadowCopy.Data
open ShadowCopy.Core

/-! Which sequence numbers an audit finds missing. -/

theorem isGap_discerns : Discerns isGap := by
  intro low high
  have hhigh := high.toNat_lt
  have hgap : isGap low high = true ↔ low.toNat + 1 < high.toNat := by
    have hone : (1 : UInt64).toNat = 1 := rfl
    rw [isGap, decide_eq_true_eq, gt_iff_lt, UInt64.lt_iff_toNat_lt,
      toNat_saturatingAdd, hone]
    omega
  rw [hgap]
  constructor
  · intro hlt
    have hnat : (UInt64.ofNat (low.toNat + 1)).toNat = low.toNat + 1 :=
      UInt64.toNat_ofNat_of_lt' (Nat.lt_trans hlt hhigh)
    refine ⟨UInt64.ofNat (low.toNat + 1), ?_, ?_⟩
    · rw [UInt64.lt_iff_toNat_lt, hnat]
      exact Nat.lt_succ_self _
    · rw [UInt64.lt_iff_toNat_lt, hnat]
      exact hlt
  · rintro ⟨value, hlow, hhigh⟩
    rw [UInt64.lt_iff_toNat_lt] at hlow hhigh
    exact Nat.lt_of_le_of_lt hlow hhigh

theorem sortedSequences_pairwise (sequences : List UInt64) :
    (sortedSequences sequences).Pairwise (· ≤ ·) :=
  mergeSort_pairwise id sequences

theorem mem_sortedSequences {sequences : List UInt64} {value : UInt64} :
    value ∈ sortedSequences sequences ↔ value ∈ sequences :=
  (sequences.mergeSort_perm _).mem_iff

theorem gapAnomalies_congr {left right : List UInt64}
    (h : ∀ value, value ∈ left ↔ value ∈ right) :
    gapAnomalies left = gapAnomalies right := by
  rw [gapAnomalies_eq, gapAnomalies_eq, gaps_congr isGap_discerns
    (sortedSequences_pairwise left) (sortedSequences_pairwise right)]
  intro value
  rw [mem_sortedSequences, mem_sortedSequences, h]

def entrySequences (entries : List CatalogEntry) : List UInt64 :=
  (snapshotEntries entries).map StoreDescriptor.sequence

/-- Open intervals that cover what is missing between the least and the
greatest of some numbers. -/
structure GapsOf (sequences : List UInt64) (intervals : List (UInt64 × UInt64)) :
    Prop where
  increasing : intervals.Pairwise fun left right => left.2 ≤ right.1
  nonempty : ∀ gap ∈ intervals, ∃ value, gap.1 < value ∧ value < gap.2
  ends : ∀ gap ∈ intervals, gap.1 ∈ sequences ∧ gap.2 ∈ sequences
  missing : ∀ value,
    (∃ gap ∈ intervals, gap.1 < value ∧ value < gap.2) ↔
      value ∉ sequences ∧ (∃ low ∈ sequences, low < value) ∧
        ∃ high ∈ sequences, value < high

theorem gapsOf_gaps (sequences : List UInt64) :
    GapsOf sequences (gaps isGap (sortedSequences sequences)) := by
  have hsorted := sortedSequences_pairwise sequences
  constructor
  · exact gaps_pairwise isGap hsorted
  · intro gap hgap
    exact ((mem_gaps_iff isGap_discerns hsorted).mp hgap).2
  · intro gap hgap
    have h := ((mem_gaps_iff isGap_discerns hsorted).mp hgap).1
    exact ⟨mem_sortedSequences.mp h.low_mem,
      mem_sortedSequences.mp h.high_mem⟩
  · intro value
    rw [covered_iff isGap_discerns hsorted]
    simp only [mem_sortedSequences]

section Report

variable [Target] (formatGuid : Guid → String)

/-- An audit reports every store and exactly the missing numbers. -/
structure AuditReport (image : Image) (entries : List CatalogEntry)
    (anomalies : List Anomaly) : Prop where
  silent : anomalies = [] ↔ ¬ HeaderPresent image
  none : anomalies = [.new .noShadowCopies] ↔
    HeaderPresent image ∧ snapshotEntries entries = []
  stores : HeaderPresent image → snapshotEntries entries ≠ [] →
    ∃ intervals, GapsOf (entrySequences entries) intervals ∧
      anomalies.filter (fun anomaly => !anomaly.kind.isStoreNonPersistent) =
        (snapshotEntries entries).map (presentAnomaly formatGuid) ++
          intervals.map fun gap => .new (.sequenceGap gap.1 gap.2)

omit [Target] in
theorem volumeOf_entrySequences (image : Image) :
    (volumeOf image).stores.map StoreDescriptor.sequence =
      entrySequences (walkedEntries image (volumeOf image)) := by
  rw [entrySequences, ← volumeOf_snapshots, List.map_map]
  rfl

omit [Target] in
theorem volumeOf_presents (image : Image) :
    (volumeOf image).stores.map (presentAnomaly formatGuid) =
      (snapshotEntries (walkedEntries image (volumeOf image))).map
        (presentAnomaly formatGuid) := by
  rw [← volumeOf_snapshots, List.map_map]
  rfl

omit [Target] in
theorem stores_eq_nil_iff (image : Image) :
    (volumeOf image).stores = [] ↔
      snapshotEntries (walkedEntries image (volumeOf image)) = [] := by
  rw [← volumeOf_snapshots, List.map_eq_nil_iff]

omit [Target] in
theorem stores_of_absent {image : Image} (h : ¬ HeaderPresent image) :
    (volumeOf image).stores = [] := by
  have hflag : ¬ (volumeOf image).hasVssHeader = true :=
    mt (hasVssHeader_iff image).mp h
  rw [volumeOf_stores_eq, walkedEntries, if_neg (by simp [hflag])]
  rfl

theorem auditOf_absent {image : Image} (h : ¬ HeaderPresent image) :
    auditOf formatGuid (volumeOf image) image = [] := by
  have hflag : ¬ (volumeOf image).hasVssHeader = true :=
    mt (hasVssHeader_iff image).mp h
  rw [auditOf, if_neg (by simp [hflag]), stores_of_absent h]
  simp [gapAnomalies]

theorem auditOf_no_stores {image : Image} (h : HeaderPresent image)
    (hstores : (volumeOf image).stores = []) :
    auditOf formatGuid (volumeOf image) image = [.new .noShadowCopies] := by
  rw [auditOf,
    if_pos (by simp [(hasVssHeader_iff image).mpr h, hstores])]

theorem presentAnomaly_mem_auditOf {volume : VssVolume}
    {d : StoreDescriptor} {rest : List StoreDescriptor}
    (hstores : volume.stores = d :: rest) (image : Image) :
    presentAnomaly formatGuid d ∈ auditOf formatGuid volume image := by
  rw [auditOf, if_neg (by simp [hstores]), hstores]
  exact List.mem_append_left _
    (List.mem_append_left _ (List.mem_cons_self ..))

theorem auditReport (image : Image) :
    AuditReport formatGuid image (walkedEntries image (volumeOf image))
      (auditOf formatGuid (volumeOf image) image) := by
  have hnone := stores_eq_nil_iff image
  cases hstores : (volumeOf image).stores with
  | nil =>
      by_cases hpresent : HeaderPresent image
      · rw [auditOf_no_stores formatGuid hpresent hstores]
        refine ⟨?_, ?_, ?_⟩
        · exact iff_of_false (List.cons_ne_nil _ _) fun h => h hpresent
        · exact iff_of_true rfl ⟨hpresent, hnone.mp hstores⟩
        · exact fun _ hne => absurd (hnone.mp hstores) hne
      · rw [auditOf_absent formatGuid hpresent]
        refine ⟨iff_of_true rfl hpresent, ?_, fun h => absurd h hpresent⟩
        exact iff_of_false (List.cons_ne_nil _ _).symm fun h => hpresent h.1
  | cons d rest =>
      have hne : (volumeOf image).stores ≠ [] := by
        rw [hstores]
        exact List.cons_ne_nil _ _
      have hpresent : HeaderPresent image := by
        by_contra h
        exact hne (stores_of_absent h)
      have hsome := presentAnomaly_mem_auditOf formatGuid hstores image
      refine ⟨?_, ?_, ?_⟩
      · refine iff_of_false (fun h => ?_) (fun h => h hpresent)
        rw [h] at hsome
        contradiction
      · refine iff_of_false (fun h => ?_) fun h => hne (hnone.mpr h.2)
        rw [h, List.mem_singleton] at hsome
        have hkind : true = false :=
          congrArg (fun anomaly => anomaly.kind.isStorePresent) hsome
        contradiction
      · intro _ _
        refine ⟨_, gapsOf_gaps _, ?_⟩
        have hfilter := filter_auditOf formatGuid (volumeOf image) image
          (fun kind => !kind.isStoreNonPersistent) true true false
          (.inr hne) (fun _ _ _ _ => rfl) (fun _ _ => rfl) fun _ _ => rfl
        rw [volumeOf_presents, volumeOf_entrySequences, gapAnomalies_eq]
          at hfilter
        exact hfilter.trans (List.append_nil _)

theorem sequenceGaps_auditOf (image : Image) :
    (auditOf formatGuid (volumeOf image) image).filter
        (fun anomaly => anomaly.kind.isSequenceGap) =
      gapAnomalies (entrySequences
        (walkedEntries image (volumeOf image))) := by
  have hfilter := filter_auditOf formatGuid (volumeOf image) image
    AnomalyKind.isSequenceGap false true false (.inl rfl)
    (fun _ _ _ _ => rfl) (fun _ _ => rfl) fun _ _ => rfl
  rw [volumeOf_entrySequences] at hfilter
  exact hfilter.trans (List.append_nil _)

end Report

/-- Over any image an audit reports what it should, and its gaps depend only on
which sequence numbers the catalog holds. -/
theorem audit_reports [Target] (formatGuid : Guid → String) (image : Image) :
    ∃ volume anomalies, openVolume.runOn image = .ok volume ∧
      HeaderRead image volume ∧
      Returns image (audit formatGuid volume) anomalies ∧
      AuditReport formatGuid image (walkedEntries image volume) anomalies ∧
      ∀ (other : Image) (otherVolume : VssVolume)
        (otherAnomalies : List Anomaly),
        openVolume.runOn other = .ok otherVolume →
        Returns other (audit formatGuid otherVolume) otherAnomalies →
        (∀ value, value ∈ entrySequences (walkedEntries image volume) ↔
          value ∈ entrySequences (walkedEntries other otherVolume)) →
        anomalies.filter (fun anomaly => anomaly.kind.isSequenceGap) =
          otherAnomalies.filter
            fun anomaly => anomaly.kind.isSequenceGap := by
  refine ⟨volumeOf image, auditOf formatGuid (volumeOf image) image,
    (openVolume_runs image).runOn, volumeOf_headerRead image,
    audit_returns formatGuid rfl, auditReport formatGuid image, ?_⟩
  intro other otherVolume otherAnomalies hopen haudit hsame
  obtain rfl := Outcome.ok.inj ((openVolume_runs other).runOn.symm.trans hopen)
  have hother : Returns other (audit formatGuid (volumeOf other))
      (auditOf formatGuid (volumeOf other) other) :=
    audit_returns formatGuid rfl
  obtain rfl := Outcome.ok.inj (hother.runOn.symm.trans haudit.runOn)
  rw [sequenceGaps_auditOf, sequenceGaps_auditOf]
  exact gapAnomalies_congr hsame

end ShadowCopy.Forensic
