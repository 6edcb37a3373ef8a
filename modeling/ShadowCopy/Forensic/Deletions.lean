import ShadowCopy.Data.Ledger
import ShadowCopy.Forensic.Degraded
import ShadowCopy.Forensic.NonPersistent
import ShadowCopy.Forensic.Sequences
import ShadowCopy.Format.Volume

namespace ShadowCopy.Forensic

open ShadowCopy.Data
open ShadowCopy.Core

/-! What an audit tells of the shadow copies that were deleted. -/

/-- The catalog lists the numbers that are held. -/
def Lists {first : Nat} (volume : VssVolume) (ledger : Ledger first) : Prop :=
  ∀ number, (∃ d ∈ volume.stores, d.sequence.toNat = number) ↔
    number ∈ ledger.held

section Deletions

variable {first : Nat} {volume : VssVolume} {ledger : Ledger first}

theorem Lists.held_eq_nil_iff (h : Lists volume ledger) :
    volume.stores = [] ↔ ledger.held = [] := by
  simp only [List.eq_nil_iff_forall_not_mem, ← h _]
  exact ⟨fun hnone number ⟨d, hd, _⟩ => hnone d hd,
    fun hnone d hd => hnone _ ⟨d, hd, rfl⟩⟩

/-- The gaps of the catalog cover the numbers withdrawn between two that are
held. -/
theorem Lists.covered_iff (h : Lists volume ledger) (number : Nat) :
    (∃ gap ∈ gaps isGap
        (sortedSequences (volume.stores.map StoreDescriptor.sequence)),
      gap.1.toNat < number ∧ number < gap.2.toNat) ↔
    number ∈ ledger.withdrawn ∧ (∃ low ∈ ledger.held, low < number) ∧
      ∃ high ∈ ledger.held, number < high := by
  have hgaps := gapsOf_gaps (volume.stores.map StoreDescriptor.sequence)
  have hlisted : ∀ value : UInt64,
      value ∈ volume.stores.map StoreDescriptor.sequence ↔
        value.toNat ∈ ledger.held := by
    intro value
    rw [List.mem_map, ← h]
    simp only [UInt64.toNat_inj]
  rw [← ledger.missing_iff]
  constructor
  · rintro ⟨gap, hgap, hlow, hhigh⟩
    have hvalue : (UInt64.ofNat number).toNat = number :=
      UInt64.toNat_ofNat_of_lt' (Nat.lt_trans hhigh gap.2.toNat_lt)
    obtain ⟨hmissing, _⟩ := (hgaps.missing (UInt64.ofNat number)).mp
      ⟨gap, hgap, by rwa [UInt64.lt_iff_toNat_lt, hvalue],
        by rwa [UInt64.lt_iff_toNat_lt, hvalue]⟩
    obtain ⟨hprevious, hnext⟩ := hgaps.ends gap hgap
    rw [hlisted, hvalue] at hmissing
    exact ⟨hmissing, ⟨_, (hlisted _).mp hprevious, hlow⟩, _,
      (hlisted _).mp hnext, hhigh⟩
  · rintro ⟨hmissing, ⟨low, hlow, hbelow⟩, high, hhigh, habove⟩
    obtain ⟨least, hleast, rfl⟩ := (h low).mpr hlow
    obtain ⟨most, hmost, rfl⟩ := (h high).mpr hhigh
    have hvalue : (UInt64.ofNat number).toNat = number :=
      UInt64.toNat_ofNat_of_lt' (Nat.lt_trans habove most.sequence.toNat_lt)
    obtain ⟨gap, hgap, hprevious, hnext⟩ :=
      (hgaps.missing (UInt64.ofNat number)).mpr
        ⟨by rwa [hlisted, hvalue],
          ⟨_, List.mem_map_of_mem hleast, by
            rwa [UInt64.lt_iff_toNat_lt, hvalue]⟩,
          _, List.mem_map_of_mem hmost, by
            rwa [UInt64.lt_iff_toNat_lt, hvalue]⟩
    rw [UInt64.lt_iff_toNat_lt, hvalue] at hprevious hnext
    exact ⟨gap, hgap, hprevious, hnext⟩

end Deletions

theorem new_inj {left right : AnomalyKind} :
    Anomaly.new left = .new right ↔ left = right :=
  ⟨congrArg Anomaly.kind, congrArg Anomaly.new⟩

section Findings

variable [Target] (formatGuid : Guid → String) {volume : VssVolume}
  {reader : Reader}

/-- Nothing but findings on attributes depends on what is heard of a store. -/
theorem new_mem_audit_iff {kind : AnomalyKind}
    (h : kind.isStoreNonPersistent = false) :
    .new kind ∈ catalogFindings formatGuid volume ++
        heardFindings formatGuid volume reader ↔
      .new kind ∈ catalogFindings formatGuid volume := by
  rw [List.mem_append]
  apply or_iff_left
  intro hheard
  obtain ⟨d, _, attributeFlags, hflagged⟩ := heardFindings_kind formatGuid hheard
  rw [new_inj.mp hflagged] at h
  contradiction

omit [Target] in
theorem noShadowCopies_mem_iff :
    .new .noShadowCopies ∈ catalogFindings formatGuid volume ↔
      volume.hasVssHeader = true ∧ volume.stores = [] := by
  rw [mem_catalogFindings]
  simp [presentAnomaly, new_inj]

omit [Target] in
theorem storePresent_mem_iff {storeId : String}
    {sequence volumeSize creationTime : UInt64} :
    .new (.storePresent storeId sequence volumeSize creationTime) ∈
        catalogFindings formatGuid volume ↔
      ∃ d ∈ volume.stores, storeId = formatGuid d.storeId ∧
        sequence = d.sequence ∧ volumeSize = d.volumeSize ∧
          creationTime = d.creationTime := by
  rw [mem_catalogFindings]
  simp [presentAnomaly, new_inj]

omit [Target] in
theorem sequenceGap_mem_iff {previous next : UInt64} :
    .new (.sequenceGap previous next) ∈ catalogFindings formatGuid volume ↔
      (previous, next) ∈ gaps isGap
        (sortedSequences (volume.stores.map StoreDescriptor.sequence)) := by
  rw [mem_catalogFindings]
  simp [presentAnomaly, new_inj]

end Findings

/-- What a history of numbers issued and withdrawn leaves in an audit. -/
structure DeletionReport (first : Nat) (events : List LedgerEvent)
    (volume : VssVolume) (anomalies : List Anomaly) : Prop where
  none : .new .noShadowCopies ∈ anomalies ↔
    volume.hasVssHeader = true ∧ (Ledger.run first events).held = []
  present : ∀ number,
    (∃ storeId sequence volumeSize creationTime,
      .new (.storePresent storeId sequence volumeSize creationTime) ∈
        anomalies ∧ sequence.toNat = number) ↔
    number ∈ (Ledger.run first events).held
  deleted : ∀ number,
    (∃ previous next, .new (.sequenceGap previous next) ∈ anomalies ∧
      previous.toNat < number ∧ number < next.toNat) ↔
    (∃ before after, events = before ++ .withdraw number :: after ∧
      number ∈ (Ledger.run first before).held) ∧
    (∃ low ∈ (Ledger.run first events).held, low < number) ∧
    ∃ high ∈ (Ledger.run first events).held, number < high

/-- Shadow copies are numbered in turn and deleted in any order.  If the catalog
lists what is left, an audit over any reader tells the numbers that are left,
and its gaps cover exactly the deleted ones that lie between two of them. -/
theorem audit_tells_deletions [Target] (formatGuid : Guid → String)
    {first : Nat} {events : List LedgerEvent} {reader : Reader}
    {volume : VssVolume} (hopen : openVolume.runOn reader.image = .ok volume)
    (hlists : Lists volume (Ledger.run first events)) :
    ∃ anomalies, (audit formatGuid volume reader).1 = .ok anomalies ∧
      DeletionReport first events volume anomalies := by
  have hvolume : volumeOf reader.image = volume :=
    Outcome.ok.inj ((openVolume_runs reader.image).runOn.symm.trans hopen)
  subst hvolume
  refine ⟨_, congrArg Prod.fst (audit_faulty formatGuid rfl), ?_, ?_, ?_⟩
  · rw [new_mem_audit_iff formatGuid rfl, noShadowCopies_mem_iff,
      hlists.held_eq_nil_iff]
  · intro number
    rw [← hlists]
    constructor
    · rintro ⟨storeId, sequence, volumeSize, creationTime, hmem, rfl⟩
      rw [new_mem_audit_iff formatGuid rfl, storePresent_mem_iff] at hmem
      obtain ⟨d, hd, _, rfl, _⟩ := hmem
      exact ⟨d, hd, rfl⟩
    · rintro ⟨d, hd, rfl⟩
      have hmem := (storePresent_mem_iff formatGuid).mpr
        ⟨d, hd, rfl, rfl, rfl, rfl⟩
      exact ⟨_, _, _, _, (new_mem_audit_iff formatGuid rfl).mpr hmem, rfl⟩
  · intro number
    have hgap : ∀ previous next,
        .new (.sequenceGap previous next) ∈
            catalogFindings formatGuid (volumeOf reader.image) ++
              heardFindings formatGuid (volumeOf reader.image) reader ↔
          (previous, next) ∈ gaps isGap (sortedSequences
            ((volumeOf reader.image).stores.map StoreDescriptor.sequence)) :=
      fun _ _ => (new_mem_audit_iff formatGuid rfl).trans
        (sequenceGap_mem_iff formatGuid)
    rw [← Ledger.mem_withdrawn_run, ← hlists.covered_iff]
    simp only [hgap, Prod.exists]

/-! Three copies, the second of which was deleted. -/

def deletedLayout : VolumeLayout where
  copies :=
    [ ⟨sampleGuid 1, 114688, 1, 0, 0, none⟩,
      ⟨sampleGuid 3, 114688, 3, 0, 0, none⟩ ]
  catalog :=
    [ (16384,
        ⟨[ .snapshot ⟨sampleGuid 1, 114688, 1, 0, 0, none, none⟩, .empty,
            .snapshot ⟨sampleGuid 3, 114688, 3, 0, 0, none, none⟩ ],
          by decide, by simp [CatalogEntry.Bare]⟩) ]
  catalogFollowed := ⟨by decide, by decide, by decide⟩
  listed := rfl

theorem deletedLayout_fits : deletedLayout.Fits 114688 := by
  rw [VolumeLayout.fits_iff]
  decide +kernel

theorem deletedLayout_lists (size : Nat) : Lists (deletedLayout.volume size)
    (Ledger.run 1 [.issue, .issue, .issue, .withdraw 2]) := by
  intro number
  have hheld : (Ledger.run 1 [.issue, .issue, .issue, .withdraw 2]).held =
      [1, 3] := rfl
  rw [hheld]
  simp [deletedLayout, VolumeLayout.volume, CopyLayout.descriptor,
    CopyLayout.bare, eq_comm]

theorem audit_tells_deletions_one : let _ := Target.bits64
    ∃ anomalies, (audit hyphenated (deletedLayout.volume 114688)
        (Reader.fresh (deletedLayout.write oneBackground) 0)).1 =
          .ok anomalies ∧
      ∃ previous next, .new (.sequenceGap previous next) ∈ anomalies ∧
        previous.toNat < 2 ∧ 2 < next.toNat := by
  intro _
  have hopen := @openVolume_write deletedLayout oneBackground _
    deletedLayout_fits
  obtain ⟨anomalies, haudit, hreport⟩ := @audit_tells_deletions _ hyphenated 1
    _ (Reader.fresh (deletedLayout.write oneBackground) 0) _ hopen
      (deletedLayout_lists 114688)
  refine ⟨anomalies, haudit, (hreport.deleted 2).mpr ⟨?_, ?_, ?_⟩⟩
  · exact ⟨[.issue, .issue, .issue], [], rfl, by decide⟩
  · exact ⟨1, by decide, by decide⟩
  · exact ⟨3, by decide, by decide⟩

end ShadowCopy.Forensic
