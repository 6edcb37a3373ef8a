import ShadowCopy.Forensic.Audit
import ShadowCopy.Session.Faults

namespace ShadowCopy.Forensic

open ShadowCopy.Data
open ShadowCopy.Core

/-! The audit over a reader whose calls may fail. -/

section Degraded

variable [Target] (formatGuid : Guid → String)

/-- The reader the attribute loop has when it comes to a store. -/
def readerBefore (volume : VssVolume) (reader : Reader) : Nat → Reader
  | 0 => reader
  | index + 1 =>
      (volume.storeInfo index (readerBefore volume reader index)).2

/-- No call failed while the information of a store was read. -/
def Heard (volume : VssVolume) (reader : Reader) (index : Nat) : Prop :=
  (readerBefore volume reader index).Quiet
    (readerBefore volume reader (index + 1)).calls

instance (volume : VssVolume) (reader : Reader) (index : Nat) :
    Decidable (Heard volume reader index) :=
  inferInstanceAs (Decidable (Reader.Quiet _ _))

variable {volume : VssVolume} {image : Image} {reader : Reader}

theorem readerBefore_succ (index : Nat) :
    readerBefore volume reader (index + 1) =
      (volume.storeInfo index (readerBefore volume reader index)).2 := rfl

theorem readerBefore_image
    (hsize : volume.volumeSize = UInt64.ofNat reader.image.size)
    (index : Nat) : (readerBefore volume reader index).image = reader.image := by
  induction index with
  | zero => rfl
  | succ index ih =>
      exact (VssVolume.storeInfo_runs hsize index).image_eq ih

theorem readerBefore_calls_le
    (hsize : volume.volumeSize = UInt64.ofNat reader.image.size)
    (index : Nat) :
    (readerBefore volume reader index).calls ≤ reader.calls + 3 * index := by
  induction index with
  | zero => exact Nat.le_refl _
  | succ index ih =>
      have himage := readerBefore_image hsize index
      have hthree := (VssVolume.storeInfo_serves
        (himage.symm ▸ hsize) index).calls_le
          (VssVolume.storeInfoCalls_le _ _ index)
      rw [readerBefore_succ]
      omega

theorem heard_or_failed
    (hsize : volume.volumeSize = UInt64.ofNat reader.image.size)
    (index : Nat) :
    (Heard volume reader index ∧
        (volume.storeInfo index (readerBefore volume reader index)).1 =
          volume.storeInfoOf reader.image index) ∨
      (¬ Heard volume reader index ∧ ∃ error,
        (volume.storeInfo index (readerBefore volume reader index)).1 =
          .err error) := by
  have himage := readerBefore_image hsize index
  have served := VssVolume.storeInfo_runs hsize index _ himage
    (Runs.knownAt_none _)
  rcases served.outcome with ⟨hquiet, hvalue, _⟩ | ⟨hnoisy, error, hvalue⟩
  · exact .inl ⟨hquiet, hvalue⟩
  · exact .inr ⟨hnoisy, _, hvalue⟩

/-- One turn of the attribute loop: a store that is not heard adds nothing. -/
theorem checkAttributes_faulty
    (hsize : volume.volumeSize = UInt64.ofNat reader.image.size)
    (out : List Anomaly) (descriptor : StoreDescriptor) (index : Nat) :
    checkAttributes formatGuid volume out (descriptor, index)
        (readerBefore volume reader index) =
      (.ok (out ++ if Heard volume reader index then
          attributeFindings formatGuid volume reader.image descriptor index
        else []), readerBefore volume reader (index + 1)) := by
  have hpanic := storeInfoOf_ne_panic volume reader.image index
  change ReadM.bind (volume.storeInfo index).attempt _ _ =
    (_, (volume.storeInfo index (readerBefore volume reader index)).2)
  unfold ReadM.bind ReadM.attempt
  rcases heard_or_failed hsize index with
    ⟨hheard, hvalue⟩ | ⟨hharmed, error, hvalue⟩
  · rw [if_pos hheard]
    unfold attributeFindings
    generalize volume.storeInfo index (readerBefore volume reader index) =
      finished at *
    obtain ⟨outcome, after⟩ := finished
    change outcome = _ at hvalue
    subst outcome
    cases hinfo : volume.storeInfoOf reader.image index with
    | panic => exact absurd hinfo hpanic
    | err error =>
        change _ = (Outcome.ok (out ++ []), after)
        rw [List.append_nil]
        rfl
    | ok info =>
        dsimp only [Outcome.toOption]
        cases !info.attributes.isPersistent with
        | true => rfl
        | false =>
            change _ = (Outcome.ok (out ++ []), after)
            rw [List.append_nil]
            rfl
  · rw [if_neg hharmed, List.append_nil]
    generalize volume.storeInfo index (readerBefore volume reader index) =
      finished at *
    obtain ⟨outcome, after⟩ := finished
    change outcome = _ at hvalue
    subst outcome
    rfl

/-- The loop over some of the stores: induction on them. -/
theorem attributeLoop_faulty
    (hsize : volume.volumeSize = UInt64.ofNat reader.image.size)
    (stores : List StoreDescriptor) (start : Nat) (out : List Anomaly) :
    (stores.zipIdx start).foldlM (checkAttributes formatGuid volume) out
        (readerBefore volume reader start) =
      (.ok (out ++ (stores.zipIdx start).flatMap fun (d, index) =>
          if Heard volume reader index then
            attributeFindings formatGuid volume reader.image d index
          else []),
        readerBefore volume reader (start + stores.length)) := by
  induction stores generalizing start out with
  | nil =>
      rw [List.zipIdx_nil, List.foldlM_nil, List.flatMap_nil, List.append_nil]
      rfl
  | cons d rest ih =>
      rw [List.zipIdx_cons, List.foldlM_cons]
      change ReadM.bind (checkAttributes formatGuid volume out (d, start)) _ _ =
        _
      unfold ReadM.bind
      rw [checkAttributes_faulty formatGuid hsize out d start]
      dsimp only
      rw [ih (start + 1), List.flatMap_cons, List.append_assoc,
        List.length_cons, Nat.add_right_comm start 1]
      rfl

/-- What the audit says of the stores and of their sequence numbers. -/
def catalogFindings (volume : VssVolume) : List Anomaly :=
  if volume.hasVssHeader && volume.stores.isEmpty then
    [.new .noShadowCopies]
  else
    volume.stores.map (presentAnomaly formatGuid) ++
      gapAnomalies (volume.stores.map StoreDescriptor.sequence)

/-- What it says of the attributes of the stores that are heard. -/
def heardFindings (volume : VssVolume) (reader : Reader) : List Anomaly :=
  volume.stores.zipIdx.flatMap fun (d, index) =>
    if Heard volume reader index then
      attributeFindings formatGuid volume reader.image d index
    else []

theorem audit_faulty
    (hsize : volume.volumeSize = UInt64.ofNat reader.image.size) :
    audit formatGuid volume reader =
      (.ok (catalogFindings formatGuid volume ++
          heardFindings formatGuid volume reader),
        readerBefore volume reader volume.stores.length) := by
  unfold audit catalogFindings heardFindings
  split
  · rename_i hnone
    rw [List.isEmpty_iff.mp (Bool.and_eq_true_iff.mp hnone).2]
    rfl
  · have hloop := attributeLoop_faulty formatGuid hsize volume.stores 0
      (volume.stores.map (presentAnomaly formatGuid) ++
        gapAnomalies (volume.stores.map StoreDescriptor.sequence))
    rw [Nat.zero_add] at hloop
    exact hloop

omit [Target] in
theorem mem_catalogFindings {anomaly : Anomaly} :
    anomaly ∈ catalogFindings formatGuid volume ↔
      (anomaly = .new .noShadowCopies ∧ volume.hasVssHeader = true ∧
        volume.stores = []) ∨
      (∃ d ∈ volume.stores, anomaly = presentAnomaly formatGuid d) ∨
      ∃ gap ∈ gaps isGap
          (sortedSequences (volume.stores.map StoreDescriptor.sequence)),
        anomaly = .new (.sequenceGap gap.1 gap.2) := by
  have hlisted : anomaly ∈ volume.stores.map (presentAnomaly formatGuid) ++
      gapAnomalies (volume.stores.map StoreDescriptor.sequence) ↔
        (∃ d ∈ volume.stores, anomaly = presentAnomaly formatGuid d) ∨
        ∃ gap ∈ gaps isGap
            (sortedSequences (volume.stores.map StoreDescriptor.sequence)),
          anomaly = .new (.sequenceGap gap.1 gap.2) := by
    rw [gapAnomalies_eq, List.mem_append, List.mem_map, List.mem_map]
    simp only [eq_comm]
  unfold catalogFindings
  split
  · rename_i hnone
    obtain ⟨hheader, hempty⟩ := Bool.and_eq_true_iff.mp hnone
    have hstores := List.isEmpty_iff.mp hempty
    rw [← hlisted, hstores, List.mem_singleton]
    simp [hheader, gapAnomalies]
  · rename_i hsome
    rw [hlisted]
    refine (or_iff_right ?_).symm
    rintro ⟨_, hheader, hstores⟩
    exact hsome (Bool.and_eq_true_iff.mpr ⟨hheader, List.isEmpty_iff.mpr hstores⟩)

omit [Target] in
theorem catalogFindings_kind {anomaly : Anomaly}
    (h : anomaly ∈ catalogFindings formatGuid volume) :
    anomaly = .new .noShadowCopies ∨
      (∃ d ∈ volume.stores, anomaly = presentAnomaly formatGuid d) ∨
      ∃ previous next, anomaly = .new (.sequenceGap previous next) := by
  rcases (mem_catalogFindings formatGuid).mp h with
    ⟨hnone, _⟩ | hpresent | ⟨gap, _, hgap⟩
  · exact .inl hnone
  · exact .inr (.inl hpresent)
  · exact .inr (.inr ⟨_, _, hgap⟩)

theorem heardFindings_kind {anomaly : Anomaly}
    (h : anomaly ∈ heardFindings formatGuid volume reader) :
    ∃ d ∈ volume.stores, ∃ attributeFlags,
      anomaly = .new (.storeNonPersistent (formatGuid d.storeId)
        attributeFlags) := by
  obtain ⟨⟨d, index⟩, hd, hfinding⟩ := List.mem_flatMap.mp h
  have hlisted : d ∈ volume.stores :=
    List.mem_of_getElem? (List.mem_zipIdx_iff_getElem?.mp hd)
  dsimp only at hfinding
  split at hfinding
  · unfold attributeFindings at hfinding
    split at hfinding
    · split at hfinding
      · exact ⟨d, hlisted, _, List.mem_singleton.mp hfinding⟩
      · contradiction
    · contradiction
  · contradiction

/-- The audit never fails.  What it says of the stores and of their sequence
numbers does not depend on the reader; the attributes of a store are judged as
on a healthy reader, or not at all if a call failed while they were read. -/
theorem audit_survives_faults (reader : Reader) :
    ∃ volume : VssVolume, openVolume.runOn reader.image = .ok volume ∧
      ∃ report : List Anomaly,
        (∀ anomaly ∈ report, anomaly.kind.isStoreNonPersistent = false) ∧
        (audit formatGuid volume).runOn reader.image =
          .ok (report ++ volume.stores.zipIdx.flatMap fun (d, index) =>
            attributeFindings formatGuid volume reader.image d index) ∧
        (audit formatGuid volume reader).1 =
          .ok (report ++ volume.stores.zipIdx.flatMap fun (d, index) =>
            if Heard volume reader index then
              attributeFindings formatGuid volume reader.image d index
            else []) ∧
        (audit formatGuid volume reader).2.calls ≤
          reader.calls + 3 * volume.storeCount := by
  have hsize : (volumeOf reader.image).volumeSize =
      UInt64.ofNat reader.image.size := rfl
  refine ⟨_, (openVolume_runs _).runOn, ?_⟩
  generalize volumeOf reader.image = volume at *
  have hfaulty := audit_faulty formatGuid hsize
  refine ⟨catalogFindings formatGuid volume, ?_, ?_, ?_, ?_⟩
  · intro anomaly hmem
    rcases catalogFindings_kind formatGuid hmem with
      rfl | ⟨d, _, rfl⟩ | ⟨previous, next, rfl⟩
    · rfl
    · rfl
    · rfl
  · have halone : (audit formatGuid volume).runOn reader.image = _ :=
      (audit_returns formatGuid hsize).runOn
    rw [halone]
    unfold auditOf catalogFindings
    split
    · rename_i hnone
      rw [List.isEmpty_iff.mp (Bool.and_eq_true_iff.mp hnone).2]
      rfl
    · rfl
  · exact congrArg Prod.fst hfaulty
  · exact (congrArg (fun finished => finished.2.calls) hfaulty).trans_le
      (readerBefore_calls_le hsize volume.stores.length)

end Degraded

end ShadowCopy.Forensic
