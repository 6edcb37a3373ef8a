import ShadowCopy.Core.Volume
import ShadowCopy.Data.Gaps

namespace ShadowCopy.Forensic

open ShadowCopy.Data
open ShadowCopy.Core

inductive AnomalyKind where
  | noShadowCopies
  | storePresent (storeId : String)
      (sequence volumeSize creationTime : UInt64)
  | sequenceGap (previous next : UInt64)
  | storeNonPersistent (storeId : String) (attributeFlags : UInt32)
  deriving DecidableEq

inductive Severity where
  | info
  | low
  | medium
  deriving DecidableEq

/-- `{value:08x}`. -/
def hexWord (value : UInt32) : String :=
  String.ofList ((List.range 8).map fun k =>
    Nat.digitChar (value.toNat / 16 ^ (7 - k) % 16))

namespace AnomalyKind

def severity : AnomalyKind → Severity
  | .storePresent .. => .info
  | .noShadowCopies => .low
  | .storeNonPersistent .. => .low
  | .sequenceGap .. => .medium

def code : AnomalyKind → String
  | .noShadowCopies => "VSC-NO-SHADOW-COPIES"
  | .storePresent .. => "VSC-STORE-PRESENT"
  | .sequenceGap .. => "VSC-SEQUENCE-GAP"
  | .storeNonPersistent .. => "VSC-STORE-NON-PERSISTENT"

def note : AnomalyKind → String
  | .noShadowCopies =>
      "the volume carries a VSS volume header but the catalog " ++
      "enumerated zero shadow-copy stores; consistent with shadow-copy " ++
      "deletion (MITRE T1490) or a volume that never had snapshots — not a " ++
      "determination of deletion"
  | .storePresent storeId sequence volumeSize _ =>
      s!"shadow copy {storeId} is present (catalog sequence {sequence}, " ++
      s!"shadow volume size {volumeSize} bytes)"
  | .sequenceGap previous next =>
      s!"catalog sequence numbers are non-contiguous ({previous} -> {next}" ++
      "); consistent with a deleted intermediate shadow copy"
  | .storeNonPersistent storeId attributeFlags =>
      s!"shadow copy {storeId} attribute flags 0x" ++ hexWord attributeFlags ++
      " lack the persistent bit; a non-persistent shadow copy does not " ++
      "survive a reboot"

def isStorePresent : AnomalyKind → Bool
  | .storePresent .. => true
  | _ => false

def isSequenceGap : AnomalyKind → Bool
  | .sequenceGap .. => true
  | _ => false

def isStoreNonPersistent : AnomalyKind → Bool
  | .storeNonPersistent .. => true
  | _ => false

end AnomalyKind

structure Anomaly where
  severity : Severity
  code : String
  kind : AnomalyKind
  note : String
  deriving DecidableEq

def Anomaly.new (kind : AnomalyKind) : Anomaly where
  severity := kind.severity
  code := kind.code
  kind := kind
  note := kind.note

section Programs

variable [Target] (formatGuid : Guid → String)

def presentAnomaly (descriptor : StoreDescriptor) : Anomaly :=
  .new (.storePresent (formatGuid descriptor.storeId) descriptor.sequence
    descriptor.volumeSize descriptor.creationTime)

/-- The `SequenceGap` loop over the sorted sequence numbers. -/
def gapAnomalies (sequences : List UInt64) : List Anomaly :=
  let sequences := sequences.mergeSort fun left right => left ≤ right
  (sequences.zip (sequences.drop 1)).filterMap fun (previous, next) =>
    if next > saturatingAdd previous 1 then
      some (.new (.sequenceGap previous next))
    else
      none

/-- One turn of the attribute loop. -/
def checkAttributes (volume : VssVolume) (out : List Anomaly) :
    StoreDescriptor × Nat → ReadM Empty (List Anomaly)
  | (descriptor, index) => do
      match ← (volume.storeInfo index).attempt with
      | some info =>
          if !info.attributes.isPersistent then
            return out ++ [.new (.storeNonPersistent
              (formatGuid descriptor.storeId) info.attributes.bits)]
          else
            return out
      | none => return out

/-- `audit`; `formatGuid` renders an identifier. -/
def audit (volume : VssVolume) : ReadM Empty (List Anomaly) :=
  if volume.hasVssHeader && volume.stores.isEmpty then
    return [.new .noShadowCopies]
  else
    volume.stores.zipIdx.foldlM (checkAttributes formatGuid volume)
      (volume.stores.map (presentAnomaly formatGuid) ++
        gapAnomalies (volume.stores.map StoreDescriptor.sequence))

end Programs

/-! What the audit finds over an image. -/

theorem filter_eq_ite {items : List α} {test : α → Bool} {answer : Bool}
    (h : ∀ item ∈ items, test item = answer) :
    items.filter test = if answer then items else [] := by
  cases answer with
  | true => exact List.filter_eq_self.mpr h
  | false =>
      refine List.filter_eq_nil_iff.mpr fun item hitem => ?_
      rw [h item hitem]
      exact Bool.false_ne_true

def isGap (previous next : UInt64) : Bool :=
  next > saturatingAdd previous 1

def sortedSequences (sequences : List UInt64) : List UInt64 :=
  sequences.mergeSort fun left right => left ≤ right

theorem gapAnomalies_eq (sequences : List UInt64) :
    gapAnomalies sequences =
      (gaps isGap (sortedSequences sequences)).map fun pair =>
        .new (.sequenceGap pair.1 pair.2) := by
  rw [gapAnomalies, gaps, ← List.drop_one]
  unfold sortedSequences isGap
  generalize (sequences.mergeSort fun left right => left ≤ right).zip
    ((sequences.mergeSort fun left right => left ≤ right).drop 1) = pairs
  induction pairs with
  | nil => rfl
  | cons pair rest ih =>
      obtain ⟨previous, next⟩ := pair
      by_cases hgap : next > saturatingAdd previous 1 <;> simp [hgap, ih]

section Findings

variable [Target] (formatGuid : Guid → String)

def attributeFindings (volume : VssVolume) (image : Image)
    (descriptor : StoreDescriptor) (index : Nat) : List Anomaly :=
  match (volume.storeInfoOf image index).toOption with
  | some info =>
      if !info.attributes.isPersistent then
        [.new (.storeNonPersistent (formatGuid descriptor.storeId)
          info.attributes.bits)]
      else
        []
  | none => []

def auditOf (volume : VssVolume) (image : Image) : List Anomaly :=
  if volume.hasVssHeader && volume.stores.isEmpty then
    [.new .noShadowCopies]
  else
    volume.stores.map (presentAnomaly formatGuid) ++
      gapAnomalies (volume.stores.map StoreDescriptor.sequence) ++
        volume.stores.zipIdx.flatMap fun (descriptor, index) =>
          attributeFindings formatGuid volume image descriptor index

theorem storeInfoOf_ne_panic (volume : VssVolume) (image : Image)
    (index : Nat) : volume.storeInfoOf image index ≠ .panic := by
  unfold VssVolume.storeInfoOf
  split
  · exact fun h => nomatch h
  · split
    · exact fun h => nomatch h
    · split <;> exact fun h => nomatch h

variable {volume : VssVolume} {image : Image}

theorem checkAttributes_returns
    (hsize : volume.volumeSize = UInt64.ofNat image.size)
    (out : List Anomaly) (descriptor : StoreDescriptor) (index : Nat) :
    Returns image (checkAttributes formatGuid volume out (descriptor, index))
      (out ++ attributeFindings formatGuid volume image descriptor index) := by
  have hinfo : Returns image ((volume.storeInfo index).attempt : ReadM Empty _)
      (volume.storeInfoOf image index).toOption :=
    Returns.attempt ((VssVolume.storeInfo_runs hsize index).yields rfl)
      (storeInfoOf_ne_panic volume image index)
  refine Returns.bind hinfo ?_
  unfold attributeFindings
  cases (volume.storeInfoOf image index).toOption with
  | none =>
      rw [List.append_nil]
      exact Returns.pure out
  | some info =>
      dsimp only
      split
      · exact Returns.pure _
      · rw [List.append_nil]
        exact Returns.pure out

theorem audit_returns (hsize : volume.volumeSize = UInt64.ofNat image.size) :
    Returns image (audit formatGuid volume)
      (auditOf formatGuid volume image) := by
  unfold audit auditOf
  split
  · exact Returns.pure _
  · rw [List.flatMap_def, ← List.foldl_append_eq_append]
    apply Returns.foldlM
    intro out item _
    exact checkAttributes_returns formatGuid hsize out item.1 item.2

/-- The findings of some kinds, told from the three loops. -/
theorem filter_auditOf (volume : VssVolume) (image : Image)
    (keep : AnomalyKind → Bool) (present gap flagged : Bool)
    (hnone : keep .noShadowCopies = false ∨ volume.stores ≠ [])
    (hpresent : ∀ storeId sequence volumeSize creationTime,
      keep (.storePresent storeId sequence volumeSize creationTime) = present)
    (hgap : ∀ previous next, keep (.sequenceGap previous next) = gap)
    (hflagged : ∀ storeId attributeFlags,
      keep (.storeNonPersistent storeId attributeFlags) = flagged) :
    (auditOf formatGuid volume image).filter (fun anomaly => keep anomaly.kind) =
      (if present then volume.stores.map (presentAnomaly formatGuid) else []) ++
      (if gap then gapAnomalies (volume.stores.map StoreDescriptor.sequence)
        else []) ++
      (if flagged then volume.stores.zipIdx.flatMap fun (d, index) =>
          attributeFindings formatGuid volume image d index
        else []) := by
  unfold auditOf
  split
  · rename_i hempty
    have hstores : volume.stores = [] :=
      List.isEmpty_iff.mp (Bool.and_eq_true_iff.mp hempty).2
    rcases hnone with hnone | hnone
    · have hkind : keep (Anomaly.new .noShadowCopies).kind = false := hnone
      rw [List.filter_cons_of_neg (by rw [hkind]; exact Bool.false_ne_true),
        hstores]
      simp [gapAnomalies]
    · exact absurd hstores hnone
  · rw [List.filter_append, List.filter_append]
    congr 1
    · congr 1
      · apply filter_eq_ite
        intro anomaly hmem
        obtain ⟨d, _, rfl⟩ := List.mem_map.mp hmem
        exact hpresent ..
      · apply filter_eq_ite
        intro anomaly hmem
        rw [gapAnomalies_eq] at hmem
        obtain ⟨pair, _, rfl⟩ := List.mem_map.mp hmem
        exact hgap ..
    · apply filter_eq_ite
      intro anomaly hmem
      obtain ⟨⟨d, index⟩, _, hfinding⟩ := List.mem_flatMap.mp hmem
      dsimp only at hfinding
      unfold attributeFindings at hfinding
      split at hfinding
      · split at hfinding
        · rw [List.mem_singleton.mp hfinding]
          exact hflagged ..
        · contradiction
      · contradiction

end Findings

end ShadowCopy.Forensic
