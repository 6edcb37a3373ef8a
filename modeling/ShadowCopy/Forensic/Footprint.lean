import ShadowCopy.Core.Agreement
import ShadowCopy.Core.Information
import ShadowCopy.Forensic.Audit

namespace ShadowCopy.Forensic

open ShadowCopy.Data
open ShadowCopy.Core

/-! The part of a volume that its enumeration and audit depend on. -/

/-- Two images of one length with the same bytes on some spans. -/
structure AgreeOn (left right : Image) (spans : List (Nat × Nat)) : Prop where
  size : left.size = right.size
  bytes : ∀ span ∈ spans, ∀ position, span.1 ≤ position →
    position < span.1 + span.2 → left.byteAt position = right.byteAt position

theorem AgreeOn.read {left right : Image} {spans : List (Nat × Nat)}
    (h : AgreeOn left right spans) {span : Nat × Nat} (hspan : span ∈ spans)
    {off len : Nat} (hstart : span.1 ≤ off)
    (hstop : off + len ≤ span.1 + span.2) :
    left.read off len = right.read off len := by
  apply Vector.ext
  intro j hj
  rw [Image.getElem_read, Image.getElem_read]
  exact h.bytes span hspan _ (by omega) (by omega)

/-- The header, each catalog block looked at, and the header and information
of each store. -/
def footprint [Target] (image : Image) : List (Nat × Nat) :=
  (vssVolumeHeaderOffset.toNat, catalogBlockHeaderLen) ::
    ((catalogInspected image (volumeOf image).catalogOffset).map
        (fun off => (off.toNat, blockSize)) ++
      ((volumeOf image).stores.filterMap
        StoreDescriptor.storeHeaderOffset).map fun headerOff =>
          (headerOff.toNat,
            storeBlockHeaderLen + storeInfoLen image headerOff))

def spanned (spans : List (Nat × Nat)) : Nat :=
  (spans.map Prod.snd).sum

section Footprint

variable [Target] {left right : Image}

theorem volumeOf_of_agree (h : AgreeOn left right (footprint left)) :
    volumeOf left = volumeOf right := by
  apply volumeOf_congr h.size
  · exact h.read (List.mem_cons_self ..) (Nat.le_refl _) (Nat.le_refl _)
  · intro off hoff
    have hspan : (off.toNat, blockSize) ∈ footprint left :=
      List.mem_cons_of_mem _ (List.mem_append_left _
        (List.mem_map_of_mem hoff))
    exact congrArg Vector.toList
      (h.read hspan (Nat.le_refl _) (Nat.le_refl _))

theorem storeInfoAt_of_agree (h : AgreeOn left right (footprint left))
    {d : StoreDescriptor} (hd : d ∈ (volumeOf left).stores)
    {headerOff : UInt64} (hpointer : d.storeHeaderOffset = some headerOff) :
    storeInfoAt left headerOff = storeInfoAt right headerOff := by
  have hspan : (headerOff.toNat,
      storeBlockHeaderLen + storeInfoLen left headerOff) ∈ footprint left :=
    List.mem_cons_of_mem _ (List.mem_append_right _
      (List.mem_map_of_mem (List.mem_filterMap.mpr ⟨d, hd, hpointer⟩)))
  have hheader : left.read headerOff.toNat storeBlockHeaderLen =
      right.read headerOff.toNat storeBlockHeaderLen :=
    h.read hspan (Nat.le_refl _) (by dsimp only; omega)
  have hlen : storeInfoLen left headerOff = storeInfoLen right headerOff := by
    rw [storeInfoLen, storeInfoLen, hheader, h.size]
  have hinfo : left.read (headerOff.toNat + storeBlockHeaderLen)
      (storeInfoLen left headerOff) =
        right.read (headerOff.toNat + storeBlockHeaderLen)
          (storeInfoLen left headerOff) :=
    h.read hspan (Nat.le_add_right _ _) (by dsimp only; omega)
  rw [storeInfoAt, storeInfoAt, ← hlen, hinfo]

theorem storeInfoOf_of_agree (h : AgreeOn left right (footprint left))
    (index : Nat) :
    (volumeOf left).storeInfoOf left index =
      (volumeOf left).storeInfoOf right index := by
  unfold VssVolume.storeInfoOf
  cases hstore : (volumeOf left).stores[index]? with
  | none => rfl
  | some d =>
      cases hpointer : d.storeHeaderOffset with
      | none => simp only [hpointer]
      | some headerOff =>
          have hinfo := storeInfoAt_of_agree h (List.mem_of_getElem? hstore)
            hpointer
          simp only [hpointer, hinfo, h.size]

theorem auditOf_of_agree (h : AgreeOn left right (footprint left))
    (formatGuid : Guid → String) :
    auditOf formatGuid (volumeOf left) left =
      auditOf formatGuid (volumeOf left) right := by
  unfold auditOf attributeFindings
  simp only [storeInfoOf_of_agree h]

theorem storeInfoLen_le (image : Image) (headerOff : UInt64) :
    storeInfoLen image headerOff ≤ maxStoreInfoLen :=
  Nat.le_trans (Nat.min_le_left _ _) (Nat.min_le_right _ _)

omit [Target] in
theorem spanned_map_le {items : List α} {view : α → Nat × Nat} {bound : Nat}
    (h : ∀ item, (view item).2 ≤ bound) :
    spanned (items.map view) ≤ bound * items.length := by
  induction items with
  | nil => exact Nat.le_refl 0
  | cons item rest ih =>
      have hitem := h item
      rw [List.map_cons, spanned, List.map_cons, List.sum_cons,
        List.length_cons, Nat.mul_succ]
      unfold spanned at ih
      omega

theorem spanned_footprint_le (image : Image) :
    spanned (footprint image) ≤ catalogBlockHeaderLen +
      blockSize * maxCatalogBlocks +
        (storeBlockHeaderLen + maxStoreInfoLen) *
          (volumeOf image).storeCount := by
  have hcatalog : spanned ((catalogInspected image
      (volumeOf image).catalogOffset).map fun off =>
        (off.toNat, blockSize)) ≤ blockSize * maxCatalogBlocks :=
    Nat.le_trans (spanned_map_le fun _ => Nat.le_refl _)
      (Nat.mul_le_mul_left _ (Links.length_inspected_le ..))
  have hstores : spanned (((volumeOf image).stores.filterMap
      StoreDescriptor.storeHeaderOffset).map fun headerOff =>
        (headerOff.toNat, storeBlockHeaderLen + storeInfoLen image headerOff)) ≤
          (storeBlockHeaderLen + maxStoreInfoLen) *
            (volumeOf image).storeCount :=
    Nat.le_trans
      (spanned_map_le fun headerOff =>
        Nat.add_le_add_left (storeInfoLen_le image headerOff) _)
      (Nat.mul_le_mul_left _ (List.length_filterMap_le _ _))
  unfold spanned at hcatalog hstores
  rw [footprint, spanned, List.map_cons, List.sum_cons, List.map_append,
    List.sum_append]
  dsimp only
  omega

end Footprint

/-- Enumeration and audit depend on a bounded part of the volume alone: images
that agree on the footprint of one of them are not told apart. -/
theorem audit_depends_on_footprint [Target] (formatGuid : Guid → String)
    (left : Image) :
    spanned (footprint left) ≤ catalogBlockHeaderLen +
      blockSize * maxCatalogBlocks +
        (storeBlockHeaderLen + maxStoreInfoLen) *
          (volumeOf left).storeCount ∧
    ∀ right, AgreeOn left right (footprint left) →
      ∃ volume anomalies, Returns left openVolume volume ∧
        Returns right openVolume volume ∧
        (∀ index, ∃ answer, Yields left (volume.storeInfo index)
            (fun outcome => outcome = answer) ∧
          Yields right (volume.storeInfo index)
            fun outcome => outcome = answer) ∧
        Returns left (audit formatGuid volume) anomalies ∧
        Returns right (audit formatGuid volume) anomalies := by
  refine ⟨spanned_footprint_le left, fun right h => ?_⟩
  have hvolume := volumeOf_of_agree h
  have hsize : (volumeOf left).volumeSize = UInt64.ofNat right.size := by
    rw [hvolume]
    rfl
  refine ⟨volumeOf left, auditOf formatGuid (volumeOf left) left,
    (openVolume_runs left).yields rfl, ?_, fun index => ?_,
    audit_returns formatGuid rfl, ?_⟩
  · exact (openVolume_runs right).yields (congrArg Outcome.ok hvolume.symm)
  · refine ⟨(volumeOf left).storeInfoOf left index,
      (VssVolume.storeInfo_runs rfl index).yields rfl, ?_⟩
    exact (VssVolume.storeInfo_runs hsize index).yields
      (storeInfoOf_of_agree h index).symm
  · rw [auditOf_of_agree h]
    exact audit_returns formatGuid hsize

/-! The sample volume and the same volume with a live block changed. -/

theorem sample_agrees : let _ := Target.bits64
    AgreeOn (sample []) (sample [(131072, [0xDD])]) (footprint (sample [])) := by
  intro _
  have hlen : ∀ headerOff : UInt64, headerOff = 32768 ∨ headerOff = 81920 →
      storeInfoLen (sample []) headerOff = 0 := by
    intro headerOff hheader
    have hfits : headerOff.toNat + storeBlockHeaderLen ≤ (sample []).size := by
      rcases hheader with rfl | rfl <;> decide
    have hdeclared : declaredSize (sample []) headerOff = 0 := by
      rcases hheader with rfl | rfl <;> decide +kernel
    rw [storeInfoLen_eq hfits, hdeclared]
    simp
  have hends : ∀ span ∈ footprint (sample []), span.1 + span.2 ≤ 131072 := by
    intro span hspan
    rw [footprint, sample_catalogInspected, sample_stores] at hspan
    simp only [List.filterMap_cons, List.filterMap_nil, List.map_cons,
      List.map_nil, List.cons_append, List.nil_append, List.mem_cons,
      List.not_mem_nil, or_false, hlen _ (.inl rfl),
      hlen _ (.inr rfl)] at hspan
    rcases hspan with rfl | rfl | rfl | rfl <;> decide
  refine ⟨rfl, fun span hspan position _ hstop => ?_⟩
  refine (Image.byteAt_ofPatches_append fun patch hpatch => .inl ?_).symm
  rw [List.mem_singleton.mp hpatch]
  exact Nat.lt_of_lt_of_le hstop (hends span hspan)

theorem audit_depends_on_footprint_sample : let _ := Target.bits64
    (sample []).byteAt 131072 ≠ (sample [(131072, [0xDD])]).byteAt 131072 ∧
    ∃ volume anomalies, Returns (sample []) openVolume volume ∧
      Returns (sample [(131072, [0xDD])]) openVolume volume ∧
      Returns (sample []) (audit (fun _ => "") volume) anomalies ∧
      Returns (sample [(131072, [0xDD])]) (audit (fun _ => "") volume)
        anomalies := by
  intro _
  have hagree := sample_agrees
  have hdiffer : (sample []).byteAt 131072 ≠
      (sample [(131072, [0xDD])]).byteAt 131072 := by decide +kernel
  generalize sample [] = left at *
  generalize sample [(131072, [0xDD])] = right at *
  obtain ⟨volume, anomalies, hleft, hright, _, haudit, haudit'⟩ :=
    (audit_depends_on_footprint (fun _ => "") left).2 right hagree
  exact ⟨hdiffer, volume, anomalies, hleft, hright, haudit, haudit'⟩

end ShadowCopy.Forensic
