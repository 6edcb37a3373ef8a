import ShadowCopy.Core.Layout
import Mathlib.Data.List.Nodup

namespace ShadowCopy.Core

open ShadowCopy.Data

/-! Snapshot entries and the pointers that go with them. -/

/-- A descriptor has both pointers or neither. -/
def StoreDescriptor.Paired (d : StoreDescriptor) : Prop :=
  d.storeHeaderOffset.isSome = d.storeBitmapOffset.isSome

def StoreDescriptor.Unattached (d : StoreDescriptor) : Prop :=
  d.storeHeaderOffset = none ∧ d.storeBitmapOffset = none

theorem StoreDescriptor.Unattached.paired {d : StoreDescriptor}
    (h : d.Unattached) : d.Paired := by
  rw [Paired, h.1, h.2]

theorem decodeEntry_unattached {buf : List UInt8} {d : StoreDescriptor}
    (h : decodeEntry buf = .snapshot d) : d.Unattached := by
  unfold decodeEntry at h
  split at h
  · rw [← CatalogEntry.snapshot.inj h]
    exact ⟨rfl, rfl⟩
  · split at h
    · exact CatalogEntry.noConfusion h
    · split at h <;> exact CatalogEntry.noConfusion h

theorem chainEntries_unattached {image : Image} {first : UInt64}
    {d : StoreDescriptor} (h : .snapshot d ∈ chainEntries image first) :
    d.Unattached := by
  obtain ⟨off, _, hblock⟩ := List.mem_flatMap.mp h
  obtain ⟨record, _, hrecord⟩ := List.mem_map.mp hblock
  exact decodeEntry_unattached hrecord

theorem catalogStep_paired {stores : List StoreDescriptor}
    {entry : CatalogEntry}
    (hentry : ∀ d, entry = .snapshot d → d.Unattached)
    (h : ∀ d ∈ stores, d.Paired) :
    ∀ d ∈ catalogStep stores entry, d.Paired := by
  cases entry with
  | empty => exact h
  | other => exact h
  | snapshot descriptor =>
      intro d hmem
      rcases List.mem_append.mp hmem with hold | hnew
      · exact h d hold
      · rw [List.mem_singleton.mp hnew]
        exact (hentry descriptor rfl).paired
  | storePointer storeId header bitmap =>
      apply forall_modifyLast _ h
      exact fun _ _ => rfl

theorem foldl_catalogStep_paired {entries : List CatalogEntry}
    {stores : List StoreDescriptor}
    (hentries : ∀ d, .snapshot d ∈ entries → d.Unattached)
    (h : ∀ d ∈ stores, d.Paired) :
    ∀ d ∈ entries.foldl catalogStep stores, d.Paired := by
  induction entries generalizing stores with
  | nil => exact h
  | cons entry rest ih =>
      apply ih
      · exact fun d hmem => hentries d (List.mem_cons_of_mem _ hmem)
      · apply catalogStep_paired _ h
        intro d hd
        apply hentries d
        rw [hd]
        exact List.mem_cons_self ..

theorem walkedEntries_unattached {image : Image} {volume : VssVolume}
    {d : StoreDescriptor} (h : .snapshot d ∈ walkedEntries image volume) :
    d.Unattached := by
  unfold walkedEntries at h
  split at h
  · exact chainEntries_unattached h
  · contradiction

theorem volumeOf_paired (image : Image) :
    ∀ d ∈ (volumeOf image).stores, d.Paired := by
  rw [volumeOf_stores_eq]
  exact foldl_catalogStep_paired (fun _ => walkedEntries_unattached)
    fun _ h => nomatch h

/-! What one pass over the entries attaches. -/

def snapshotEntries (entries : List CatalogEntry) : List StoreDescriptor :=
  entries.filterMap fun
    | .snapshot d => some d
    | _ => none

def firstPointer (storeId : Guid) :
    List CatalogEntry → Option (UInt64 × UInt64)
  | [] => none
  | .storePointer id header bitmap :: rest =>
      if id = storeId then some (header, bitmap)
      else firstPointer storeId rest
  | _ :: rest => firstPointer storeId rest

def pointersTo (storeId : Guid) (entries : List CatalogEntry) :
    List (UInt64 × UInt64) :=
  entries.filterMap fun
    | .storePointer id header bitmap =>
        if id = storeId then some (header, bitmap) else none
    | _ => none

/-- A descriptor after the entries that follow it. -/
def StoreDescriptor.complete (entries : List CatalogEntry)
    (d : StoreDescriptor) : StoreDescriptor :=
  match d.storeHeaderOffset, firstPointer d.storeId entries with
  | none, some (header, bitmap) =>
      { d with
        storeHeaderOffset := some header
        storeBitmapOffset := some bitmap }
  | _, _ => d

/-- Each snapshot entry with the first pointer that follows it. -/
def attached : List CatalogEntry → List StoreDescriptor
  | [] => []
  | .snapshot d :: rest => d.complete rest :: attached rest
  | _ :: rest => attached rest

theorem StoreDescriptor.complete_storeId (entries : List CatalogEntry)
    (d : StoreDescriptor) : (d.complete entries).storeId = d.storeId := by
  unfold complete
  split <;> rfl

theorem StoreDescriptor.complete_nil (d : StoreDescriptor) :
    d.complete [] = d := by
  unfold complete firstPointer
  cases d.storeHeaderOffset <;> rfl

theorem attachPointer_eq_map {stores : List StoreDescriptor}
    (hdistinct : (stores.map StoreDescriptor.storeId).Nodup) (storeId : Guid)
    (header bitmap : UInt64) :
    attachPointer stores storeId header bitmap = stores.map fun d =>
      if d.storeId = storeId ∧ d.storeHeaderOffset = none then
        { d with
          storeHeaderOffset := some header
          storeBitmapOffset := some bitmap }
      else
        d := by
  rw [attachPointer, modifyLast_eq_map]
  · simp
  · apply (List.pairwise_map.mp hdistinct).imp
    intro left right hne hboth
    simp only [Bool.and_eq_true, beq_iff_eq] at hboth
    exact hne (hboth.1.1.trans hboth.2.1.symm)

theorem complete_attach (d : StoreDescriptor) (storeId : Guid)
    (header bitmap : UInt64) (rest : List CatalogEntry) :
    StoreDescriptor.complete rest
        (if d.storeId = storeId ∧ d.storeHeaderOffset = none then
          { d with
            storeHeaderOffset := some header
            storeBitmapOffset := some bitmap }
        else
          d) =
      d.complete (.storePointer storeId header bitmap :: rest) := by
  unfold StoreDescriptor.complete
  rw [firstPointer]
  cases hheader : d.storeHeaderOffset with
  | some offset => simp [hheader]
  | none =>
      by_cases hid : storeId = d.storeId
      · simp [hid]
      · have hid' : ¬ d.storeId = storeId := fun h => hid h.symm
        simp [hheader, hid, hid']

/-- One pass attaches to each descriptor the first pointer that follows it:
induction on the entries, over the descriptors collected so far. -/
theorem foldl_catalogStep {entries : List CatalogEntry}
    {stores : List StoreDescriptor}
    (hdistinct : ((stores ++ snapshotEntries entries).map
      StoreDescriptor.storeId).Nodup) :
    entries.foldl catalogStep stores =
      stores.map (StoreDescriptor.complete entries) ++ attached entries := by
  induction entries generalizing stores with
  | nil =>
      have hnone : StoreDescriptor.complete [] = id := by
        funext d
        exact d.complete_nil
      rw [hnone, List.map_id, attached, List.append_nil]
      rfl
  | cons entry rest ih =>
      rw [List.foldl_cons]
      cases entry with
      | empty => exact ih hdistinct
      | other => exact ih hdistinct
      | snapshot d =>
          have hmoved : ((catalogStep stores (.snapshot d) ++
              snapshotEntries rest).map StoreDescriptor.storeId).Nodup := by
            rw [catalogStep, List.append_assoc]
            exact hdistinct
          rw [ih hmoved, catalogStep, List.map_append, List.map_singleton,
            List.append_assoc]
          rfl
      | storePointer storeId header bitmap =>
          have hstores : (stores.map StoreDescriptor.storeId).Nodup := by
            rw [List.map_append] at hdistinct
            exact (List.nodup_append.mp hdistinct).1
          have hids : (catalogStep stores
              (.storePointer storeId header bitmap)).map
                StoreDescriptor.storeId =
              stores.map StoreDescriptor.storeId := by
            rw [catalogStep, attachPointer]
            apply map_modifyLast
            exact fun _ => rfl
          have hsame : ((catalogStep stores
              (.storePointer storeId header bitmap) ++
                snapshotEntries rest).map StoreDescriptor.storeId).Nodup := by
            rw [List.map_append, hids, ← List.map_append]
            exact hdistinct
          rw [ih hsame, catalogStep, attachPointer_eq_map hstores,
            List.map_map]
          congr 1
          apply List.map_congr_left
          intro d _
          exact complete_attach d storeId header bitmap rest

theorem firstPointer_append (storeId : Guid)
    (before after : List CatalogEntry) :
    firstPointer storeId (before ++ after) =
      (firstPointer storeId before).or (firstPointer storeId after) := by
  induction before with
  | nil => rfl
  | cons entry rest ih =>
      cases entry with
      | storePointer id header bitmap =>
          rw [List.cons_append, firstPointer, firstPointer]
          split
          · rfl
          · exact ih
      | empty => exact ih
      | other => exact ih
      | snapshot d => exact ih

theorem firstPointer_eq_none {storeId : Guid} {entries : List CatalogEntry} :
    firstPointer storeId entries = none ↔
      ∀ header bitmap, .storePointer storeId header bitmap ∉ entries := by
  induction entries with
  | nil => simp [firstPointer]
  | cons entry rest ih =>
      cases entry with
      | storePointer id header bitmap =>
          rw [firstPointer]
          by_cases hid : id = storeId
          · rw [if_pos hid, hid]
            constructor
            · exact fun h => nomatch h
            · exact fun h => absurd (List.mem_cons_self ..) (h header bitmap)
          · rw [if_neg hid, ih]
            have hid' : ¬ storeId = id := fun h => hid h.symm
            simp [hid']
      | empty => simpa [firstPointer] using ih
      | other => simpa [firstPointer] using ih
      | snapshot d => simpa [firstPointer] using ih

theorem pointersTo_append (storeId : Guid)
    (before after : List CatalogEntry) :
    pointersTo storeId (before ++ after) =
      pointersTo storeId before ++ pointersTo storeId after :=
  List.filterMap_append

theorem firstPointer_eq_head? (storeId : Guid) (entries : List CatalogEntry) :
    firstPointer storeId entries = (pointersTo storeId entries).head? := by
  induction entries with
  | nil => rfl
  | cons entry rest ih =>
      cases entry with
      | storePointer id header bitmap =>
          rw [firstPointer, pointersTo, List.filterMap_cons]
          by_cases hid : id = storeId
          · simp only [hid, if_true, List.head?_cons]
          · simp only [hid, if_false]
            exact ih
      | empty => exact ih
      | other => exact ih
      | snapshot d => exact ih

def pointerIds (entries : List CatalogEntry) : List Guid :=
  entries.filterMap fun
    | .storePointer id _ _ => some id
    | _ => none

theorem pointersTo_le_one {entries : List CatalogEntry}
    (h : (pointerIds entries).Nodup) (storeId : Guid) :
    (pointersTo storeId entries).length ≤ 1 := by
  have hlength : (pointersTo storeId entries).length =
      (pointerIds entries).count storeId := by
    clear h
    induction entries with
    | nil => rfl
    | cons entry rest ih =>
        cases entry with
        | storePointer id header bitmap =>
            rw [pointersTo, pointerIds, List.filterMap_cons,
              List.filterMap_cons, List.count_cons]
            by_cases hid : id = storeId
            · simp only [hid, if_true, List.length_cons, beq_self_eq_true]
              exact congrArg (· + 1) ih
            · simp only [hid, if_false, beq_eq_false_iff_ne.mpr hid,
                Bool.false_eq_true]
              exact ih
        | empty => exact ih
        | other => exact ih
        | snapshot d => exact ih
  rw [hlength]
  exact List.nodup_iff_count_le_one.mp h storeId

theorem mem_attached {entries : List CatalogEntry} {d : StoreDescriptor}
    (h : d ∈ attached entries) :
    ∃ before s after, entries = before ++ .snapshot s :: after ∧
      d = s.complete after := by
  induction entries with
  | nil => contradiction
  | cons entry rest ih =>
      have hskip : d ∈ attached rest →
          ∃ before s after, entry :: rest = before ++ .snapshot s :: after ∧
            d = s.complete after := by
        intro hrest
        obtain ⟨before, s, after, hsplit, hd⟩ := ih hrest
        exact ⟨entry :: before, s, after, by rw [hsplit]; rfl, hd⟩
      cases entry with
      | empty => exact hskip h
      | other => exact hskip h
      | storePointer => exact hskip h
      | snapshot s =>
          rcases List.mem_cons.mp h with hd | hrest
          · exact ⟨[], s, rest, rfl, hd⟩
          · exact hskip hrest

theorem before_eq_before {left right leftAfter rightAfter : List CatalogEntry}
    {s t : StoreDescriptor}
    (hsplit : left ++ .snapshot s :: leftAfter =
      right ++ .snapshot t :: rightAfter)
    (hdistinct : ((snapshotEntries (left ++ .snapshot s :: leftAfter)).map
      StoreDescriptor.storeId).Nodup)
    (hid : s.storeId = t.storeId) : left = right := by
  induction left generalizing right with
  | nil =>
      cases right with
      | nil => rfl
      | cons entry rest =>
          obtain ⟨rfl, hrest⟩ := List.cons.inj hsplit
          subst hrest
          simp [snapshotEntries, hid] at hdistinct
  | cons entry rest ih =>
      cases right with
      | nil =>
          obtain ⟨rfl, hrest⟩ := List.cons.inj hsplit
          subst hrest
          simp [snapshotEntries, hid] at hdistinct
      | cons _ _ =>
          obtain ⟨rfl, hrest⟩ := List.cons.inj hsplit
          have htail : ((snapshotEntries (rest ++ .snapshot s ::
              leftAfter)).map StoreDescriptor.storeId).Nodup :=
            hdistinct.sublist
              (((List.sublist_cons_self _ _).filterMap _).map _)
          rw [ih hrest htail]

/-- A store has the pointer that the catalog holds for it, if any. -/
def PointerFound (entries : List CatalogEntry) (d : StoreDescriptor) :
    Prop :=
  match firstPointer d.storeId entries with
  | some (header, bitmap) =>
      d.storeHeaderOffset = some header ∧ d.storeBitmapOffset = some bitmap
  | none => d.Unattached

/-- A pointer entry stands before the snapshot entry it belongs to. -/
def PointerPrecedes (entries : List CatalogEntry) (storeId : Guid) : Prop :=
  ∃ before s after header bitmap,
    entries = before ++ .snapshot s :: after ∧ s.storeId = storeId ∧
      .storePointer storeId header bitmap ∈ before

theorem complete_of_unattached {d : StoreDescriptor} (h : d.Unattached)
    (entries : List CatalogEntry) :
    (d.complete entries).storeHeaderOffset =
        (firstPointer d.storeId entries).map Prod.fst ∧
      (d.complete entries).storeBitmapOffset =
        (firstPointer d.storeId entries).map Prod.snd := by
  unfold StoreDescriptor.complete
  rw [h.1]
  cases firstPointer d.storeId entries with
  | none => exact h
  | some pointer => exact ⟨rfl, rfl⟩

theorem not_pointerPrecedes {before after : List CatalogEntry}
    {s : StoreDescriptor}
    (hdistinct : ((snapshotEntries (before ++ .snapshot s :: after)).map
      StoreDescriptor.storeId).Nodup)
    (hbefore : firstPointer s.storeId before = none) :
    ¬ PointerPrecedes (before ++ .snapshot s :: after) s.storeId := by
  rintro ⟨left, t, rest, header, bitmap, hsplit, ht, hpointer⟩
  have hsame : before = left := before_eq_before hsplit hdistinct ht.symm
  exact firstPointer_eq_none.mp hbefore header bitmap (hsame ▸ hpointer)

theorem firstPointer_after {before after : List CatalogEntry}
    {s : StoreDescriptor} {storeId : Guid} {pointer : UInt64 × UInt64}
    (hunique : (pointersTo storeId
      (before ++ .snapshot s :: after)).length ≤ 1)
    (hbefore : firstPointer storeId before = some pointer) :
    firstPointer storeId after = none := by
  have hpos : 0 < (pointersTo storeId before).length := by
    apply List.length_pos_of_ne_nil
    intro hnil
    rw [firstPointer_eq_head?, hnil] at hbefore
    contradiction
  have hskip : pointersTo storeId (.snapshot s :: after) =
      pointersTo storeId after := rfl
  rw [pointersTo_append, List.length_append, hskip] at hunique
  rw [firstPointer_eq_head?, List.head?_eq_none_iff]
  apply List.eq_nil_of_length_eq_zero
  omega

theorem pointerFound_iff {entries : List CatalogEntry}
    (hunattached : ∀ d, .snapshot d ∈ entries → d.Unattached)
    (hdistinct : ((snapshotEntries entries).map
      StoreDescriptor.storeId).Nodup)
    (hunique : ∀ storeId, (pointersTo storeId entries).length ≤ 1) :
    ∀ d ∈ entries.foldl catalogStep [],
      PointerFound entries d ↔ ¬ PointerPrecedes entries d.storeId := by
  intro d hmem
  rw [foldl_catalogStep hdistinct, List.map_nil, List.nil_append] at hmem
  obtain ⟨before, s, after, hsplit, hd⟩ := mem_attached hmem
  have hid : d.storeId = s.storeId := by
    rw [hd, StoreDescriptor.complete_storeId]
  have hs : s.Unattached := hunattached s (by simp [hsplit])
  obtain ⟨hheader, hbitmap⟩ := complete_of_unattached hs after
  rw [← hd] at hheader hbitmap
  have hlookup : firstPointer s.storeId entries =
      (firstPointer s.storeId before).or (firstPointer s.storeId after) := by
    rw [hsplit, firstPointer_append]
    rfl
  rw [PointerFound, hid, hlookup]
  cases hbefore : firstPointer s.storeId before with
  | none =>
      have hnot : ¬ PointerPrecedes entries s.storeId :=
        hsplit ▸ not_pointerPrecedes (hsplit ▸ hdistinct) hbefore
      refine ⟨fun _ => hnot, fun _ => ?_⟩
      rw [Option.none_or]
      cases hafter : firstPointer s.storeId after with
      | none =>
          rw [hafter] at hheader hbitmap
          exact ⟨hheader, hbitmap⟩
      | some pointer =>
          rw [hafter] at hheader hbitmap
          exact ⟨hheader, hbitmap⟩
  | some pointer =>
      have hprecedes : PointerPrecedes entries s.storeId := by
        by_contra hnone
        have : firstPointer s.storeId before = none :=
          firstPointer_eq_none.mpr fun header bitmap hpointer =>
            hnone ⟨before, s, after, header, bitmap, hsplit, rfl, hpointer⟩
        rw [this] at hbefore
        contradiction
      refine ⟨fun hfound => ?_, fun hnot => absurd hprecedes hnot⟩
      have hafter : firstPointer s.storeId after = none :=
        firstPointer_after (hsplit ▸ hunique s.storeId) hbefore
      rw [hafter] at hheader
      rw [Option.some_or] at hfound
      rw [hfound.1] at hheader
      contradiction

/-- Where every pointer follows its snapshot entry, a store has what the
whole catalog holds for it. -/
theorem attached_eq_map {before entries : List CatalogEntry}
    (h : ∀ storeId, ¬ PointerPrecedes (before ++ entries) storeId) :
    attached entries =
      (snapshotEntries entries).map
        (StoreDescriptor.complete (before ++ entries)) := by
  induction entries generalizing before with
  | nil => rfl
  | cons entry rest ih =>
      have hmoved : before ++ entry :: rest = (before ++ [entry]) ++ rest := by
        rw [List.append_assoc, List.singleton_append]
      have hrest := ih (hmoved ▸ h)
      rw [← hmoved] at hrest
      cases entry with
      | empty => exact hrest
      | other => exact hrest
      | storePointer => exact hrest
      | snapshot d =>
          have hnone : firstPointer d.storeId before = none :=
            firstPointer_eq_none.mpr fun header bitmap hpointer =>
              h d.storeId ⟨before, d, rest, header, bitmap, rfl, rfl, hpointer⟩
          have hlookup : firstPointer d.storeId
              (before ++ .snapshot d :: rest) =
                firstPointer d.storeId rest := by
            rw [firstPointer_append, hnone, Option.none_or]
            rfl
          have hhead : d.complete rest =
              d.complete (before ++ .snapshot d :: rest) := by
            unfold StoreDescriptor.complete
            rw [hlookup]
          rw [attached, hrest, hhead]
          rfl

theorem firstPointer_perm {left right : List CatalogEntry}
    (hperm : left.Perm right) {storeId : Guid}
    (hunique : (pointersTo storeId left).length ≤ 1) :
    firstPointer storeId left = firstPointer storeId right := by
  have hpointers : (pointersTo storeId left).Perm (pointersTo storeId right) :=
    hperm.filterMap _
  rw [firstPointer_eq_head?, firstPointer_eq_head?]
  cases hleft : pointersTo storeId left with
  | nil =>
      rw [hleft] at hpointers
      rw [List.nil_perm.mp hpointers]
  | cons pointer rest =>
      rw [hleft] at hpointers hunique
      have hrest : rest = [] := List.eq_nil_of_length_eq_zero
        (Nat.le_zero.mp (Nat.le_of_succ_le_succ hunique))
      rw [hrest] at hpointers
      rw [← List.singleton_perm.mp hpointers]
      rfl

theorem stores_perm {left right : List CatalogEntry}
    (hperm : left.Perm right)
    (hdistinct : ((snapshotEntries left).map StoreDescriptor.storeId).Nodup)
    (hunique : ∀ storeId, (pointersTo storeId left).length ≤ 1)
    (hleft : ∀ storeId, ¬ PointerPrecedes left storeId)
    (hright : ∀ storeId, ¬ PointerPrecedes right storeId) :
    (left.foldl catalogStep []).Perm (right.foldl catalogStep []) := by
  have hsnapshots : (snapshotEntries left).Perm (snapshotEntries right) :=
    hperm.filterMap _
  have hcomplete : StoreDescriptor.complete left =
      StoreDescriptor.complete right := by
    funext d
    unfold StoreDescriptor.complete
    rw [firstPointer_perm hperm (hunique d.storeId)]
  have hstores : ∀ entries : List CatalogEntry,
      ((snapshotEntries entries).map StoreDescriptor.storeId).Nodup →
      (∀ storeId, ¬ PointerPrecedes entries storeId) →
      entries.foldl catalogStep [] = (snapshotEntries entries).map
        (StoreDescriptor.complete entries) := fun entries hids hnone => by
    rw [foldl_catalogStep hids]
    exact @attached_eq_map [] entries hnone
  rw [hstores left hdistinct hleft,
    hstores right ((hsnapshots.map _).nodup_iff.mp hdistinct) hright,
    hcomplete]
  exact hsnapshots.map _

/-- Which stores can be reconstructed: those whose pointer does not stand
before their snapshot entry.  Where none does, only the order of the stores
depends on the order of the entries. -/
theorem stores_pointerFound_iff [Target] {image : Image} {volume : VssVolume}
    (hopen : openVolume.runOn image = .ok volume)
    (hdistinct : ((snapshotEntries (walkedEntries image volume)).map
      StoreDescriptor.storeId).Nodup)
    (hunique : ∀ storeId,
      (pointersTo storeId (walkedEntries image volume)).length ≤ 1) :
    HeaderRead image volume ∧
    (∀ d ∈ volume.stores, PointerFound (walkedEntries image volume) d ↔
      ¬ PointerPrecedes (walkedEntries image volume) d.storeId) ∧
    ∀ (other : Image) (otherVolume : VssVolume),
      openVolume.runOn other = .ok otherVolume →
      (walkedEntries image volume).Perm (walkedEntries other otherVolume) →
      (∀ storeId, ¬ PointerPrecedes (walkedEntries image volume) storeId) →
      (∀ storeId,
        ¬ PointerPrecedes (walkedEntries other otherVolume) storeId) →
      volume.stores.Perm otherVolume.stores := by
  obtain rfl := Outcome.ok.inj ((openVolume_runs image).runOn.symm.trans hopen)
  refine ⟨volumeOf_headerRead image, ?_, ?_⟩
  · rw [volumeOf_stores_eq]
    exact pointerFound_iff (fun _ => walkedEntries_unattached) hdistinct
      hunique
  · intro other otherVolume hother hperm hleft hright
    obtain rfl := Outcome.ok.inj
      ((openVolume_runs other).runOn.symm.trans hother)
    rw [volumeOf_stores_eq, volumeOf_stores_eq]
    exact stores_perm hperm hdistinct hunique hleft hright

/-! A catalog in order and one whose pointer comes first. -/

theorem stores_pointerFound_sample : let _ := Target.bits64
    ∀ d ∈ (volumeOf (sample [])).stores,
      PointerFound (walkedEntries (sample []) (volumeOf (sample []))) d := by
  intro _ d hd
  have hdistinct : ((snapshotEntries sampleEntries).map
      StoreDescriptor.storeId).Nodup := by decide +kernel
  have hunique : ∀ storeId, (pointersTo storeId sampleEntries).length ≤ 1 :=
    pointersTo_le_one (by decide +kernel)
  rw [← sample_walkedEntries] at hdistinct hunique
  have hopen := (openVolume_runs (sample [])).runOn
  have hnot : ¬ PointerPrecedes
      (walkedEntries (sample []) (volumeOf (sample []))) d.storeId := by
    rw [sample_walkedEntries] at hdistinct ⊢
    rw [sample_stores] at hd
    rcases List.mem_cons.mp hd with rfl | hd
    · exact @not_pointerPrecedes [] _ ⟨sampleGuid 1, 0, 0, 0, 1, none, none⟩
        hdistinct rfl
    · rw [List.mem_singleton.mp hd]
      exact @not_pointerPrecedes
        [ .snapshot ⟨sampleGuid 1, 0, 0, 0, 1, none, none⟩,
          .storePointer (sampleGuid 1) 32768 65536 ] _
        ⟨sampleGuid 2, 0, 0, 0, 2, none, none⟩ hdistinct (by decide +kernel)
  generalize sample [] = image at *
  exact ((stores_pointerFound_iff hopen hdistinct hunique).2.1 d hd).mpr hnot

def pointerFirst : Image :=
  .ofPatches 49152 (by decide)
    [ (0x1E00, vssIdentifier.toList), (0x1E30, encodeU64 16384),
      (16384, vssIdentifier.toList), (16404, [2]),
      (16512, [3]), (16528, [1]), (16544, encodeU64 32768),
      (16640, [2]), (16656, [1]), (16688, [1]) ]

def pointerFirstEntries : List CatalogEntry :=
  [ .storePointer (sampleGuid 1) 32768 0,
    .snapshot ⟨sampleGuid 1, 0, 0, 0, 1, none, none⟩ ] ++
    List.replicate 125 .empty

theorem pointerFirst_walkedEntries :
    walkedEntries pointerFirst (volumeOf pointerFirst) =
      pointerFirstEntries := by
  refine (walkedEntries_ofPatches 16384 2 (by decide) (by decide +kernel)
    (by decide +kernel) (by decide +kernel) (by decide +kernel)
    (by decide +kernel) (by decide +kernel)).trans ?_
  decide +kernel

theorem stores_pointerFound_pointerFirst : let _ := Target.bits64
    ∃ volume, openVolume.runOn pointerFirst = .ok volume ∧
      ((snapshotEntries (walkedEntries pointerFirst volume)).map
        StoreDescriptor.storeId).Nodup ∧
      (∀ storeId, (pointersTo storeId
        (walkedEntries pointerFirst volume)).length ≤ 1) ∧
      ∃ d ∈ volume.stores,
        ¬ PointerFound (walkedEntries pointerFirst volume) d := by
  intro _
  refine ⟨_, (openVolume_runs pointerFirst).runOn, ?_, ?_, ?_⟩
  · rw [pointerFirst_walkedEntries]
    decide +kernel
  · rw [pointerFirst_walkedEntries]
    exact pointersTo_le_one (by decide +kernel)
  · refine ⟨⟨sampleGuid 1, 0, 0, 0, 1, none, none⟩, ?_, ?_⟩
    · rw [volumeOf_stores_eq, pointerFirst_walkedEntries]
      decide +kernel
    · rw [pointerFirst_walkedEntries]
      intro hfound
      have hpointer : firstPointer (sampleGuid 1) pointerFirstEntries =
          some (32768, 0) := by decide +kernel
      rw [PointerFound, hpointer] at hfound
      exact absurd hfound.1 (by decide)

end ShadowCopy.Core
