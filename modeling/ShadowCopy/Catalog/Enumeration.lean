import ShadowCopy.Catalog.Pairing
import ShadowCopy.Data.Matching

namespace ShadowCopy.Core

open ShadowCopy.Data

/-! Catalog entries as openers and closers of one identifier. -/

def catalogBrackets (entries : List CatalogEntry) : Brackets Guid where
  opens := fun s =>
    match entries[s]? with
    | some (.snapshot d) => some d.storeId
    | _ => none
  closes := fun p =>
    match entries[p]? with
    | some (.storePointer storeId _ _) => some storeId
    | _ => none

def pointerAt (entries : List CatalogEntry) (p : Nat) :
    Option (UInt64 × UInt64) :=
  match entries[p]? with
  | some (.storePointer _ header bitmap) => some (header, bitmap)
  | _ => none

def StoreDescriptor.withPointer (d : StoreDescriptor)
    (pointer : Option (UInt64 × UInt64)) : StoreDescriptor :=
  { d with
    storeHeaderOffset := pointer.map Prod.fst
    storeBitmapOffset := pointer.map Prod.snd }

/-- The store a snapshot entry stands for, with the offsets of its partner. -/
def matchedStore (entries : List CatalogEntry) (partner : Nat → Option Nat)
    (s : Nat) : Option StoreDescriptor :=
  match entries[s]? with
  | some (.snapshot d) =>
      some (d.withPointer ((partner s).bind (pointerAt entries)))
  | _ => none

def matchedStores (entries : List CatalogEntry) (partner : Nat → Option Nat)
    (stop : Nat) : List StoreDescriptor :=
  (List.range stop).filterMap (matchedStore entries partner)

theorem StoreDescriptor.Unattached.withPointer_none {d : StoreDescriptor}
    (h : d.Unattached) : d.withPointer none = d := by
  cases d
  obtain ⟨hheader, hbitmap⟩ := h
  simp_all [withPointer]

section Positions

variable {entries : List CatalogEntry} {partner : Nat → Option Nat}
  {stop s p : Nat}

theorem pointerAt_isSome {storeId : Guid}
    (h : (catalogBrackets entries).closes p = some storeId) :
    ∃ header bitmap, entries[p]? = some (.storePointer storeId header bitmap) ∧
      pointerAt entries p = some (header, bitmap) := by
  unfold catalogBrackets pointerAt at *
  dsimp only at h
  split at h
  · rename_i header bitmap hentry
    rw [Option.some.inj h] at hentry
    rw [hentry]
    exact ⟨header, bitmap, rfl, rfl⟩
  · contradiction

theorem matchedStore_header
    (h : (catalogBrackets entries).Matches stop partner)
    {d : StoreDescriptor} (hd : matchedStore entries partner s = some d) :
    (catalogBrackets entries).opens s = some d.storeId ∧
      (d.storeHeaderOffset = none ↔ partner s = none) := by
  unfold matchedStore at hd
  unfold catalogBrackets
  dsimp only
  split at hd
  · rename_i raw hentry
    obtain rfl := Option.some.inj hd
    refine ⟨rfl, ?_⟩
    cases hpartner : partner s with
    | none => exact iff_of_true rfl rfl
    | some p =>
        obtain ⟨_, _, hcloses⟩ := (h.nearest hpartner).key
        obtain ⟨header, bitmap, _, hpointer⟩ := pointerAt_isSome hcloses
        refine iff_of_false ?_ (Option.some_ne_none p)
        rw [StoreDescriptor.withPointer, Option.bind_some, hpointer]
        exact Option.some_ne_none header
  · contradiction

theorem matchedStores_succ :
    matchedStores entries partner (stop + 1) =
      matchedStores entries partner stop ++
        (matchedStore entries partner stop).toList := by
  rw [matchedStores, List.range_succ, List.filterMap_append, matchedStores]
  cases hstore : matchedStore entries partner stop with
  | none => simp [hstore]
  | some d => simp [hstore]

theorem matchedStores_split (hs : s < stop) :
    matchedStores entries partner stop =
      matchedStores entries partner s ++
        (matchedStore entries partner s).toList ++
        (List.range' (s + 1) (stop - (s + 1))).filterMap
          (matchedStore entries partner) := by
  have hrange : List.range stop =
      List.range (s + 1) ++ List.range' (s + 1) (stop - (s + 1)) := by
    have happend := @List.range'_append_1 0 (s + 1) (stop - (s + 1))
    rw [Nat.zero_add, Nat.add_sub_of_le hs] at happend
    rw [List.range_eq_range', List.range_eq_range', happend]
  rw [← matchedStores_succ, matchedStores, hrange, List.filterMap_append,
    matchedStores]

theorem mem_matchedStores {d : StoreDescriptor}
    (h : d ∈ matchedStores entries partner stop) :
    ∃ s, s < stop ∧ matchedStore entries partner s = some d := by
  obtain ⟨s, hs, hstore⟩ := List.mem_filterMap.mp h
  exact ⟨s, List.mem_range.mp hs, hstore⟩

/-- Entries that change nothing: neither opener nor closer. -/
theorem matches_skip (h : (catalogBrackets entries).Matches stop partner)
    (hclose : (catalogBrackets entries).closes stop = none) :
    (catalogBrackets entries).Matches (stop + 1) partner := by
  apply h.skip
  intro s hnearest
  obtain ⟨key, _, hkey⟩ := hnearest.key
  rw [hclose] at hkey
  contradiction

theorem matchedStore_update (hne : s ≠ p) (q : Option Nat) :
    matchedStore entries (Function.update partner p q) s =
      matchedStore entries partner s := by
  unfold matchedStore
  rw [Function.update_of_ne hne]

theorem snapshot_of_opens {storeId : Guid}
    (h : (catalogBrackets entries).opens s = some storeId) :
    ∃ raw, entries[s]? = some (.snapshot raw) ∧ raw.storeId = storeId := by
  unfold catalogBrackets at h
  dsimp only at h
  split at h
  · rename_i raw hraw
    exact ⟨raw, hraw, Option.some.inj h⟩
  · contradiction

/-- A new partner changes one store, and those on either side keep theirs. -/
theorem matchedStores_update (hs : s < stop) (q : Option Nat) :
    matchedStores entries (Function.update partner s q) stop =
      matchedStores entries partner s ++
        (matchedStore entries (Function.update partner s q) s).toList ++
        (List.range' (s + 1) (stop - (s + 1))).filterMap
          (matchedStore entries partner) := by
  have hbefore : matchedStores entries (Function.update partner s q) s =
      matchedStores entries partner s := by
    apply List.filterMap_congr
    intro t ht
    exact matchedStore_update (Nat.ne_of_lt (List.mem_range.mp ht)) q
  have hafter : (List.range' (s + 1) (stop - (s + 1))).filterMap
      (matchedStore entries (Function.update partner s q)) =
        (List.range' (s + 1) (stop - (s + 1))).filterMap
          (matchedStore entries partner) := by
    apply List.filterMap_congr
    intro t ht
    exact matchedStore_update (Nat.ne_of_gt (List.mem_range'_1.mp ht).1) q
  rw [matchedStores_split hs, hbefore, hafter]

end Positions

/-- Entries so far and the stores collected from them: a pointer entry goes
to the nearest store entry that is still free, as brackets pair. -/
structure Collected (entries : List CatalogEntry) (stop : Nat)
    (partner : Nat → Option Nat) : Prop where
  matched : (catalogBrackets entries).Matches stop partner
  stores_eq : (entries.take stop).foldl catalogStep [] =
    matchedStores entries partner stop

namespace Collected

variable {entries : List CatalogEntry} {partner : Nat → Option Nat}
  {stop : Nat}

theorem step (h : Collected entries stop partner) {entry : CatalogEntry}
    (hentry : entries[stop]? = some entry) :
    (entries.take (stop + 1)).foldl catalogStep [] =
      catalogStep (matchedStores entries partner stop) entry := by
  rw [List.take_add_one, hentry, Option.toList_some, List.foldl_append,
    h.stores_eq]
  rfl

/-- An entry that adds no store. -/
theorem unlisted (h : Collected entries stop partner) {entry : CatalogEntry}
    {other : Nat → Option Nat} (hentry : entries[stop]? = some entry)
    (hnone : matchedStore entries other stop = none)
    (hmatched : (catalogBrackets entries).Matches (stop + 1) other)
    (hsame : catalogStep (matchedStores entries partner stop) entry =
      matchedStores entries other stop) :
    Collected entries (stop + 1) other where
  matched := hmatched
  stores_eq := by
    rw [h.step hentry, hsame, matchedStores_succ, hnone, Option.toList_none,
      List.append_nil]

theorem pointer_unused (h : Collected entries stop partner) {storeId : Guid}
    {header bitmap : UInt64}
    (hentry : entries[stop]? = some (.storePointer storeId header bitmap))
    (hnone : ∀ s, ¬ (catalogBrackets entries).Nearest partner s stop) :
    attachPointer (matchedStores entries partner stop) storeId header bitmap =
      matchedStores entries partner stop := by
  have hclose : (catalogBrackets entries).closes stop = some storeId := by
    simp only [catalogBrackets, hentry]
  apply modifyLast_of_none
  intro d hd
  obtain ⟨s, hs, hstore⟩ := mem_matchedStores hd
  obtain ⟨hopen, hheader⟩ := matchedStore_header h.matched hstore
  by_contra htest
  obtain ⟨hid, hfree⟩ : d.storeId = storeId ∧ d.storeHeaderOffset = none := by
    simpa using htest
  have hunclaimed : ∀ q, q < stop → partner s ≠ some q := by
    rw [hheader.mp hfree]
    exact fun _ _ h => nomatch h
  obtain ⟨t, _, ht⟩ :=
    Brackets.exists_nearest hs (hid ▸ hopen) hclose hunclaimed
  exact hnone t ht

theorem pointer_taken (h : Collected entries stop partner) {storeId : Guid}
    {header bitmap : UInt64} {s : Nat}
    (hentry : entries[stop]? = some (.storePointer storeId header bitmap))
    (hs : (catalogBrackets entries).Nearest partner s stop) :
    attachPointer (matchedStores entries partner stop) storeId header bitmap =
      matchedStores entries (Function.update partner s (some stop)) stop := by
  have hclose : (catalogBrackets entries).closes stop = some storeId := by
    simp only [catalogBrackets, hentry]
  obtain ⟨key, hopen, hkey⟩ := hs.key
  obtain rfl := Option.some.inj (hclose.symm.trans hkey)
  obtain ⟨raw, hraw, rfl⟩ := snapshot_of_opens hopen
  have hfree : partner s = none := by
    cases hp : partner s with
    | none => rfl
    | some p => exact absurd hp (hs.free p ((h.matched s p).mp hp).1)
  have hold : matchedStore entries partner s =
      some (raw.withPointer none) := by
    simp only [matchedStore, hraw, hfree, Option.bind_none]
  have hnew : matchedStore entries (Function.update partner s (some stop)) s =
      some (raw.withPointer (some (header, bitmap))) := by
    simp only [matchedStore, hraw, Function.update_self, Option.bind_some,
      pointerAt, hentry]
  rw [matchedStores_split hs.before, matchedStores_update hs.before, hold,
    hnew, Option.toList_some, Option.toList_some, List.append_assoc,
    List.append_assoc]
  apply modifyLast_append
  · exact Bool.and_eq_true_iff.mpr ⟨beq_self_eq_true _, rfl⟩
  · intro d hd
    obtain ⟨t, ht, hstore⟩ := List.mem_filterMap.mp hd
    have hrange := List.mem_range'_1.mp ht
    obtain ⟨hopen', hheader⟩ := matchedStore_header h.matched hstore
    by_contra htest
    obtain ⟨hid, hnone⟩ :
        d.storeId = raw.storeId ∧ d.storeHeaderOffset = none := by
      simpa using htest
    have hsame : (catalogBrackets entries).opens t =
        (catalogBrackets entries).opens s := by
      rw [hopen', hopen, hid]
    obtain ⟨q, _, hq⟩ := hs.nearest t hrange.1 (by omega) hsame
    rw [hheader.mp hnone] at hq
    contradiction

theorem succ (h : Collected entries stop partner) (hstop : stop < entries.length)
    (hunattached : ∀ d, .snapshot d ∈ entries → d.Unattached) :
    ∃ other, Collected entries (stop + 1) other := by
  have hentry := List.getElem?_eq_getElem hstop
  have hmem := List.getElem_mem hstop
  generalize entries[stop] = entry at hentry hmem
  cases entry with
  | empty =>
      have hstore : matchedStore entries partner stop = none := by
        simp only [matchedStore, hentry]
      refine ⟨partner, h.unlisted hentry hstore (matches_skip h.matched ?_) rfl⟩
      simp only [catalogBrackets, hentry]
  | other =>
      have hstore : matchedStore entries partner stop = none := by
        simp only [matchedStore, hentry]
      refine ⟨partner, h.unlisted hentry hstore (matches_skip h.matched ?_) rfl⟩
      simp only [catalogBrackets, hentry]
  | snapshot raw =>
      have hstore : matchedStore entries partner stop = some raw := by
        simp only [matchedStore, hentry,
          h.matched.eq_none_of_le (Nat.le_refl stop), Option.bind_none,
          (hunattached raw hmem).withPointer_none]
      refine ⟨partner, matches_skip h.matched ?_, ?_⟩
      · simp only [catalogBrackets, hentry]
      · rw [h.step hentry, matchedStores_succ, hstore, Option.toList_some]
        rfl
  | storePointer storeId header bitmap =>
      have hstore : ∀ partner, matchedStore entries partner stop = none := by
        intro partner
        simp only [matchedStore, hentry]
      by_cases hfree :
          ∃ s, (catalogBrackets entries).Nearest partner s stop
      · obtain ⟨s, hs⟩ := hfree
        exact ⟨_, h.unlisted hentry (hstore _) (h.matched.close hs)
          (h.pointer_taken hentry hs)⟩
      · have hnone : ∀ s,
            ¬ (catalogBrackets entries).Nearest partner s stop :=
          not_exists.mp hfree
        exact ⟨partner, h.unlisted hentry (hstore _) (h.matched.skip hnone)
          (h.pointer_unused hentry hnone)⟩

end Collected

theorem exists_collected {entries : List CatalogEntry}
    (hunattached : ∀ d, .snapshot d ∈ entries → d.Unattached) (stop : Nat)
    (hstop : stop ≤ entries.length) :
    ∃ partner, Collected entries stop partner := by
  induction stop with
  | zero => exact ⟨fun _ => none, Brackets.Matches.zero, rfl⟩
  | succ stop ih =>
      obtain ⟨partner, h⟩ := ih (Nat.le_of_succ_le hstop)
      exact h.succ hstop hunattached

/-! Pointers once set stay as they are. -/

theorem catalogStep_kept {stores : List StoreDescriptor} {k : Nat}
    {d : StoreDescriptor} (entry : CatalogEntry)
    (hset : d.storeHeaderOffset.isSome) (h : stores[k]? = some d) :
    (catalogStep stores entry)[k]? = some d := by
  cases entry with
  | empty => exact h
  | other => exact h
  | snapshot raw =>
      obtain ⟨hk, _⟩ := List.getElem?_eq_some_iff.mp h
      exact (List.getElem?_append_left hk).trans h
  | storePointer storeId header bitmap =>
      apply getElem?_modifyLast _ h
      rw [Option.isNone_eq_false_iff.mpr hset, Bool.and_false]

theorem foldl_catalogStep_kept {entries : List CatalogEntry}
    {stores : List StoreDescriptor} {k : Nat} {d : StoreDescriptor}
    (hset : d.storeHeaderOffset.isSome) (h : stores[k]? = some d) :
    (entries.foldl catalogStep stores)[k]? = some d := by
  induction entries generalizing stores with
  | nil => exact h
  | cons entry rest ih => exact ih (catalogStep_kept entry hset h)

theorem snapshotEntries_append (before after : List CatalogEntry) :
    snapshotEntries (before ++ after) =
      snapshotEntries before ++ snapshotEntries after :=
  List.filterMap_append

theorem matchedStores_withPointer_none {entries : List CatalogEntry}
    (partner : Nat → Option Nat)
    (hunattached : ∀ d, .snapshot d ∈ entries → d.Unattached) (stop : Nat) :
    (matchedStores entries partner stop).map
        (StoreDescriptor.withPointer · none) =
      snapshotEntries (entries.take stop) := by
  induction stop with
  | zero => rfl
  | succ stop ih =>
      rw [matchedStores_succ, List.map_append, ih, List.take_add_one,
        snapshotEntries_append]
      congr 1
      cases hentry : entries[stop]? with
      | none => simp only [matchedStore, hentry]; rfl
      | some entry =>
          cases entry with
          | empty => simp only [matchedStore, hentry]; rfl
          | other => simp only [matchedStore, hentry]; rfl
          | storePointer => simp only [matchedStore, hentry]; rfl
          | snapshot raw =>
              have hraw := hunattached raw (List.mem_of_getElem? hentry)
              have hsame : (raw.withPointer
                  ((partner stop).bind (pointerAt entries))).withPointer none =
                  raw := hraw.withPointer_none
              simp only [matchedStore, hentry, Option.toList_some,
                List.map_singleton, hsame]
              rfl

theorem matchedStores_sourced {entries : List CatalogEntry}
    {partner : Nat → Option Nat} {stop : Nat}
    (h : (catalogBrackets entries).Matches stop partner) :
    ∀ d ∈ matchedStores entries partner stop,
      d.Unattached ∨ ∃ (p : Nat) (header bitmap : UInt64),
        entries[p]? = some (.storePointer d.storeId header bitmap) ∧
          d.storeHeaderOffset = some header ∧
          d.storeBitmapOffset = some bitmap := by
  intro d hd
  obtain ⟨s, _, hstore⟩ := mem_matchedStores hd
  unfold matchedStore at hstore
  split at hstore
  · rename_i raw hraw
    obtain rfl := Option.some.inj hstore
    cases hpartner : partner s with
    | none => exact .inl ⟨rfl, rfl⟩
    | some p =>
        obtain ⟨key, hopen, hclose⟩ := (h.nearest hpartner).key
        have hkey : raw.storeId = key := by
          simpa only [catalogBrackets, hraw, Option.some.injEq] using hopen
        obtain ⟨header, bitmap, hentry, hpointer⟩ := pointerAt_isSome hclose
        rw [Option.bind_some, hpointer]
        exact .inr ⟨p, header, bitmap, hkey ▸ hentry, rfl, rfl⟩
  · contradiction

/-- The stores are the snapshot entries in order; `partner` gives the pointer
entry that each one has its offsets from. -/
structure Enumerates (entries : List CatalogEntry)
    (stores : List StoreDescriptor) (partner : Nat → Option Nat) : Prop where
  snapshots : stores.map (StoreDescriptor.withPointer · none) =
    snapshotEntries entries
  stores_eq : stores = matchedStores entries partner entries.length
  nearest : (catalogBrackets entries).Matches entries.length partner
  only : ∀ other, (catalogBrackets entries).Matches entries.length other →
    other = partner
  claimed : ∀ s p storeId, s < p → p < entries.length →
    (catalogBrackets entries).opens s = some storeId →
    (catalogBrackets entries).closes p = some storeId →
    (∀ q, q < p → partner s ≠ some q) → ∃ t, s ≤ t ∧ partner t = some p
  served_once : ∀ s t p, partner s = some p → partner t = some p → s = t
  sourced : ∀ d ∈ stores, d.Unattached ∨
    ∃ (p : Nat) (header bitmap : UInt64),
      entries[p]? = some (.storePointer d.storeId header bitmap) ∧
        d.storeHeaderOffset = some header ∧ d.storeBitmapOffset = some bitmap
  kept : ∀ before after, before ++ after = entries →
    ∀ (k : Nat) (d : StoreDescriptor),
      (before.foldl catalogStep [])[k]? = some d →
        d.storeHeaderOffset.isSome → stores[k]? = some d
  paired : ∀ d ∈ stores,
    d.storeHeaderOffset.isSome = d.storeBitmapOffset.isSome

theorem volumeOf_snapshots (image : Image) :
    (volumeOf image).stores.map (StoreDescriptor.withPointer · none) =
      snapshotEntries (walkedEntries image (volumeOf image)) := by
  have hunattached := @walkedEntries_unattached image (volumeOf image)
  obtain ⟨partner, h⟩ := exists_collected (fun _ => hunattached)
    (walkedEntries image (volumeOf image)).length (Nat.le_refl _)
  have hmatched := h.stores_eq
  rw [List.take_length, ← volumeOf_stores_eq] at hmatched
  rw [hmatched, matchedStores_withPointer_none partner fun _ => hunattached,
    List.take_length]

/-- Enumeration loses and duplicates nothing, and each pointer entry goes to
the nearest store entry before it that is still without one. -/
theorem openVolume_enumerates [Target] (image : Image) :
    ∃ volume partner, openVolume.runOn image = .ok volume ∧
      HeaderRead image volume ∧
      Enumerates (walkedEntries image volume) volume.stores partner := by
  have hunattached := @walkedEntries_unattached image (volumeOf image)
  have hstores := volumeOf_stores_eq image
  obtain ⟨partner, h⟩ := exists_collected (fun _ => hunattached)
    (walkedEntries image (volumeOf image)).length (Nat.le_refl _)
  have hmatched : (volumeOf image).stores =
      matchedStores (walkedEntries image (volumeOf image)) partner
        (walkedEntries image (volumeOf image)).length := by
    rw [hstores, ← h.stores_eq, List.take_length]
  refine ⟨volumeOf image, partner, (openVolume_runs image).runOn,
    volumeOf_headerRead image, ?_⟩
  constructor
  · exact volumeOf_snapshots image
  · exact hmatched
  · exact h.matched
  · exact fun other hother => hother.unique h.matched
  · intro s p storeId hs hp hopen hclose hfree
    obtain ⟨t, hst, ht⟩ := Brackets.exists_nearest hs hopen hclose hfree
    exact ⟨t, hst, (h.matched t p).mpr ⟨hp, ht⟩⟩
  · exact fun s t p => h.matched.served_once
  · rw [hmatched]
    exact matchedStores_sourced h.matched
  · intro before after hsplit k d hd hset
    rw [hstores, ← hsplit, List.foldl_append]
    exact foldl_catalogStep_kept hset hd
  · exact volumeOf_paired image

end ShadowCopy.Core
