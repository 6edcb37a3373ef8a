import ShadowCopy.Information.Record
import ShadowCopy.Reconstruction.BitmapChain
import ShadowCopy.Session.ReadPaths

namespace ShadowCopy.Core

open ShadowCopy.Data

/-! What the width of `usize` can be seen in. -/

/-- The program has the same outcome on every target. -/
def WidthFree (image : Image) (program : Target → ReadM ε α) : Prop :=
  ∃ outcome, ∀ target,
    Yields image (program target) fun answer => answer = outcome

theorem WidthFree.of_runs [FromIoError ε] {image : Image}
    {program : Target → ReadM ε α} {value : Target → Outcome ε α}
    (hruns : ∀ target, Runs image none (program target) (value target) none)
    (hsame : ∀ left right, value left = value right) :
    WidthFree image program :=
  ⟨value Target.bits64, fun target =>
    (hruns target).yields (hsame target Target.bits64)⟩

/-- The program parses the `n` bytes at `off` and leaves the reader behind
them. -/
def ParsesExactly [Target] (image : Image) (program : ReadM VssError StoreInfo)
    (off n : Nat) : Prop :=
  ∀ reader : Reader, reader.image = image → reader.Healthy →
    (program reader).1 = StoreInfo.parse (image.read off n).toList ∧
      (program reader).2.cursor = off + n

structure ReadsWidthFree (image : Image) (snapshot : Snapshot)
    (source : VssSnapshotSource) : Prop where
  block : ∀ offset, WidthFree image fun _ => snapshot.readBlock offset
  bytes : ∀ len, len < 2 ^ 32 → ∀ offset (buf : Vector UInt8 len),
    WidthFree image fun _ => snapshot.readAt offset buf
  source : ∀ len, len < 2 ^ 32 → ∀ offset (buf : Vector UInt8 len),
    WidthFree image fun _ => source.readAt offset buf

def infoSize (image : Image) (headerOff : UInt64) : Nat :=
  min (min (declaredSize image headerOff) maxStoreInfoLen)
    (tailSize image headerOff)

structure InformationWidthFree (image : Image) (volume : VssVolume)
    (index : Nat) : Prop where
  outcome : WidthFree image fun _ => volume.storeInfo index
  length : ∀ headerOff, volume.HeaderAt index headerOff →
    headerOff.toNat + storeBlockHeaderLen ≤ image.size → ∀ _ : Target,
      ParsesExactly image (volume.storeInfo index)
        (headerOff.toNat + storeBlockHeaderLen) (infoSize image headerOff)

/-- The tail of the volume fits into 32 bits, or what is left of it after the
cast is still enough. -/
def TailKept (image : Image) (volume : VssVolume) (index : Nat) : Prop :=
  ∀ headerOff, volume.HeaderAt index headerOff →
    headerOff.toNat + storeBlockHeaderLen ≤ image.size →
      tailSize image headerOff < 2 ^ 32 ∨
        min (declaredSize image headerOff) maxStoreInfoLen ≤
          tailSize image headerOff % 2 ^ 32

section Reads

variable {image : Image} {state : SnapshotState}

theorem bit_widthFree (hfits : state.bitmap.length ≤ 2 ^ 32) (n : UInt64)
    (left right : Target) : @state.bit left n = @state.bit right n := by
  rw [Bool.eq_iff_iff,
    @bit_eq_getElem left state
      (Nat.le_trans hfits (@Target.two_pow_32_le_usizeSize left)),
    @bit_eq_getElem right state
      (Nat.le_trans hfits (@Target.two_pow_32_le_usizeSize right))]

theorem blockOf_widthFree (hfits : state.bitmap.length ≤ 2 ^ 32)
    (offset : UInt64) (left right : Target) :
    @state.blockOf left image offset = @state.blockOf right image offset := by
  unfold SnapshotState.blockOf
  rw [bit_widthFree hfits _ left right]

theorem readAtOf_widthFree (hfits : state.bitmap.length ≤ 2 ^ 32)
    (offset : UInt64) (len : Nat) (left right : Target) :
    @state.readAtOf left image offset len =
      @state.readAtOf right image offset len := by
  unfold SnapshotState.readAtOf SnapshotState.byteOf
  apply Vector.ext
  intro k hk
  rw [Vector.getElem_ofFn, Vector.getElem_ofFn,
    blockOf_widthFree hfits _ left right]

theorem sourceReadAtOf_widthFree {source : VssSnapshotSource}
    (hfits : source.state.bitmap.length ≤ 2 ^ 32) (offset : UInt64)
    {len : Nat} (hlen : len < 2 ^ 32) (buf : Vector UInt8 len)
    (left right : Target) :
    (@source.want left offset len, @source.readAtOf left image len offset buf) =
      (@source.want right offset len,
        @source.readAtOf right image len offset buf) := by
  have hwant : @source.want left offset len = @source.want right offset len := by
    rw [@VssSnapshotSource.want_eq left source len
        (@Target.lt_usizeSize left _ hlen),
      @VssSnapshotSource.want_eq right source len
        (@Target.lt_usizeSize right _ hlen)]
  have hbytes : @source.readAtOf left image len offset buf =
      @source.readAtOf right image len offset buf := by
    unfold VssSnapshotSource.readAtOf SnapshotState.byteOf
    apply Vector.ext
    intro k hk
    rw [Vector.getElem_ofFn, Vector.getElem_ofFn, hwant,
      blockOf_widthFree hfits _ left right]
  rw [hwant, hbytes]

theorem readsWidthFree {snapshot : Snapshot} {source : VssSnapshotSource}
    (hsize : SnapshotState.volumeSize snapshot = UInt64.ofNat image.size)
    (hsource : source = VssSnapshotSource.sourceOf image snapshot)
    (hfits : (SnapshotState.bitmap snapshot).length ≤ 2 ^ 32) :
    ReadsWidthFree image snapshot source where
  block := fun offset =>
    .of_runs (fun _ => Snapshot.readBlock_runs hsize offset) fun left right =>
      congrArg Outcome.ok (blockOf_widthFree hfits offset left right)
  bytes := by
    intro len hlen offset buf
    refine .of_runs (fun target => Snapshot.readAt_runs hsize ?_ offset buf)
      fun left right =>
        congrArg Outcome.ok (readAtOf_widthFree hfits offset len left right)
    exact Target.lt_usizeSize hlen
  source := by
    intro len hlen offset buf
    have hstate : source.state = snapshot := by
      rw [hsource]
      rfl
    have hsourceSize : source.state.volumeSize = UInt64.ofNat image.size :=
      hstate ▸ hsize
    refine .of_runs (fun target =>
      VssSnapshotSource.readAt_runs hsourceSize ?_ offset buf)
      fun left right => congrArg Outcome.ok
        (sourceReadAtOf_widthFree (hstate ▸ hfits) offset hlen buf left right)
    exact Target.lt_usizeSize hlen

end Reads

section Information

variable {image : Image} {volume : VssVolume} {index : Nat}
  {headerOff : UInt64}

theorem parsesExactly_iff [Target]
    (hsize : volume.volumeSize = UInt64.ofNat image.size)
    (hheader : volume.HeaderAt index headerOff)
    (hfits : headerOff.toNat + storeBlockHeaderLen ≤ image.size) (n : Nat) :
    ParsesExactly image (volume.storeInfo index)
        (headerOff.toNat + storeBlockHeaderLen) n ↔
      storeInfoLen image headerOff = n := by
  obtain ⟨d, hstore, hpointer⟩ := hheader
  have hreads := VssVolume.storeInfo_reads hsize hstore hpointer hfits
  constructor
  · intro h
    obtain ⟨_, hcursor⟩ := h (Reader.fresh image 0) rfl fun _ => rfl
    rw [hreads.cursor_eq rfl fun _ => rfl] at hcursor
    exact Nat.add_left_cancel hcursor
  · rintro rfl reader himage hhealthy
    refine ⟨?_, hreads.cursor_eq himage hhealthy⟩
    rw [hreads.forget.healthy himage hhealthy, StoreInfo.parse_ok]
    rfl

/-- The 64-bit cast keeps every tail, so only the 32-bit one matters. -/
theorem storeInfoLen_eq_infoSize_iff
    (hfits : headerOff.toNat + storeBlockHeaderLen ≤ image.size) :
    (∀ target, @storeInfoLen target image headerOff =
        infoSize image headerOff) ↔
      tailSize image headerOff < 2 ^ 32 ∨
        min (declaredSize image headerOff) maxStoreInfoLen ≤
          tailSize image headerOff % 2 ^ 32 := by
  have hsmall := @storeInfoLen_eq Target.bits32 image headerOff hfits
  rw [← min_mod_eq_iff (by decide)]
  constructor
  · intro h
    exact hsmall.symm.trans (h Target.bits32)
  · rintro h ⟨bits, rfl | rfl⟩
    · exact hsmall.trans h
    · have hlarge := @storeInfoLen_eq Target.bits64 image headerOff hfits
      have htail : tailSize image headerOff % 2 ^ 64 =
          tailSize image headerOff :=
        Nat.mod_eq_of_lt
          (Nat.lt_of_le_of_lt (Nat.sub_le _ _) image.size_lt)
      exact hlarge.trans (congrArg (min _) htail)

theorem storeInfoOf_widthFree
    (h : ∀ headerOff, volume.HeaderAt index headerOff →
      headerOff.toNat + storeBlockHeaderLen ≤ image.size → ∀ target,
        @storeInfoLen target image headerOff = infoSize image headerOff)
    (left right : Target) :
    @volume.storeInfoOf left image index =
      @volume.storeInfoOf right image index := by
  unfold VssVolume.storeInfoOf
  cases hstore : volume.stores[index]? with
  | none => rfl
  | some d =>
      cases hpointer : d.storeHeaderOffset with
      | none => simp only [hpointer]
      | some headerOff =>
          simp only [hpointer]
          split
          · rename_i hfits
            have hsame := h headerOff ⟨d, hstore, hpointer⟩ hfits
            unfold storeInfoAt
            rw [hsame left, hsame right]
          · rfl

theorem informationWidthFree_iff
    (hsize : volume.volumeSize = UInt64.ofNat image.size) :
    InformationWidthFree image volume index ↔ TailKept image volume index := by
  constructor
  · intro h headerOff hheader hfits
    apply (storeInfoLen_eq_infoSize_iff hfits).mp
    intro target
    exact (@parsesExactly_iff _ _ _ _ target hsize hheader hfits _).mp
      (h.length headerOff hheader hfits target)
  · intro h
    have hlength : ∀ headerOff, volume.HeaderAt index headerOff →
        headerOff.toNat + storeBlockHeaderLen ≤ image.size → ∀ target,
          @storeInfoLen target image headerOff = infoSize image headerOff :=
      fun headerOff hheader hfits =>
        (storeInfoLen_eq_infoSize_iff hfits).mpr (h headerOff hheader hfits)
    constructor
    · exact .of_runs (fun target => VssVolume.storeInfo_runs hsize index)
        (storeInfoOf_widthFree hlength)
    · intro headerOff hheader hfits target
      exact (parsesExactly_iff hsize hheader hfits _).mpr
        (hlength headerOff hheader hfits target)

end Information

/-- Nothing but the length of store information depends on the width of
`usize`, and that only for a long tail whose low 32 bits are too small. -/
theorem results_widthFree_iff (image : Image) :
    ∃ volume,
      (∀ _ : Target, Returns image openVolume volume) ∧
      ∀ index,
        (WidthFree image fun _ => volume.snapshot index) ∧
        (WidthFree image fun _ => VssSnapshotSource.openSource index) ∧
        (∀ _ : Target, ∀ snapshot source,
          (volume.snapshot index).runOn image = .ok snapshot →
          (VssSnapshotSource.openSource index).runOn image = .ok source →
          (SnapshotState.bitmap snapshot).length ≤ 2 ^ 32 →
            ReadsWidthFree image snapshot source) ∧
        (InformationWidthFree image volume index ↔
          TailKept image volume index) := by
  refine ⟨volumeOf image, fun _ => (openVolume_runs image).yields rfl,
    fun index => ⟨?_, ?_, ?_, informationWidthFree_iff rfl⟩⟩
  · exact .of_runs (fun _ => VssVolume.snapshotState_runs rfl index)
      fun _ _ => rfl
  · exact .of_runs (fun _ => VssSnapshotSource.openSource_runs index)
      fun _ _ => rfl
  · intro target snapshot source hsnapshot hopen hfits
    have hstate : (volumeOf image).snapshotStateOf image index =
        .ok snapshot :=
      (VssVolume.snapshotState_runs rfl index).runOn.symm.trans hsnapshot
    have hsource := (VssSnapshotSource.openSource_runs index).runOn.symm.trans
      hopen
    rw [hstate] at hsource
    exact readsWidthFree (VssVolume.volumeSize_of_state hstate)
      (Outcome.ok.inj hsource).symm hfits

/-- The record of the wide volume is lost on a 32-bit target only. -/
theorem results_widthFree_wide :
    ∃ volume short long,
      (@openVolume Target.bits32).runOn wide = .ok volume ∧
      (@openVolume Target.bits64).runOn wide = .ok volume ∧
      (@VssVolume.storeInfo Target.bits32 volume 0).runOn wide = .ok short ∧
      (@VssVolume.storeInfo Target.bits64 volume 0).runOn wide = .ok long ∧
      short ≠ long := by
  have hshort := @openVolume_runs Target.bits32 wide
  have hlong := @openVolume_runs Target.bits64 wide
  refine ⟨volumeOf wide, _, _, hshort.runOn, hlong.runOn,
    (@Recorded.returns_cut _ _ _ _ _ Target.bits32 wide_recorded
      hshort.runOn).runOn,
    (@Recorded.returns_cut _ _ _ _ _ Target.bits64 wide_recorded
      hlong.runOn).runOn, fun hsame => ?_⟩
  have hwhole := @Recorded.whole_of_bits64 _ _ _ _ _ Target.bits64
    wide_recorded rfl
  rw [(wideInfo.cut_eq_iff _).mpr hwhole, wide_tailSize,
    show (2 : Nat) ^ 32 % @Target.usizeSize Target.bits32 = 0 from
      Nat.mod_self _] at hsame
  exact wideInfo_cut_ne hsame

end ShadowCopy.Core
