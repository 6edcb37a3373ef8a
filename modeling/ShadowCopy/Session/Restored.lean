import ShadowCopy.Format.Restore
import ShadowCopy.Session.History

namespace ShadowCopy.Core

open ShadowCopy.Data

/-! A shared source as the read-only file it stands for. -/

section Restored

variable [Target]

/-- Reading a file: the count up to its end, the buffer filled that far. -/
def fileReply (file : Image) (read : ReadRequest) : Nat × List UInt8 :=
  (min read.len (file.size - read.offset.toNat),
    (Vector.ofFn fun k : Fin read.len =>
      if k.val < file.size - read.offset.toNat then
        file.byteAt (read.offset.toNat + k.val)
      else
        read.buf.get k).toList)

/-- The volume as a snapshot shows it. -/
def SnapshotState.restored (state : SnapshotState) (image : Image) : Image where
  size := image.size
  size_lt := image.size_lt
  data := fun position => state.byteOf image position

variable {image : Image} {state : SnapshotState}

theorem SnapshotState.byteAt_restored {position : Nat}
    (h : position < image.size) :
    (state.restored image).byteAt position = state.byteOf image position :=
  dif_pos h

/-- A source asked alone replies as the file does. -/
theorem VssSnapshotSource.alone_eq_fileReply
    (hsize : state.volumeSize = UInt64.ofNat image.size) (read : ReadRequest) :
    alone image (sourceOf image state) read =
      .ok (fileReply (state.restored image) read) := by
  have hwant := want_eq (sourceOf image state) read.fits read.offset
  have hvolume : (sourceOf image state).volumeSize.toNat = image.size :=
    UInt64.toNat_ofNat_of_lt' image.size_lt
  rw [hvolume] at hwant
  have hserve : Runs image none ((sourceOf image state).serve read)
      (.ok ((sourceOf image state).want read.offset read.len,
        ((sourceOf image state).readAtOf image read.offset
          read.buf).toList)) none :=
    Runs.bind_ok (readAt_runs hsize read.fits read.offset read.buf)
      (Runs.pure _)
  have hbytes : (sourceOf image state).readAtOf image read.offset read.buf =
      Vector.ofFn fun k : Fin read.len =>
        if k.val < image.size - read.offset.toNat then
          (state.restored image).byteAt (read.offset.toNat + k.val)
        else
          read.buf.get k := by
    apply Vector.ext
    intro k hk
    simp only [readAtOf, Vector.getElem_ofFn, hwant]
    by_cases hin : k < image.size - read.offset.toNat
    · have hsmall := image.size_lt
      have hposition : SnapshotState.position read.offset k =
          read.offset.toNat + k := by
        unfold SnapshotState.position
        omega
      rw [if_pos (by omega), if_pos hin, hposition,
        SnapshotState.byteAt_restored (by omega)]
      rfl
    · rw [if_neg (by omega), if_neg hin]
  rw [alone, hserve.runOn, hwant, hbytes]
  rfl

/-- An exchange as a reader of the file sees it. -/
def RepliesAs (file : Image)
    (exchange : Exchange τ VfsError VssSnapshotSource ReadRequest
      (Nat × List UInt8)) : Prop :=
  (∀ reply, exchange.outcome = .ok reply →
      reply = fileReply file exchange.request) ∧
    (exchange.Unharmed →
      exchange.outcome = .ok (fileReply file exchange.request))

/-- A source refines a read-only file: whatever threads read through it, in
whatever order and with whichever reader calls failing, its replies are the
file's.  Where the store has kept what was written over, the file has the bytes
from before the writes. -/
theorem shared_source_refines_file {reader opened : Reader} {index : Nat}
    {source : VssSnapshotSource}
    (hopen : VssSnapshotSource.openSource index reader = (.ok source, opened)) :
    ∃ file : Image, file.size = reader.image.size ∧
      (∀ (τ : Type) (queues : τ → List ReadRequest) (last : System τ _ _ _ _),
        Relation.ReflTransGen (System.Step VssSnapshotSource.service)
          (System.start queues source opened) last →
        ∀ exchange ∈ last.log, RepliesAs file exchange) ∧
      ∀ (layout : VolumeLayout) (copy : CopyLayout) (store : StoreLayout)
        (base : Nat → UInt8) (writes : List (Layer Nat UInt8)),
        layout.LaidOut reader.image → layout.copies[index]? = some copy →
        copy.store = some store → store.Complete →
        ∀ position, Tracked store reader.image (CopyOnWrite.run base writes)
            position → file.byteAt position = base position := by
  have hruns := @VssSnapshotSource.openSource_runs _ reader.image index
  have halone := hruns.runOn.trans (hruns.of_ok rfl hopen)
  obtain ⟨hsource, hstate⟩ := VssSnapshotSource.sourceOf_of_openSource halone
  have hsize := VssSnapshotSource.volumeSize_of_openSource halone
  refine ⟨source.state.restored reader.image, rfl, ?_, ?_⟩
  · intro τ queues last hreach exchange hmem
    have hopened : opened.image = reader.image := by
      have himage := hruns.image_eq rfl
      rwa [hopen] at himage
    have hlast := System.consistent_of_reachable
      (VssSnapshotSource.service_sound hsize) hreach
        ⟨hopened, rfl, fun _ h => nomatch h⟩
    obtain ⟨hkept, hfaithful, hunharmed⟩ := hlast.log exchange hmem
    have hfile := VssSnapshotSource.alone_eq_fileReply hsize exchange.request
    rw [← hsource] at hfile
    rw [hkept] at hfaithful hunharmed
    constructor
    · intro reply hok
      exact (Outcome.ok.inj (hfile.symm.trans (hfaithful reply hok))).symm
    · intro hquiet
      exact (hunharmed hquiet).trans hfile
  · intro layout copy store base writes hlaid hcopy hstore hcomplete position
      htracked
    have hinside := htracked.inside
    have hmod := Nat.div_add_mod position blockSize
    have hwithin := mod_blockSize_lt position
    rw [snapshotStateOf_of_laidOut hlaid hcopy hstore] at hstate
    rw [SnapshotState.byteAt_restored (by
        rw [Nat.mul_comm] at hmod; omega), ← Outcome.ok.inj hstate,
      byteOf_of_tracked hlaid hcopy hstore hcomplete htracked,
      CopyOnWrite.view_run]

end Restored

theorem shared_source_refines_file_one : let _ := Target.bits64
    ∃ source opened, VssSnapshotSource.openSource 0
        (Reader.fresh (oneLayout.write oneBackground) 0) =
          (.ok source, opened) ∧
      ∃ file : Image, file.size = (oneLayout.write oneBackground).size ∧
        (∀ (τ : Type) (queues : τ → List ReadRequest)
          (last : System τ _ _ _ _),
          Relation.ReflTransGen (System.Step VssSnapshotSource.service)
            (System.start queues source opened) last →
          ∀ exchange ∈ last.log, RepliesAs file exchange) ∧
        file.byteAt 98303 = 0xBB ∧ file.byteAt 98304 = 0xAA := by
  intro _
  have hlaid : oneLayout.LaidOut (oneLayout.write oneBackground) :=
    VolumeLayout.write_laidOut oneLayout_fits
  have htracked : ∀ position, 81920 ≤ position → position < 114688 →
      Tracked oneStore (oneLayout.write oneBackground)
        (CopyOnWrite.run oneBase [oneWrite]) position :=
    fun _ => oneStore_tracked
  generalize oneLayout.write oneBackground = image at *
  have hstate : (volumeOf image).snapshotStateOf image 0 =
      .ok (oneStore.state image.size) :=
    snapshotStateOf_of_laidOut hlaid rfl rfl
  obtain ⟨opened, hopen⟩ := VssSnapshotSource.openSource_fresh hstate
  obtain ⟨file, hsize, hreplies, hbytes⟩ := shared_source_refines_file hopen
  have hrestored := hbytes oneLayout _ oneStore oneBase [oneWrite] hlaid rfl rfl
    oneStore_complete
  refine ⟨_, _, hopen, file, hsize, hreplies, ?_, ?_⟩
  · exact hrestored 98303 (htracked 98303 (by decide) (by decide))
  · exact hrestored 98304 (htracked 98304 (by decide) (by decide))

end ShadowCopy.Core
