import ShadowCopy.Core.Layout
import ShadowCopy.Data.Sharing
import ShadowCopy.Session.Calls
import ShadowCopy.Session.FailFast

namespace ShadowCopy.Core

open ShadowCopy.Data

section Sessions

variable [Target]

/-- A positioned read: the buffer's length is a `usize`. -/
structure ReadRequest where
  offset : UInt64
  len : Nat
  fits : len < Target.usizeSize
  buf : Vector UInt8 len

/-! Operations on one volume and on the snapshot that borrows its reader. -/

/-- An opened volume and the snapshot taken of it, with its store index. -/
structure Session where
  volume : VssVolume
  held : Option (Nat × Snapshot)

inductive Request where
  | storeInfo (index : Nat)
  | snapshot (index : Nat)
  | readBlock (offset : UInt64)
  | readAt (read : ReadRequest)

inductive Reply where
  | info (info : StoreInfo)
  | snapshot (snapshot : Snapshot)
  | block (block : Block)
  | bytes (bytes : List UInt8)

namespace Session

def program (session : Session) :
    Request → Option (ReadM VssError Reply)
  | .storeInfo index => some do
      return .info (← session.volume.storeInfo index)
  | .snapshot index => some do
      return .snapshot (← session.volume.snapshot index)
  | .readBlock offset => session.held.map fun (_, snapshot) => do
      return .block (← Snapshot.readBlock snapshot offset)
  | .readAt read => session.held.map fun (_, snapshot) => do
      return .bytes (← Snapshot.readAt snapshot read.offset read.buf).toList

def after (session : Session) :
    Request → Outcome VssError Reply → Session
  | .storeInfo _, _ => { session with held := none }
  | .snapshot index, .ok (.snapshot snapshot) =>
      { session with held := some (index, snapshot) }
  | .snapshot _, _ => { session with held := none }
  | .readBlock _, _ => session
  | .readAt _, _ => session

def service : Service VssError Session Request Reply where
  program := program
  after := after

/-- The same operation from scratch: open the volume, take the snapshot that
is read. -/
def afresh (session : Session) : Request → ReadM VssError Reply
  | .storeInfo index => do
      let volume ← openVolume
      return .info (← volume.storeInfo index)
  | .snapshot index => do
      let volume ← openVolume
      return .snapshot (← volume.snapshot index)
  | .readBlock offset =>
      match session.held with
      | none => ReadM.lift .panic  -- never served without a snapshot
      | some (index, _) => do
          let volume ← openVolume
          let snapshot ← volume.snapshot index
          return .block (← Snapshot.readBlock snapshot offset)
  | .readAt read =>
      match session.held with
      | none => ReadM.lift .panic
      | some (index, _) => do
          let volume ← openVolume
          let snapshot ← volume.snapshot index
          return .bytes
            (← Snapshot.readAt snapshot read.offset read.buf).toList

/-- What an operation returns when run alone on a fresh healthy reader. -/
def alone (image : Image) (session : Session) (request : Request) :
    Outcome VssError Reply :=
  (session.afresh request).runOn image

structure Opened (image : Image) (session : Session) : Prop where
  volume : session.volume = volumeOf image
  held : ∀ index snapshot, session.held = some (index, snapshot) →
    (volumeOf image).snapshotStateOf image index = .ok snapshot

variable {image : Image} {session : Session}

/-- The value both the session and a fresh start compute. -/
def answer (image : Image) (session : Session) :
    Request → Outcome VssError Reply
  | .storeInfo index => do
      return .info (← (volumeOf image).storeInfoOf image index)
  | .snapshot index => do
      return .snapshot (← (volumeOf image).snapshotStateOf image index)
  | .readBlock offset =>
      match session.held with
      | none => .panic
      | some (_, snapshot) => .ok (.block (snapshot.blockOf image offset))
  | .readAt read =>
      match session.held with
      | none => .panic
      | some (_, snapshot) =>
          .ok (.bytes (snapshot.readAtOf image read.offset read.len).toList)

theorem readBlock_runs {index : Nat} {snapshot : Snapshot}
    (h : (volumeOf image).snapshotStateOf image index = .ok snapshot)
    (offset : UInt64) :
    Runs image none (Snapshot.readBlock snapshot offset)
      (.ok (snapshot.blockOf image offset)) none :=
  (SnapshotState.readBlock_runs (VssVolume.volumeSize_of_state h)
    offset).mapErr VssError.io fun _ => rfl

theorem readAt_runs {index : Nat} {snapshot : Snapshot}
    (h : (volumeOf image).snapshotStateOf image index = .ok snapshot)
    (read : ReadRequest) :
    Runs image none (Snapshot.readAt snapshot read.offset read.buf)
      (.ok (snapshot.readAtOf image read.offset read.len)) none :=
  (SnapshotState.readAt_runs (VssVolume.volumeSize_of_state h) read.fits
    read.offset read.buf).mapErr VssError.io fun _ => rfl

theorem program_runs (hsession : session.Opened image) {request : Request}
    {program : ReadM VssError Reply}
    (hallowed : session.program request = some program) :
    Runs image none program (session.answer image request) none := by
  have hsize : session.volume.volumeSize = UInt64.ofNat image.size := by
    rw [hsession.volume]
    rfl
  cases request with
  | storeInfo index =>
      obtain rfl := Option.some.inj hallowed
      rw [answer, ← hsession.volume]
      exact Runs.bind (VssVolume.storeInfo_runs hsize index) fun _ =>
        Runs.pure _
  | snapshot index =>
      obtain rfl := Option.some.inj hallowed
      rw [answer, ← hsession.volume]
      exact Runs.bind (VssVolume.snapshotState_runs hsize index) fun _ =>
        Runs.pure _
  | readBlock offset =>
      cases hheld : session.held with
      | none => simp [Session.program, hheld] at hallowed
      | some held =>
          simp only [Session.program, hheld, Option.map_some,
            Option.some.injEq] at hallowed
          subst hallowed
          rw [answer, hheld]
          exact Runs.bind_ok
            (readBlock_runs (hsession.held _ _ hheld) offset) (Runs.pure _)
  | readAt read =>
      cases hheld : session.held with
      | none => simp [Session.program, hheld] at hallowed
      | some held =>
          simp only [Session.program, hheld, Option.map_some,
            Option.some.injEq] at hallowed
          subst hallowed
          rw [answer, hheld]
          exact Runs.bind_ok
            (readAt_runs (hsession.held _ _ hheld) read) (Runs.pure _)

theorem afresh_runs (hsession : session.Opened image) (request : Request) :
    Runs image none (session.afresh request) (session.answer image request)
      none := by
  cases request with
  | storeInfo index =>
      refine Runs.bind_ok (openVolume_runs image) ?_
      exact Runs.bind (VssVolume.storeInfo_runs rfl index) fun _ =>
        Runs.pure _
  | snapshot index =>
      refine Runs.bind_ok (openVolume_runs image) ?_
      exact Runs.bind (VssVolume.snapshotState_runs rfl index) fun _ =>
        Runs.pure _
  | readBlock offset =>
      rw [afresh, answer]
      cases hheld : session.held with
      | none => exact Runs.lift _
      | some held =>
          have hstate := hsession.held _ _ hheld
          refine Runs.bind_ok (openVolume_runs image) ?_
          refine Runs.bind_ok
            ((VssVolume.snapshotState_runs rfl held.1).congr hstate) ?_
          exact Runs.bind_ok (readBlock_runs hstate offset) (Runs.pure _)
  | readAt read =>
      rw [afresh, answer]
      cases hheld : session.held with
      | none => exact Runs.lift _
      | some held =>
          have hstate := hsession.held _ _ hheld
          refine Runs.bind_ok (openVolume_runs image) ?_
          refine Runs.bind_ok
            ((VssVolume.snapshotState_runs rfl held.1).congr hstate) ?_
          exact Runs.bind_ok (readAt_runs hstate read) (Runs.pure _)

theorem alone_eq_answer (hsession : session.Opened image)
    (request : Request) :
    session.alone image request = session.answer image request :=
  (afresh_runs hsession request).runOn

theorem Opened.after (hsession : session.Opened image) (request : Request)
    {outcome : Outcome VssError Reply}
    (h : outcome = session.answer image request ∨
      ∃ error, outcome = .err error) :
    (session.after request outcome).Opened image := by
  cases request with
  | storeInfo index => exact ⟨hsession.volume, fun _ _ h => nomatch h⟩
  | readBlock offset => exact hsession
  | readAt read => exact hsession
  | snapshot index =>
      rcases h with rfl | ⟨error, rfl⟩
      · rw [answer]
        cases hstate : (volumeOf image).snapshotStateOf image index with
        | ok snapshot =>
            refine ⟨hsession.volume, fun other taken heq => ?_⟩
            cases heq
            exact hstate
        | err error => exact ⟨hsession.volume, fun _ _ h => nomatch h⟩
        | panic => exact ⟨hsession.volume, fun _ _ h => nomatch h⟩
      · exact ⟨hsession.volume, fun _ _ h => nomatch h⟩

theorem service_sound (image : Image) :
    service.Sound image (Opened image) (alone image) where
  runs := fun _ request _ hsession hallowed =>
    (program_runs hsession hallowed).congr
      (alone_eq_answer hsession request).symm
  kept := fun _ request _ hsession _ =>
    hsession.after request (.inl (alone_eq_answer hsession request))
  spared := fun _ request _ hsession =>
    hsession.after request (.inr ⟨_, rfl⟩)

end Session

/-! Threads that share one snapshot source. -/

namespace VssSnapshotSource

/-- `read_at` as the threads see it: the count and the filled buffer. -/
def serve (source : VssSnapshotSource) (read : ReadRequest) :
    ReadM VfsError (Nat × List UInt8) := do
  let (count, bytes) ← source.readAt read.offset read.buf
  return (count, bytes.toList)

/-- A source is immutable; its reader is behind the lock. -/
def service :
    Service VfsError VssSnapshotSource ReadRequest (Nat × List UInt8) where
  program := fun source read => some (source.serve read)
  after := fun source _ _ => source

def alone (image : Image) (source : VssSnapshotSource) (read : ReadRequest) :
    Outcome VfsError (Nat × List UInt8) :=
  (source.serve read).runOn image

theorem service_sound {image : Image} {source : VssSnapshotSource}
    (hsize : source.state.volumeSize = UInt64.ofNat image.size) :
    service.Sound image (· = source) (alone image) where
  runs := by
    intro state read program hstate hallowed
    subst hstate
    obtain rfl := Option.some.inj hallowed
    have hserve : Runs image none (state.serve read)
        (.ok (state.want read.offset read.len,
          (state.readAtOf image read.offset read.buf).toList)) none :=
      Runs.bind_ok (readAt_runs hsize read.fits read.offset read.buf)
        (Runs.pure _)
    exact hserve.congr hserve.runOn.symm
  kept := fun _ _ _ hstate _ => hstate
  spared := fun _ _ _ hstate => hstate

theorem sourceOf_of_openSource {image : Image} {index : Nat}
    {source : VssSnapshotSource}
    (h : (openSource index).runOn image = .ok source) :
    source = sourceOf image source.state ∧
      (volumeOf image).snapshotStateOf image index = .ok source.state := by
  rw [(openSource_runs index).runOn] at h
  cases hstate : (volumeOf image).snapshotStateOf image index with
  | ok state =>
      rw [hstate] at h
      obtain rfl := Outcome.ok.inj h
      exact ⟨rfl, rfl⟩
  | err error => rw [hstate] at h; contradiction
  | panic => rw [hstate] at h; contradiction

theorem volumeSize_of_openSource {image : Image} {index : Nat}
    {source : VssSnapshotSource}
    (h : (openSource index).runOn image = .ok source) :
    source.state.volumeSize = UInt64.ofNat image.size :=
  VssVolume.volumeSize_of_state (sourceOf_of_openSource h).2

theorem openSource_fresh {image : Image} {state : SnapshotState}
    {index : Nat}
    (h : (volumeOf image).snapshotStateOf image index = .ok state) :
    ∃ opened, openSource index (Reader.fresh image 0) =
      (.ok (sourceOf image state), opened) := by
  have hsource := (openSource_runs index).healthy
    (show (Reader.fresh image 0).image = image from rfl) fun _ => rfl
  rw [h] at hsource
  generalize openSource index (Reader.fresh image 0) = finished at hsource
  exact ⟨finished.2, Prod.ext hsource rfl⟩

end VssSnapshotSource

/-- Whatever was served before, in whatever order, and whichever reader calls
failed: a reply is the one the operation gives alone on a fresh healthy
reader, and it is given whenever no call of its own fails. -/
theorem replies_independent_of_history (image : Image) :
    (∀ (reader opened : Reader) (volume : VssVolume), reader.image = image →
      openVolume reader = (.ok volume, opened) →
      openVolume.runOn image = .ok volume ∧
      ∀ (queues : Unit → List Request) (last : System Unit _ _ _ _),
        Relation.ReflTransGen (System.Step Session.service)
          (System.start queues ⟨volume, none⟩ opened) last →
        last.state.volume.stores = volume.stores ∧
        ∀ exchange ∈ last.log,
          exchange.state.volume.stores = volume.stores ∧
            exchange.Faithful (Session.alone image)) ∧
    ∀ (index : Nat) (reader opened : Reader) (source : VssSnapshotSource),
      reader.image = image →
      VssSnapshotSource.openSource index reader = (.ok source, opened) →
      (VssSnapshotSource.openSource index).runOn image = .ok source ∧
      ∀ (τ : Type) (queues : τ → List ReadRequest)
        (last : System τ _ _ _ _),
        Relation.ReflTransGen (System.Step VssSnapshotSource.service)
          (System.start queues source opened) last →
        ∀ exchange ∈ last.log, exchange.state = source ∧
          exchange.Faithful (VssSnapshotSource.alone image) := by
  constructor
  · intro reader opened volume himage hopen
    have hvalue := (openVolume_runs image).of_ok himage hopen
    obtain rfl := Outcome.ok.inj hvalue
    refine ⟨(openVolume_runs image).runOn, fun queues last hreach => ?_⟩
    have hopened : opened.image = image := by
      have := (openVolume_runs image).image_eq himage
      rwa [hopen] at this
    have hlast := System.consistent_of_reachable (Session.service_sound image)
      hreach ⟨hopened, ⟨rfl, fun _ _ h => nomatch h⟩, fun _ h => nomatch h⟩
    refine ⟨by rw [hlast.state.volume], fun exchange hmem => ?_⟩
    obtain ⟨hstate, hfaithful⟩ := hlast.log exchange hmem
    exact ⟨by rw [hstate.volume], hfaithful⟩
  · intro index reader opened source himage hopen
    have hruns := @VssSnapshotSource.openSource_runs _ image index
    have halone := hruns.runOn.trans (hruns.of_ok himage hopen)
    refine ⟨halone, fun τ queues last hreach => ?_⟩
    have hopened : opened.image = image := by
      have := hruns.image_eq himage
      rwa [hopen] at this
    have hsound := VssSnapshotSource.service_sound
      (VssSnapshotSource.volumeSize_of_openSource halone)
    exact (System.consistent_of_reachable hsound hreach
      ⟨hopened, rfl, fun _ h => nomatch h⟩).log

end Sessions

/-- A reader that serves the opening of the volume and fails the call after
it. -/
def faultyOnce [Target] (image : Image) : Reader :=
  ⟨image, 7, 0, fun call =>
    if call = (volumeOf image).openCalls image then some (.other 5, 0)
    else none⟩

/-- The request that meets the failure reports it, and no later one fails. -/
theorem faultyOnce_run [Target] {image : Image}
    (hcalls : 0 < (volumeOf image).storeInfoCalls image 0) :
    ∃ opened program,
      openVolume (faultyOnce image) = (.ok (volumeOf image), opened) ∧
        Session.program ⟨volumeOf image, none⟩ (.storeInfo 0) = some program ∧
        (program opened).1 = .err (.io (.other 5)) ∧
        ∀ stop, (program opened).2.Quiet stop := by
  have hquiet : (faultyOnce image).Quiet
      ((faultyOnce image).calls + (volumeOf image).openCalls image) := by
    intro call _ hto
    rw [show (faultyOnce image).calls = 0 from rfl, Nat.zero_add] at hto
    exact if_neg (Nat.ne_of_lt hto)
  obtain ⟨cursor, hopen⟩ := openVolume_failFast.whole (openVolume_runs image)
    (openVolume_calls image) (show (faultyOnce image).image = image from rfl)
    hquiet
  let opened : Reader := ⟨image, cursor, (faultyOnce image).calls +
    (volumeOf image).openCalls image, (faultyOnce image).script⟩
  have hstart : opened.calls = (volumeOf image).openCalls image :=
    Nat.zero_add _
  have hfault : opened.FirstFault ((volumeOf image).openCalls image)
      (.other 5, 0) :=
    ⟨Nat.le_of_eq hstart, if_pos rfl, fun call hfrom hto => by omega⟩
  have hfast := FailFast.bind ((volumeOf image).storeInfo_failFast 0)
    fun info => FailFast.pure (Reply.info info)
  have hcount := Calls.bind_idle
    (VssVolume.storeInfo_calls (show (volumeOf image).volumeSize = _ from rfl)
      0) fun info reader => (rfl : ((pure (Reply.info info) :
        ReadM VssError Reply) reader).2.calls = reader.calls)
  have hcut := hfast.cut hcount (show opened.image = image from rfl) hfault
    (by omega)
  refine ⟨opened, _, hopen, rfl, congrArg Prod.fst hcut, ?_⟩
  rw [hcut]
  exact fun stop call hfrom _ => if_neg (Nat.ne_of_gt hfrom)

/-- A run that meets a failure and goes on, and a run of two threads on one
source. -/
theorem replies_independent_of_history_sample : let _ := Target.bits64
    (∃ (opened : Reader) (last : System Unit VssError Session Request Reply)
        (failed served : Exchange Unit VssError Session Request Reply),
      openVolume (faultyOnce (sample [])) =
        (.ok (volumeOf (sample [])), opened) ∧
      Relation.ReflTransGen (System.Step Session.service)
        (System.start (fun _ => [.storeInfo 0, .snapshot 0])
          ⟨volumeOf (sample []), none⟩ opened) last ∧
      last.log = [failed, served] ∧
      failed.outcome = .err (.io (.other 5)) ∧
      served.outcome =
        Session.alone (sample []) served.state served.request ∧
      ∀ exchange ∈ last.log, exchange.Faithful (Session.alone (sample []))) ∧
    ∃ (source : VssSnapshotSource) (opened : Reader)
        (queues : Bool → List ReadRequest)
        (last : System Bool VfsError VssSnapshotSource ReadRequest _),
      VssSnapshotSource.openSource 0 (Reader.fresh (sample []) 0) =
        (.ok source, opened) ∧
      Relation.ReflTransGen (System.Step VssSnapshotSource.service)
        (System.start queues source opened) last ∧
      last.log.map Exchange.client = [true, false] ∧
      ∀ exchange ∈ last.log, exchange.state = source ∧
        exchange.Faithful (VssSnapshotSource.alone (sample [])) := by
  intro _
  have hcalls : 0 < (volumeOf (sample [])).storeInfoCalls (sample []) 0 := by
    rw [VssVolume.storeInfoCalls, sample_older]
    decide
  have holder := sample_older
  generalize sample [] = image at *
  have h := replies_independent_of_history image
  constructor
  · obtain ⟨opened, _, hopen, hallowed, hfailed, hquiet⟩ :=
      faultyOnce_run hcalls
    obtain ⟨last, hreach, hlog⟩ := @System.run_two_turns Unit _ _ _ _ _
      Session.service (fun _ => [.storeInfo 0, .snapshot 0])
      ⟨volumeOf image, none⟩ opened () () (.storeInfo 0) (.snapshot 0) _ _
      rfl hallowed rfl rfl
    have hserved := ((h.1 _ opened _ rfl hopen).2 _ last hreach).2
    refine ⟨opened, last, _, _, hopen, hreach, hlog, hfailed, ?_,
      fun exchange hmem => (hserved exchange hmem).2⟩
    refine (hserved _ ?_).2.2 (hquiet _)
    rw [hlog]
    exact List.mem_cons_of_mem _ (List.mem_singleton_self _)
  · obtain ⟨opened, hopen⟩ := VssSnapshotSource.openSource_fresh
      (VssVolume.snapshotStateOf_eq_ok.mpr
        ⟨_, _, _, holder, rfl, rfl, rfl⟩)
    generalize VssSnapshotSource.sourceOf image _ = source at hopen
    let read : ReadRequest := ⟨131072, 3, by decide, Vector.replicate 3 0⟩
    obtain ⟨last, hreach, hlog⟩ := @System.run_two_turns Bool _ _ _ _ _
      VssSnapshotSource.service (fun _ => [read]) source opened true false read
      read _ _ rfl rfl rfl rfl
    have hserved := (h.2 0 _ opened _ rfl hopen).2 Bool _ last hreach
    exact ⟨source, opened, _, last, hopen, hreach,
      congrArg (List.map Exchange.client) hlog, hserved⟩

end ShadowCopy.Core
