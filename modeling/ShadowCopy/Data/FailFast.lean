import ShadowCopy.Data.Reader

namespace ShadowCopy.Data

/-! Programs that give up at the first reader call that fails, and how many
calls they make until then. -/

namespace Reader

/-- The reader with every failure its script still holds taken out. -/
def mended (reader : Reader) : Reader :=
  { reader with script := fun _ => none }

/-- The next failure the script holds is at `call`. -/
structure FirstFault (reader : Reader) (call : Nat) (fault : IoError × Nat) :
    Prop where
  ahead : reader.calls ≤ call
  due : reader.script call = some fault
  quiet : reader.Quiet call

theorem mended_healthy (reader : Reader) : reader.mended.Healthy :=
  fun _ => rfl

instance (reader : Reader) (stop : Nat) : Decidable (reader.Quiet stop) :=
  decidable_of_iff
    (∀ call < stop, reader.calls ≤ call → reader.script call = none)
    ⟨fun h call hfrom hto => h call hto hfrom,
      fun h call hto hfrom => h call hfrom hto⟩

theorem Quiet.of_le {reader : Reader} {stop earlier : Nat}
    (h : reader.Quiet stop) (hle : earlier ≤ stop) : reader.Quiet earlier :=
  fun call hfrom hto => h call hfrom (Nat.lt_of_lt_of_le hto hle)

/-- Up to any call the script is quiet, or some first failure comes before. -/
theorem quiet_or_firstFault (reader : Reader) (stop : Nat) :
    reader.Quiet stop ∨
      ∃ call fault, reader.FirstFault call fault ∧ call < stop := by
  induction stop with
  | zero => exact .inl fun _ _ hto => absurd hto (Nat.not_lt_zero _)
  | succ stop ih =>
      rcases ih with hquiet | ⟨call, fault, hfault, hlt⟩
      · by_cases hahead : reader.calls ≤ stop
        · cases hscript : reader.script stop with
          | some fault =>
              exact .inr ⟨stop, fault, ⟨hahead, hscript, hquiet⟩,
                Nat.lt_succ_self stop⟩
          | none =>
              refine .inl fun call hfrom hto => ?_
              rcases Nat.lt_succ_iff_lt_or_eq.mp hto with hlt | rfl
              · exact hquiet call hfrom hlt
              · exact hscript
        · refine .inl fun call hfrom hto => ?_
          omega
      · exact .inr ⟨call, fault, hfault, Nat.lt_succ_of_lt hlt⟩

end Reader

/-- On every reader the program does what it does without failures, up to the
first call that fails; that call is its last, and its error is returned. -/
structure FailFast [FromIoError ε] (program : ReadM ε α) : Prop where
  onward : ∀ reader : Reader, reader.calls ≤ (program reader.mended).2.calls
  image : ∀ reader : Reader, (program reader.mended).2.image = reader.image
  quiet : ∀ reader : Reader, reader.Quiet (program reader.mended).2.calls →
    program reader = ((program reader.mended).1,
      { (program reader.mended).2 with script := reader.script })
  fault : ∀ (reader : Reader) call fault, reader.FirstFault call fault →
    call < (program reader.mended).2.calls →
      program reader = (.err (fromIo fault.1),
        ⟨reader.image, fault.2, call + 1, reader.script⟩)

namespace FailFast

variable [FromIoError ε]

theorem mended_script {program : ReadM ε α} (h : FailFast program)
    (reader : Reader) :
    (program reader.mended).2 = (program reader.mended).2.mended := by
  have hquiet := h.quiet reader.mended fun _ _ _ => rfl
  exact congrArg Prod.snd hquiet

theorem pure (value : α) : FailFast (Pure.pure value : ReadM ε α) where
  onward := fun reader => Nat.le_refl reader.calls
  image := fun _ => rfl
  quiet := fun _ _ => rfl
  fault := by
    intro reader call _ hfault hlt
    exact absurd hlt (Nat.not_lt.mpr hfault.ahead)

theorem lift (outcome : Outcome ε α) : FailFast (ReadM.lift outcome) where
  onward := fun reader => Nat.le_refl reader.calls
  image := fun _ => rfl
  quiet := fun _ _ => rfl
  fault := by
    intro reader call _ hfault hlt
    exact absurd hlt (Nat.not_lt.mpr hfault.ahead)

/-- A single call, served from the image and the cursor alone. -/
theorem call {serve : Reader → Outcome ε α × Nat}
    (hserve : ∀ reader, serve reader = serve reader.mended) :
    FailFast (ReadM.call serve) where
  onward := fun reader => Nat.le_succ reader.calls
  image := fun _ => rfl
  quiet := by
    intro reader hquiet
    have hnone : reader.script reader.calls = none :=
      hquiet reader.calls (Nat.le_refl _) (Nat.lt_succ_self _)
    unfold ReadM.call
    rw [hnone, hserve reader]
    rfl
  fault := by
    intro reader call fault hfault hlt
    have hcall : call = reader.calls :=
      Nat.le_antisymm (Nat.le_of_lt_succ hlt) hfault.ahead
    subst hcall
    unfold ReadM.call
    rw [hfault.due]

theorem seekStart (off : UInt64) :
    FailFast (ReadM.seekStart off : ReadM ε UInt64) :=
  call fun _ => rfl

theorem seekEnd : FailFast (ReadM.seekEnd : ReadM ε UInt64) :=
  call fun _ => rfl

theorem readExact (n : Nat) :
    FailFast (ReadM.readExact n : ReadM ε (Vector UInt8 n)) :=
  call fun _ => rfl

/-! A program followed by another one: where the first one leaves a mended
reader, the second starts from. -/

section Bind

variable {program : ReadM ε α} {next : α → ReadM ε β}

theorem bind_onward (hfirst : FailFast program)
    (hnext : ∀ value, FailFast (next value)) (reader : Reader) :
    reader.calls ≤ ((program >>= next) reader.mended).2.calls := by
  have honward := hfirst.onward reader
  have hmended := hfirst.mended_script reader
  change _ ≤ (ReadM.bind program next reader.mended).2.calls
  unfold ReadM.bind
  generalize program reader.mended = finished at honward hmended
  obtain ⟨outcome, after⟩ := finished
  cases outcome with
  | ok value =>
      have hsecond := (hnext value).onward after
      rw [← hmended] at hsecond
      exact Nat.le_trans honward hsecond
  | err error => exact honward
  | panic => exact honward

theorem bind_image (hfirst : FailFast program)
    (hnext : ∀ value, FailFast (next value)) (reader : Reader) :
    ((program >>= next) reader.mended).2.image = reader.image := by
  have himage := hfirst.image reader
  have hmended := hfirst.mended_script reader
  change (ReadM.bind program next reader.mended).2.image = _
  unfold ReadM.bind
  generalize program reader.mended = finished at himage hmended
  obtain ⟨outcome, after⟩ := finished
  cases outcome with
  | ok value =>
      have hsecond := (hnext value).image after
      rw [← hmended] at hsecond
      exact hsecond.trans himage
  | err error => exact himage
  | panic => exact himage

theorem bind_quiet (hfirst : FailFast program)
    (hnext : ∀ value, FailFast (next value)) (reader : Reader)
    (hquiet : reader.Quiet ((program >>= next) reader.mended).2.calls) :
    (program >>= next) reader = (((program >>= next) reader.mended).1,
      { ((program >>= next) reader.mended).2 with
        script := reader.script }) := by
  have honward := hfirst.onward reader
  have hwhole := hfirst.quiet reader
  have hmended := hfirst.mended_script reader
  change ReadM.bind program next reader =
    ((ReadM.bind program next reader.mended).1,
      { (ReadM.bind program next reader.mended).2 with
        script := reader.script })
  change reader.Quiet (ReadM.bind program next reader.mended).2.calls
    at hquiet
  unfold ReadM.bind at hquiet ⊢
  generalize program reader.mended = finished at *
  obtain ⟨outcome, after⟩ := finished
  cases outcome with
  | err error => rw [hwhole hquiet]
  | panic => rw [hwhole hquiet]
  | ok value =>
      let middle : Reader := { after with script := reader.script }
      have hmiddle : middle.mended = after := hmended.symm
      have hsecond := (hnext value).onward middle
      rw [hmiddle] at hsecond
      rw [hwhole (hquiet.of_le hsecond)]
      have hrest : middle.Quiet (next value after).2.calls :=
        fun call hfrom hto => hquiet call (Nat.le_trans honward hfrom) hto
      have hend := (hnext value).quiet middle
      rw [hmiddle] at hend
      exact hend hrest

theorem bind_fault (hfirst : FailFast program)
    (hnext : ∀ value, FailFast (next value)) {reader : Reader} {call : Nat}
    {fault : IoError × Nat} (hfault : reader.FirstFault call fault)
    (hlt : call < ((program >>= next) reader.mended).2.calls) :
    (program >>= next) reader = (.err (fromIo fault.1),
      ⟨reader.image, fault.2, call + 1, reader.script⟩) := by
  have honward := hfirst.onward reader
  have himage := hfirst.image reader
  have hwhole := hfirst.quiet reader
  have hcut := hfirst.fault reader
  have hmended := hfirst.mended_script reader
  change ReadM.bind program next reader = _
  change call < (ReadM.bind program next reader.mended).2.calls at hlt
  unfold ReadM.bind at hlt ⊢
  generalize program reader.mended = finished at *
  obtain ⟨outcome, after⟩ := finished
  by_cases hearly : call < after.calls
  · rw [hcut call fault hfault hearly]
  · cases outcome with
    | err error => exact absurd hlt hearly
    | panic => exact absurd hlt hearly
    | ok value =>
        let middle : Reader := { after with script := reader.script }
        have hmiddle : middle.mended = after := hmended.symm
        have hlate : after.calls ≤ call := Nat.not_lt.mp hearly
        rw [hwhole (hfault.quiet.of_le hlate)]
        have hrest : middle.FirstFault call fault :=
          ⟨hlate, hfault.due, fun other hfrom hto =>
            hfault.quiet other (Nat.le_trans honward hfrom) hto⟩
        have hend := (hnext value).fault middle call fault hrest
        rw [hmiddle] at hend
        refine (hend hlt).trans ?_
        exact congrArg (fun image => ((Outcome.err (fromIo fault.1) :
          Outcome ε β), (⟨image, fault.2, call + 1, reader.script⟩ : Reader)))
          himage

theorem bind (hfirst : FailFast program)
    (hnext : ∀ value, FailFast (next value)) :
    FailFast (program >>= next) where
  onward := bind_onward hfirst hnext
  image := bind_image hfirst hnext
  quiet := bind_quiet hfirst hnext
  fault := fun _ _ _ => bind_fault hfirst hnext

end Bind

theorem foldlM {body : σ → α → ReadM ε σ} (items : List α) (state : σ)
    (hbody : ∀ state, ∀ item ∈ items, FailFast (body state item)) :
    FailFast (items.foldlM body state) := by
  induction items generalizing state with
  | nil => exact pure state
  | cons item rest ih =>
      rw [List.foldlM_cons]
      refine bind (hbody state item (List.mem_cons_self ..)) fun state => ?_
      exact ih state fun state other hother =>
        hbody state other (List.mem_cons_of_mem _ hother)

theorem mapErr [FromIoError ε'] (convert : ε → ε') {program : ReadM ε α}
    (hconvert : ∀ error, convert (fromIo error) = fromIo error)
    (h : FailFast program) : FailFast (program.mapErr convert) where
  onward := h.onward
  image := h.image
  quiet := by
    intro reader hquiet
    unfold ReadM.mapErr
    rw [h.quiet reader hquiet]
  fault := by
    intro reader call fault hfault hlt
    unfold ReadM.mapErr
    rw [h.fault reader call fault hfault hlt, ← hconvert fault.1]
    rfl

end FailFast

/-- The number of calls a program makes over `image` when none of them fails. -/
def Calls (image : Image) (before : Option Nat) (program : ReadM ε α)
    (count : Nat) : Prop :=
  ∀ reader : Reader, reader.image = image → reader.Healthy →
    KnownAt before reader.cursor →
      (program reader).2.calls = reader.calls + count

namespace Calls

variable [FromIoError ε] {image : Image}

omit [FromIoError ε] in
theorem congr {program : ReadM ε α} (h : Calls image before program count)
    (heq : count = count') : Calls image before program count' :=
  heq ▸ h

omit [FromIoError ε] in
theorem pure (value : α) :
    Calls image before (Pure.pure value : ReadM ε α) 0 :=
  fun _ _ _ _ => rfl

omit [FromIoError ε] in
theorem lift (outcome : Outcome ε α) :
    Calls image before (ReadM.lift outcome) 0 :=
  fun _ _ _ _ => rfl

theorem call (serve : Reader → Outcome ε α × Nat) :
    Calls image before (ReadM.call serve) 1 := by
  intro reader _ hhealthy _
  unfold ReadM.call
  rw [hhealthy reader.calls]

theorem bind_ok {program : ReadM ε α} {next : α → ReadM ε β}
    (hruns : Runs image before program (.ok value) middle)
    (hfirst : Calls image before program count)
    (hnext : Calls image middle (next value) count') :
    Calls image before (program >>= next) (count + count') := by
  intro reader himage hhealthy hbefore
  have served := hruns reader himage hbefore
  have hcount := hfirst reader himage hhealthy hbefore
  change (ReadM.bind program next reader).2.calls = _
  unfold ReadM.bind
  generalize program reader = finished at *
  obtain ⟨outcome, reader'⟩ := finished
  rcases served.outcome with ⟨_, hvalue, hmiddle⟩ | ⟨hnoisy, _⟩
  · change outcome = .ok value at hvalue
    subst outcome
    have hhealthy' : reader'.Healthy := fun call =>
      (congrFun served.script call).trans (hhealthy call)
    have hrest := hnext reader' (served.image.trans himage) hhealthy' hmiddle
    change (next value reader').2.calls = _
    rw [hrest, hcount, Nat.add_assoc]
  · exact absurd (fun call _ _ => hhealthy call) hnoisy

theorem bind_err {program : ReadM ε α} {next : α → ReadM ε β}
    (hruns : Runs image before program (.err error) middle)
    (hfirst : Calls image before program count) :
    Calls image before (program >>= next) count := by
  intro reader himage hhealthy hbefore
  have served := hruns reader himage hbefore
  have hcount := hfirst reader himage hhealthy hbefore
  change (ReadM.bind program next reader).2.calls = _
  unfold ReadM.bind
  generalize program reader = finished at *
  obtain ⟨outcome, reader'⟩ := finished
  rcases served.outcome with ⟨_, hvalue, _⟩ | ⟨hnoisy, _⟩
  · change outcome = .err error at hvalue
    subst outcome
    exact hcount
  · exact absurd (fun call _ _ => hhealthy call) hnoisy

omit [FromIoError ε] in
/-- What follows makes no call, whatever value it is given. -/
theorem bind_idle {program : ReadM ε α} {next : α → ReadM ε β}
    (hfirst : Calls image before program count)
    (hnext : ∀ value reader, (next value reader).2.calls = reader.calls) :
    Calls image before (program >>= next) count := by
  intro reader himage hhealthy hbefore
  have hcount := hfirst reader himage hhealthy hbefore
  change (ReadM.bind program next reader).2.calls = _
  unfold ReadM.bind
  generalize program reader = finished at *
  obtain ⟨outcome, reader'⟩ := finished
  cases outcome with
  | ok value => exact (hnext value reader').trans hcount
  | err error => exact hcount
  | panic => exact hcount

theorem bind_lift {outcome : Outcome ε α} {next : α → ReadM ε β}
    (hvalue : outcome = .ok value)
    (hnext : Calls image before (next value) count) :
    Calls image before (ReadM.lift outcome >>= next) count :=
  (bind_ok ((Runs.lift outcome).congr hvalue) (lift outcome) hnext).congr
    (Nat.zero_add count)

/-- A range read off the volume takes a seek and a read. -/
theorem bind_range {next : Vector UInt8 n → ReadM ε β} {off : UInt64}
    (hfits : off.toNat + n ≤ image.size)
    (hnext : Calls image (some (off.toNat + n))
      (next (image.read off.toNat n)) count) :
    Calls image before
      (do
        let _ ← ReadM.seekStart off
        let buf ← ReadM.readExact n
        next buf)
      (2 + count) := by
  refine (bind_ok (Runs.seekStart off) (call _) ?_).congr
    (Nat.add_assoc 1 1 count).symm
  exact bind_ok (Runs.readExact off.toNat n hfits) (call _) hnext

omit [FromIoError ε] in
theorem weaken {program : ReadM ε α} (h : Calls image none program count) :
    Calls image before program count :=
  fun reader himage hhealthy _ =>
    h reader himage hhealthy (Runs.knownAt_none _)

theorem foldlM {body : σ → α → ReadM ε σ} {step : σ → α → σ}
    {cost : α → Nat} (items : List α) (state : σ)
    (hruns : ∀ state, ∀ item ∈ items,
      Runs image none (body state item) (.ok (step state item)) none)
    (hbody : ∀ state, ∀ item ∈ items,
      Calls image none (body state item) (cost item)) :
    Calls image none (items.foldlM body state) (items.map cost).sum := by
  induction items generalizing state with
  | nil => exact pure state
  | cons item rest ih =>
      rw [List.foldlM_cons, List.map_cons, List.sum_cons]
      refine bind_ok (hruns state item (List.mem_cons_self ..))
        (hbody state item (List.mem_cons_self ..)) ?_
      exact ih _
        (fun state other hother =>
          hruns state other (List.mem_cons_of_mem _ hother))
        fun state other hother =>
          hbody state other (List.mem_cons_of_mem _ hother)

omit [FromIoError ε] in
theorem mapErr (convert : ε → ε') {program : ReadM ε α}
    (h : Calls image before program count) :
    Calls image before (program.mapErr convert) count :=
  h

end Calls

/-- How a run over `image` ends, whatever the reader: with `expected` after
`count` calls if none of them fails, and otherwise at the first failing one,
with its error and nothing called after it. -/
structure Serves [FromIoError ε] (reader : Reader)
    (finished : Outcome ε α × Reader) (expected : Outcome ε α) (count : Nat) :
    Prop where
  whole : reader.Quiet (reader.calls + count) →
    finished.1 = expected ∧ finished.2.calls = reader.calls + count
  cut : ∀ call fault, reader.FirstFault call fault →
    call < reader.calls + count →
      finished.1 = .err (fromIo fault.1) ∧
        finished.2.calls = call + 1 ∧ finished.2.cursor = fault.2

theorem Serves.calls_le [FromIoError ε] {reader : Reader}
    {finished : Outcome ε α × Reader} {expected : Outcome ε α} {count : Nat}
    (h : Serves reader finished expected count) {bound : Nat}
    (hle : count ≤ bound) :
    finished.2.calls ≤ reader.calls + bound := by
  refine Nat.le_trans ?_ (Nat.add_le_add_left hle _)
  rcases reader.quiet_or_firstFault (reader.calls + count) with
    hquiet | ⟨call, fault, hfault, hlt⟩
  · exact Nat.le_of_eq (h.whole hquiet).2
  · rw [(h.cut call fault hfault hlt).2.1]
    exact hlt

section Whole

variable [FromIoError ε] {image : Image} {program : ReadM ε α}
  {expected : Outcome ε α} {after : Option Nat} {count : Nat}
  {reader : Reader}

theorem FailFast.whole (hfast : FailFast program)
    (hruns : Runs image none program expected after)
    (hcalls : Calls image none program count) (himage : reader.image = image)
    (hquiet : reader.Quiet (reader.calls + count)) :
    ∃ cursor, program reader =
      (expected, ⟨image, cursor, reader.calls + count, reader.script⟩) := by
  have hcount : (program reader.mended).2.calls = reader.calls + count :=
    hcalls reader.mended himage reader.mended_healthy (Runs.knownAt_none _)
  have hvalue := hruns.healthy (show reader.mended.image = image from himage)
    reader.mended_healthy
  refine ⟨(program reader.mended).2.cursor, ?_⟩
  rw [hfast.quiet reader (hcount.symm ▸ hquiet), hvalue]
  dsimp only
  rw [hfast.image, himage, hcount]

theorem FailFast.cut (hfast : FailFast program)
    (hcalls : Calls image none program count) (himage : reader.image = image)
    {call : Nat} {fault : IoError × Nat} (hfault : reader.FirstFault call fault)
    (hlt : call < reader.calls + count) :
    program reader =
      (.err (fromIo fault.1), ⟨image, fault.2, call + 1, reader.script⟩) := by
  have hcount : (program reader.mended).2.calls = reader.calls + count :=
    hcalls reader.mended himage reader.mended_healthy (Runs.knownAt_none _)
  rw [hfast.fault reader call fault hfault (hcount.symm ▸ hlt), himage]

theorem FailFast.serves (hfast : FailFast program)
    (hruns : Runs image none program expected after)
    (hcalls : Calls image none program count) (himage : reader.image = image) :
    Serves reader (program reader) expected count := by
  constructor
  · intro hquiet
    obtain ⟨cursor, hwhole⟩ := hfast.whole hruns hcalls himage hquiet
    rw [hwhole]
    exact ⟨rfl, rfl⟩
  · intro call fault hfault hlt
    rw [hfast.cut hcalls himage hfault hlt]
    exact ⟨rfl, rfl, rfl⟩

end Whole

end ShadowCopy.Data
