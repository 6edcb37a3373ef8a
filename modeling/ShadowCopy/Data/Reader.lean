import ShadowCopy.Data.Buffer

namespace ShadowCopy.Data

structure Image where
  size : Nat
  size_lt : size < 2 ^ 64
  data : Fin size → UInt8

namespace Image

def byteAt (image : Image) (position : Nat) : UInt8 :=
  if h : position < image.size then image.data ⟨position, h⟩ else 0

def read (image : Image) (off n : Nat) : Vector UInt8 n :=
  Vector.ofFn fun j : Fin n => image.byteAt (off + j.val)

@[simp] theorem getElem_read (image : Image) (off n j : Nat) (hj : j < n) :
    (image.read off n)[j] = image.byteAt (off + j) := by
  simp [read]

theorem byteAt_eq_zero {image : Image} {position : Nat}
    (h : image.size ≤ position) : image.byteAt position = 0 :=
  dif_neg (Nat.not_lt.mpr h)

end Image

inductive IoError where
  | unexpectedEof
  | other (code : Nat)
  deriving DecidableEq, Repr

class FromIoError (ε : Type) where
  fromIo : IoError → ε

export FromIoError (fromIo)

instance : FromIoError IoError := ⟨id⟩

/-- A seekable reader.  `script` decides the fate of every call it will serve:
`some (error, cursor)` makes that call fail and leave the cursor there. -/
structure Reader where
  image : Image
  cursor : Nat
  calls : Nat
  script : Nat → Option (IoError × Nat)

namespace Reader

def fresh (image : Image) (cursor : Nat) : Reader :=
  ⟨image, cursor, 0, fun _ => none⟩

def Quiet (reader : Reader) (stop : Nat) : Prop :=
  ∀ call, reader.calls ≤ call → call < stop → reader.script call = none

def Healthy (reader : Reader) : Prop :=
  ∀ call, reader.script call = none

end Reader

def ReadM (ε α : Type) : Type := Reader → Outcome ε α × Reader

namespace ReadM

def bind (program : ReadM ε α) (next : α → ReadM ε β) : ReadM ε β :=
  fun reader =>
    match program reader with
    | (.ok value, reader) => next value reader
    | (.err error, reader) => (.err error, reader)
    | (.panic, reader) => (.panic, reader)

instance : Monad (ReadM ε) where
  pure value := fun reader => (.ok value, reader)
  bind := bind

def lift (outcome : Outcome ε α) : ReadM ε α :=
  fun reader => (outcome, reader)

def mapErr (convert : ε → ε') (program : ReadM ε α) : ReadM ε' α :=
  fun reader =>
    let (outcome, reader) := program reader
    (outcome.mapErr convert, reader)

def call [FromIoError ε] (serve : Reader → Outcome ε α × Nat) : ReadM ε α :=
  fun reader =>
    match reader.script reader.calls with
    | some (error, cursor) =>
        (.err (fromIo error),
          { reader with cursor := cursor, calls := reader.calls + 1 })
    | none =>
        ((serve reader).1,
          { reader with
            cursor := (serve reader).2, calls := reader.calls + 1 })

def seekStart [FromIoError ε] (off : UInt64) : ReadM ε UInt64 :=
  call fun _ => (.ok off, off.toNat)

def seekEnd [FromIoError ε] : ReadM ε UInt64 :=
  call fun reader => (.ok (UInt64.ofNat reader.image.size), reader.image.size)

/-- `reader.read_exact(&mut buf)?` for a buffer of `n` bytes: it fails exactly
when fewer than `n` bytes are left. -/
def readExact [FromIoError ε] (n : Nat) : ReadM ε (Vector UInt8 n) :=
  call fun reader =>
    if reader.cursor + n ≤ reader.image.size then
      (.ok (reader.image.read reader.cursor n), reader.cursor + n)
    else
      (.err (fromIo .unexpectedEof), max reader.cursor reader.image.size)

/-- `if let Ok(value) = program`: an error is dropped, a panic is not. -/
def attempt (program : ReadM ε α) : ReadM ε' (Option α) :=
  fun reader =>
    match program reader with
    | (.ok value, reader) => (.ok (some value), reader)
    | (.err _, reader) => (.ok none, reader)
    | (.panic, reader) => (.panic, reader)

def runOn (program : ReadM ε α) (image : Image) : Outcome ε α :=
  (program (Reader.fresh image 0)).1

end ReadM

/-! A program logic for readers whose calls may fail. -/

def KnownAt (position : Option Nat) (cursor : Nat) : Prop :=
  ∀ p, position = some p → cursor = p

/-- How a finished run relates to the outcome of a healthy one: either every
call succeeded and the outcome is that one, or some call failed and the run
ended in an I/O error. -/
structure Served [FromIoError ε] (reader : Reader)
    (finished : Outcome ε α × Reader) (expected : Outcome ε α)
    (after : Option Nat) : Prop where
  image : finished.2.image = reader.image
  script : finished.2.script = reader.script
  calls : reader.calls ≤ finished.2.calls
  outcome :
    (reader.Quiet finished.2.calls ∧ finished.1 = expected ∧
        KnownAt after finished.2.cursor) ∨
      (¬ reader.Quiet finished.2.calls ∧
        ∃ error, finished.1 = .err (fromIo error))

/-- `program` computes `expected` over `image`: on every reader, wherever its
cursor is (as far as `before` leaves open) and whatever its script. -/
def Runs [FromIoError ε] (image : Image) (before : Option Nat)
    (program : ReadM ε α) (expected : Outcome ε α) (after : Option Nat) :
    Prop :=
  ∀ reader : Reader, reader.image = image → KnownAt before reader.cursor →
    Served reader (program reader) expected after

namespace Runs

variable [FromIoError ε] {image : Image}

theorem knownAt_none (cursor : Nat) : KnownAt none cursor :=
  fun _ h => nomatch h

theorem pure (value : α) :
    Runs image before (Pure.pure value : ReadM ε α) (.ok value) before := by
  intro reader _ hbefore
  refine ⟨rfl, rfl, Nat.le_refl _, .inl ⟨?_, rfl, hbefore⟩⟩
  intro call hfrom hto
  exact absurd hto (Nat.not_lt.mpr hfrom)

theorem lift (outcome : Outcome ε α) :
    Runs image before (ReadM.lift outcome) outcome before := by
  intro reader _ hbefore
  refine ⟨rfl, rfl, Nat.le_refl _, .inl ⟨?_, rfl, hbefore⟩⟩
  intro call hfrom hto
  exact absurd hto (Nat.not_lt.mpr hfrom)

theorem congr {program : ReadM ε α}
    (h : Runs image before program expected after)
    (heq : expected = expected') :
    Runs image before program expected' after :=
  heq ▸ h

theorem forget {program : ReadM ε α}
    (h : Runs image before program expected after) :
    Runs image before program expected none := by
  intro reader himage hbefore
  have served := h reader himage hbefore
  refine ⟨served.image, served.script, served.calls, ?_⟩
  exact served.outcome.imp_left fun ⟨hquiet, hvalue, _⟩ =>
    ⟨hquiet, hvalue, knownAt_none _⟩

theorem bind_ok {program : ReadM ε α} {next : α → ReadM ε β}
    (hfirst : Runs image before program (.ok value) middle)
    (hnext : Runs image middle (next value) expected after) :
    Runs image before (program >>= next) expected after := by
  intro reader himage hbefore
  have first := hfirst reader himage hbefore
  change Served reader (ReadM.bind program next reader) expected after
  unfold ReadM.bind
  generalize program reader = finished at first
  obtain ⟨outcome, reader'⟩ := finished
  rcases first.outcome with ⟨hquiet, hvalue, hmiddle⟩ | ⟨hnoisy, error, hvalue⟩
  · change outcome = .ok value at hvalue
    subst outcome
    have second := hnext reader' (first.image.trans himage) hmiddle
    have hsplit : reader.Quiet (next value reader').2.calls ↔
        reader'.Quiet (next value reader').2.calls := by
      constructor
      · intro h call hfrom hto
        rw [first.script]
        exact h call (Nat.le_trans first.calls hfrom) hto
      · intro h call hfrom hto
        by_cases hearly : call < reader'.calls
        · exact hquiet call hfrom hearly
        · rw [← first.script]
          exact h call (Nat.not_lt.mp hearly) hto
    refine ⟨second.image.trans first.image, second.script.trans first.script,
      Nat.le_trans first.calls second.calls, ?_⟩
    rw [hsplit]
    exact second.outcome
  · change outcome = .err (fromIo error) at hvalue
    subst outcome
    exact ⟨first.image, first.script, first.calls,
      .inr ⟨hnoisy, error, rfl⟩⟩

theorem bind_err {program : ReadM ε α} {next : α → ReadM ε β}
    (hfirst : Runs image before program (.err error) middle) :
    Runs image before (program >>= next) (.err error) middle := by
  intro reader himage hbefore
  have first := hfirst reader himage hbefore
  change Served reader (ReadM.bind program next reader) _ _
  unfold ReadM.bind
  generalize program reader = finished at first
  obtain ⟨outcome, reader'⟩ := finished
  rcases first.outcome with ⟨hquiet, hvalue, hmiddle⟩ | ⟨hnoisy, failure, hvalue⟩
  · change outcome = .err error at hvalue
    subst outcome
    exact ⟨first.image, first.script, first.calls,
      .inl ⟨hquiet, rfl, hmiddle⟩⟩
  · change outcome = .err (fromIo failure) at hvalue
    subst outcome
    exact ⟨first.image, first.script, first.calls,
      .inr ⟨hnoisy, failure, rfl⟩⟩

theorem bind_panic {program : ReadM ε α} {next : α → ReadM ε β}
    (hfirst : Runs image before program .panic middle) :
    Runs image before (program >>= next) .panic middle := by
  intro reader himage hbefore
  have first := hfirst reader himage hbefore
  change Served reader (ReadM.bind program next reader) _ _
  unfold ReadM.bind
  generalize program reader = finished at first
  obtain ⟨outcome, reader'⟩ := finished
  rcases first.outcome with ⟨hquiet, hvalue, hmiddle⟩ | ⟨hnoisy, failure, hvalue⟩
  · change outcome = .panic at hvalue
    subst outcome
    exact ⟨first.image, first.script, first.calls,
      .inl ⟨hquiet, rfl, hmiddle⟩⟩
  · change outcome = .err (fromIo failure) at hvalue
    subst outcome
    exact ⟨first.image, first.script, first.calls,
      .inr ⟨hnoisy, failure, rfl⟩⟩

/-- Sequencing where no position is passed on. -/
theorem bind {program : ReadM ε α} {next : α → ReadM ε β}
    {expected : Outcome ε α} {following : α → Outcome ε β}
    (hfirst : Runs image before program expected none)
    (hnext : ∀ value, Runs image none (next value) (following value) none) :
    Runs image before (program >>= next) (expected >>= following) none := by
  cases expected with
  | ok value => exact bind_ok hfirst (hnext value)
  | err error => exact bind_err hfirst
  | panic => exact bind_panic hfirst

theorem foldlM {body : σ → α → ReadM ε σ} {step : σ → α → σ}
    (items : List α) (state : σ)
    (hbody : ∀ state, ∀ item ∈ items,
      Runs image none (body state item) (.ok (step state item)) none) :
    Runs image none (items.foldlM body state)
      (.ok (items.foldl step state)) none := by
  induction items generalizing state with
  | nil => exact Runs.pure state
  | cons item rest ih =>
      rw [List.foldlM_cons, List.foldl_cons]
      refine bind_ok (hbody state item (by simp)) ?_
      exact ih _ fun state item hitem => hbody state item (by simp [hitem])

theorem mapErr [FromIoError ε'] (convert : ε → ε') {program : ReadM ε α}
    (hconvert : ∀ error, convert (fromIo error) = fromIo error)
    (h : Runs image before program expected after) :
    Runs image before (program.mapErr convert) (expected.mapErr convert)
      after := by
  intro reader himage hbefore
  have served := h reader himage hbefore
  refine ⟨served.image, served.script, served.calls, ?_⟩
  rcases served.outcome with ⟨hquiet, hvalue, hafter⟩ | ⟨hnoisy, error, hvalue⟩
  · exact .inl ⟨hquiet, congrArg (Outcome.mapErr convert) hvalue, hafter⟩
  · refine .inr ⟨hnoisy, error, ?_⟩
    change (program reader).1.mapErr convert = _
    rw [hvalue, Outcome.mapErr_err, hconvert]

theorem call {serve : Reader → Outcome ε α × Nat}
    (h : ∀ reader : Reader, reader.image = image →
      KnownAt before reader.cursor →
      (serve reader).1 = expected ∧ KnownAt after (serve reader).2) :
    Runs image before (ReadM.call serve) expected after := by
  intro reader himage hbefore
  obtain ⟨hvalue, hafter⟩ := h reader himage hbefore
  unfold ReadM.call
  cases hscript : reader.script reader.calls with
  | some failure =>
      refine ⟨rfl, rfl, Nat.le_succ _, .inr ⟨?_, failure.1, rfl⟩⟩
      intro hquiet
      have := hquiet reader.calls (Nat.le_refl _) (Nat.lt_succ_self _)
      rw [hscript] at this
      contradiction
  | none =>
      refine ⟨rfl, rfl, Nat.le_succ _, .inl ⟨?_, hvalue, hafter⟩⟩
      intro number hfrom hto
      have : number = reader.calls :=
        Nat.le_antisymm (Nat.le_of_lt_succ hto) hfrom
      rw [this, hscript]

theorem seekStart (off : UInt64) :
    Runs image before (ReadM.seekStart off : ReadM ε UInt64) (.ok off)
      (some off.toNat) :=
  call fun _ _ _ => ⟨rfl, fun _ h => Option.some.inj h⟩

theorem seekEnd :
    Runs image before (ReadM.seekEnd : ReadM ε UInt64)
      (.ok (UInt64.ofNat image.size)) (some image.size) := by
  apply call
  intro reader himage _
  rw [himage]
  exact ⟨rfl, fun _ h => Option.some.inj h⟩

theorem readExact (off n : Nat) (hfits : off + n ≤ image.size) :
    Runs image (some off) (ReadM.readExact n : ReadM ε (Vector UInt8 n))
      (.ok (image.read off n)) (some (off + n)) := by
  apply call
  intro reader himage hbefore
  have hcursor : reader.cursor = off := hbefore off rfl
  rw [himage, hcursor, if_pos hfits]
  exact ⟨rfl, fun _ h => Option.some.inj h⟩

theorem of_ok {program : ReadM ε α} {reader reader' : Reader}
    (h : Runs image none program expected after)
    (himage : reader.image = image)
    (hok : program reader = (.ok value, reader')) : expected = .ok value := by
  have served := h reader himage (knownAt_none _)
  rcases served.outcome with ⟨_, hvalue, _⟩ | ⟨_, error, hvalue⟩
  · rw [← hvalue, hok]
  · rw [hok] at hvalue
    contradiction

theorem image_eq {program : ReadM ε α} {reader : Reader}
    (h : Runs image none program expected after)
    (himage : reader.image = image) : (program reader).2.image = image :=
  (h reader himage (knownAt_none _)).image.trans himage

theorem healthy {program : ReadM ε α} {reader : Reader}
    (h : Runs image none program expected after)
    (himage : reader.image = image) (hhealthy : reader.Healthy) :
    (program reader).1 = expected := by
  have served := h reader himage (knownAt_none _)
  rcases served.outcome with ⟨_, hvalue, _⟩ | ⟨hnoisy, _⟩
  · exact hvalue
  · exact absurd (fun call _ _ => hhealthy call) hnoisy

theorem runOn {program : ReadM ε α}
    (h : Runs image none program expected after) :
    program.runOn image = expected :=
  h.healthy rfl fun _ => rfl

end Runs

/-- From any healthy reader over `image` the program ends in an outcome that
`post` allows, with the reader healthy and over `image`. -/
def Yields (image : Image) (program : ReadM ε α)
    (post : Outcome ε α → Prop) : Prop :=
  ∀ reader : Reader, reader.image = image → reader.Healthy →
    post (program reader).1 ∧
      (program reader).2.image = image ∧ (program reader).2.Healthy

/-- The program returns a value, from any healthy reader over `image`. -/
abbrev Returns (image : Image) (program : ReadM ε α) (value : α) : Prop :=
  Yields image program fun answer => answer = .ok value

theorem Runs.yields [FromIoError ε] {image : Image} {program : ReadM ε α}
    (h : Runs image none program expected after)
    {post : Outcome ε α → Prop} (hpost : post expected) :
    Yields image program post := by
  intro reader himage hhealthy
  refine ⟨?_, h.image_eq himage, ?_⟩
  · rw [h.healthy himage hhealthy]
    exact hpost
  · intro call
    rw [(h reader himage (Runs.knownAt_none _)).script]
    exact hhealthy call

theorem Runs.cursor_eq [FromIoError ε] {image : Image} {program : ReadM ε α}
    {position : Nat} (h : Runs image none program expected (some position))
    {reader : Reader} (himage : reader.image = image)
    (hhealthy : reader.Healthy) : (program reader).2.cursor = position := by
  rcases (h reader himage (knownAt_none _)).outcome with
    ⟨_, _, hafter⟩ | ⟨hnoisy, _⟩
  · exact hafter position rfl
  · exact absurd (fun call _ _ => hhealthy call) hnoisy

theorem Yields.runOn {image : Image} {program : ReadM ε α}
    {post : Outcome ε α → Prop} (h : Yields image program post) :
    post (program.runOn image) :=
  (h (Reader.fresh image 0) rfl fun _ => rfl).1

namespace Returns

variable {image : Image}

theorem pure (value : α) :
    Returns image (Pure.pure value : ReadM ε α) value :=
  fun _ himage hhealthy => ⟨rfl, himage, hhealthy⟩

theorem bind {program : ReadM ε α} {next : α → ReadM ε β} {value : α}
    {result : β} (hfirst : Returns image program value)
    (hnext : Returns image (next value) result) :
    Returns image (program >>= next) result := by
  intro reader himage hhealthy
  obtain ⟨hvalue, himage', hhealthy'⟩ := hfirst reader himage hhealthy
  change (ReadM.bind program next reader).1 = .ok result ∧
    (ReadM.bind program next reader).2.image = image ∧
      (ReadM.bind program next reader).2.Healthy
  unfold ReadM.bind
  generalize program reader = finished at *
  obtain ⟨outcome, reader'⟩ := finished
  change outcome = .ok value at hvalue
  subst outcome
  exact hnext reader' himage' hhealthy'

theorem foldlM {body : σ → α → ReadM ε σ} {step : σ → α → σ}
    (items : List α) (state : σ)
    (hbody : ∀ state, ∀ item ∈ items,
      Returns image (body state item) (step state item)) :
    Returns image (items.foldlM body state) (items.foldl step state) := by
  induction items generalizing state with
  | nil => exact pure state
  | cons item rest ih =>
      rw [List.foldlM_cons, List.foldl_cons]
      refine bind (hbody state item (List.mem_cons_self ..)) ?_
      exact ih _ fun state other hother =>
        hbody state other (List.mem_cons_of_mem _ hother)

theorem attempt {program : ReadM ε α} {outcome : Outcome ε α}
    (h : Yields image program fun answer => answer = outcome)
    (hpanic : outcome ≠ .panic) :
    Returns image (program.attempt : ReadM ε' (Option α)) outcome.toOption := by
  intro reader himage hhealthy
  obtain ⟨hvalue, himage', hhealthy'⟩ := h reader himage hhealthy
  unfold ReadM.attempt
  generalize program reader = finished at *
  obtain ⟨answer, reader'⟩ := finished
  change answer = outcome at hvalue
  subst answer
  cases outcome with
  | ok value => exact ⟨rfl, himage', hhealthy'⟩
  | err error => exact ⟨rfl, himage', hhealthy'⟩
  | panic => exact absurd rfl hpanic

end Returns

end ShadowCopy.Data
