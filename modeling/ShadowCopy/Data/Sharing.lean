import ShadowCopy.Data.Reader
import Mathlib.Logic.Function.Basic
import Mathlib.Logic.Relation

namespace ShadowCopy.Data

/-! Clients that share one reader and have their requests served one at a
time. -/

/-- What a request runs, where the state allows it, and what becomes of the
state. -/
structure Service (ε σ ρ α : Type) where
  program : σ → ρ → Option (ReadM ε α)
  after : σ → ρ → Outcome ε α → σ

/-- One served request, the state it met and the reader around it. -/
structure Exchange (τ ε σ ρ α : Type) where
  client : τ
  state : σ
  request : ρ
  outcome : Outcome ε α
  before : Reader
  after : Reader

def Exchange.Unharmed (exchange : Exchange τ ε σ ρ α) : Prop :=
  exchange.before.Quiet exchange.after.calls

structure System (τ ε σ ρ α : Type) where
  queues : τ → List ρ
  state : σ
  reader : Reader
  log : List (Exchange τ ε σ ρ α)

namespace System

def start (queues : τ → List ρ) (state : σ) (reader : Reader) :
    System τ ε σ ρ α :=
  ⟨queues, state, reader, []⟩

/-- Some client gets the reader and has its next request served. -/
inductive Step (service : Service ε σ ρ α) :
    System τ ε σ ρ α → System τ ε σ ρ α → Prop
  | serve (system : System τ ε σ ρ α) (client : τ) (request : ρ)
      (rest : List ρ) (program : ReadM ε α) (queues : τ → List ρ)
      (pending : system.queues client = request :: rest)
      (allowed : service.program system.state request = some program)
      (served : queues client = rest)
      (others : ∀ other, other ≠ client →
        queues other = system.queues other) :
      Step service system
        { queues := queues
          state := service.after system.state request
            (program system.reader).1
          reader := (program system.reader).2
          log := system.log ++ [⟨client, system.state, request,
            (program system.reader).1, system.reader,
            (program system.reader).2⟩] }

/-- The system once the client has had its first request served. -/
def turn [DecidableEq τ] (service : Service ε σ ρ α)
    (system : System τ ε σ ρ α) (client : τ) (request : ρ)
    (program : ReadM ε α) : System τ ε σ ρ α where
  queues := Function.update system.queues client (system.queues client).tail
  state := service.after system.state request (program system.reader).1
  reader := (program system.reader).2
  log := system.log ++ [⟨client, system.state, request,
    (program system.reader).1, system.reader, (program system.reader).2⟩]

theorem step_turn [DecidableEq τ] {service : Service ε σ ρ α}
    {system : System τ ε σ ρ α} {client : τ} {request : ρ}
    {program : ReadM ε α} (pending : (system.queues client).head? = some request)
    (allowed : service.program system.state request = some program) :
    Step service system (system.turn service client request program) :=
  Step.serve system client request _ program _
    (List.eq_cons_of_mem_head? pending) allowed
    (Function.update_self client _ system.queues)
    fun _ hother => Function.update_of_ne hother _ system.queues

/-- Two turns, one after the other. -/
theorem run_two_turns [DecidableEq τ] {service : Service ε σ ρ α}
    {queues : τ → List ρ} {state : σ} {reader : Reader} {one two : τ}
    {first second : ρ} {opening closing : ReadM ε α}
    (pending : (queues one).head? = some first)
    (allowed : service.program state first = some opening)
    (pending' : (Function.update queues one (queues one).tail two).head? =
      some second)
    (allowed' : service.program
      (service.after state first (opening reader).1) second = some closing) :
    ∃ last, Relation.ReflTransGen (Step service) (start queues state reader)
        last ∧
      last.log =
        [⟨one, state, first, (opening reader).1, reader, (opening reader).2⟩,
          ⟨two, service.after state first (opening reader).1, second,
            (closing (opening reader).2).1, (opening reader).2,
            (closing (opening reader).2).2⟩] := by
  let middle := (start queues state reader).turn service one first opening
  have hone : Step service (start queues state reader) middle :=
    step_turn pending allowed
  have htwo : Step service middle (middle.turn service two second closing) :=
    step_turn pending' allowed'
  exact ⟨_, (Relation.ReflTransGen.single hone).tail htwo, rfl⟩

end System

/-- Every request of a service computes a value fixed by the image, in every
state that the invariant holds of; the invariant survives both that value and
a failed call. -/
structure Service.Sound [FromIoError ε] (service : Service ε σ ρ α)
    (image : Image) (invariant : σ → Prop)
    (expected : σ → ρ → Outcome ε α) : Prop where
  runs : ∀ state request program, invariant state →
    service.program state request = some program →
      Runs image none program (expected state request) none
  kept : ∀ state request program, invariant state →
    service.program state request = some program →
      invariant (service.after state request (expected state request))
  spared : ∀ state request error, invariant state →
    invariant (service.after state request (.err (fromIo error)))

/-- The outcome is the expected one if it is a value, or if no call failed. -/
def Exchange.Faithful (expected : σ → ρ → Outcome ε α)
    (exchange : Exchange τ ε σ ρ α) : Prop :=
  (∀ value, exchange.outcome = .ok value →
      expected exchange.state exchange.request = .ok value) ∧
    (exchange.Unharmed →
      exchange.outcome = expected exchange.state exchange.request)

namespace System

variable [FromIoError ε] {service : Service ε σ ρ α} {image : Image}
  {invariant : σ → Prop} {expected : σ → ρ → Outcome ε α}

/-- What holds of every system that a sound service runs. -/
structure Consistent (image : Image) (invariant : σ → Prop)
    (expected : σ → ρ → Outcome ε α) (system : System τ ε σ ρ α) : Prop where
  image : system.reader.image = image
  state : invariant system.state
  log : ∀ exchange ∈ system.log,
    invariant exchange.state ∧ exchange.Faithful expected

theorem Step.consistent (hsound : service.Sound image invariant expected)
    {system next : System τ ε σ ρ α} (hstep : Step service system next)
    (h : system.Consistent image invariant expected) :
    next.Consistent image invariant expected := by
  cases hstep with
  | serve client request rest program queues pending allowed served others =>
      have hruns := hsound.runs _ _ _ h.state allowed
      have result := hruns system.reader h.image (Runs.knownAt_none _)
      refine ⟨result.image.trans h.image, ?_, ?_⟩
      · rcases result.outcome with ⟨_, hvalue, _⟩ | ⟨_, error, hvalue⟩
        · change invariant (service.after _ _ (program system.reader).1)
          rw [hvalue]
          exact hsound.kept _ _ _ h.state allowed
        · change invariant (service.after _ _ (program system.reader).1)
          rw [hvalue]
          exact hsound.spared _ _ error h.state
      · intro exchange hmem
        rcases List.mem_append.mp hmem with hold | hnew
        · exact h.log exchange hold
        · rw [List.mem_singleton.mp hnew]
          refine ⟨h.state, ?_, ?_⟩
          · intro value hok
            exact hruns.of_ok h.image (Prod.ext hok rfl)
          · intro hquiet
            rcases result.outcome with ⟨_, hvalue, _⟩ | ⟨hnoisy, _⟩
            · exact hvalue
            · exact absurd hquiet hnoisy

theorem consistent_of_reachable
    (hsound : service.Sound image invariant expected)
    {first last : System τ ε σ ρ α}
    (hreach : Relation.ReflTransGen (Step service) first last)
    (h : first.Consistent image invariant expected) :
    last.Consistent image invariant expected := by
  induction hreach with
  | refl => exact h
  | tail _ hstep ih => exact hstep.consistent hsound ih

end System

end ShadowCopy.Data
