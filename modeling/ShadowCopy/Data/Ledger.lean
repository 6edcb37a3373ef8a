import Mathlib.Data.List.Induction

namespace ShadowCopy.Data

/-! Numbers issued in turn, any of which may be withdrawn later. -/

inductive LedgerEvent where
  | issue
  | withdraw (number : Nat)

/-- Every number issued so far is held or withdrawn, and not both. -/
structure Ledger (first : Nat) where
  next : Nat
  held : List Nat
  withdrawn : List Nat
  begun : first ≤ next
  accounted : ∀ number, number ∈ held ∨ number ∈ withdrawn ↔
    first ≤ number ∧ number < next
  apart : ∀ number ∈ held, number ∉ withdrawn

namespace Ledger

variable {first : Nat}

def start (first : Nat) : Ledger first where
  next := first
  held := []
  withdrawn := []
  begun := Nat.le_refl first
  accounted := fun number => by
    simp only [List.not_mem_nil, or_self, false_iff]
    exact fun h => Nat.not_lt.mpr h.1 h.2
  apart := fun _ hmem => absurd hmem List.not_mem_nil

def issue (ledger : Ledger first) : Ledger first where
  next := ledger.next + 1
  held := ledger.held ++ [ledger.next]
  withdrawn := ledger.withdrawn
  begun := Nat.le_succ_of_le ledger.begun
  accounted := fun number => by
    have haccounted := ledger.accounted number
    have hbegun := ledger.begun
    rw [List.mem_append, List.mem_singleton, or_right_comm, haccounted]
    omega
  apart := fun number hmem hgone => by
    rcases List.mem_append.mp hmem with hheld | hnew
    · exact ledger.apart number hheld hgone
    · have hbefore := ((ledger.accounted number).mp (.inr hgone)).2
      rw [List.mem_singleton.mp hnew] at hbefore
      exact Nat.lt_irrefl _ hbefore

def withdraw (ledger : Ledger first) (number : Nat) : Ledger first where
  next := ledger.next
  held := ledger.held.filter fun other => other ≠ number
  withdrawn :=
    if number ∈ ledger.held then ledger.withdrawn ++ [number]
    else ledger.withdrawn
  begun := ledger.begun
  accounted := fun other => by
    rw [← ledger.accounted other]
    by_cases hheld : number ∈ ledger.held <;> by_cases hsame : other = number <;>
      simp [hheld, hsame]
  apart := fun other hmem => by
    obtain ⟨hother, hne⟩ := List.mem_filter.mp hmem
    have hkept := ledger.apart other hother
    split
    · simpa [hkept] using hne
    · exact hkept

def step (ledger : Ledger first) : LedgerEvent → Ledger first
  | .issue => ledger.issue
  | .withdraw number => ledger.withdraw number

def run (first : Nat) (events : List LedgerEvent) : Ledger first :=
  events.foldl step (start first)

theorem run_append_singleton (events : List LedgerEvent)
    (event : LedgerEvent) :
    run first (events ++ [event]) = (run first events).step event := by
  rw [run, List.foldl_append]
  rfl

/-- What a step withdraws is held before it. -/
theorem mem_withdrawn_step {ledger : Ledger first} {event : LedgerEvent}
    {number : Nat} :
    number ∈ (ledger.step event).withdrawn ↔
      number ∈ ledger.withdrawn ∨
        event = .withdraw number ∧ number ∈ ledger.held := by
  cases event with
  | issue => exact (or_iff_left fun h => LedgerEvent.noConfusion h.1).symm
  | withdraw other =>
      rw [LedgerEvent.withdraw.injEq, step, withdraw]
      dsimp only
      split
      · rename_i hheld
        rw [List.mem_append, List.mem_singleton]
        apply or_congr_right
        constructor
        · rintro rfl
          exact ⟨rfl, hheld⟩
        · exact fun h => h.1.symm
      · rename_i habsent
        have hother : ¬ (other = number ∧ number ∈ ledger.held) := by
          rintro ⟨rfl, hheld⟩
          exact habsent hheld
        exact (or_iff_left hother).symm

/-- A number is withdrawn at the end of a run when some event of the run
withdrew it while it was held. -/
theorem mem_withdrawn_run {events : List LedgerEvent} {number : Nat} :
    number ∈ (run first events).withdrawn ↔
      ∃ before after, events = before ++ .withdraw number :: after ∧
        number ∈ (run first before).held := by
  induction events using List.reverseRecOn with
  | nil =>
      refine iff_of_false List.not_mem_nil ?_
      rintro ⟨before, after, hevents, _⟩
      exact absurd hevents.symm (by simp)
  | append_singleton events event ih =>
      rw [run_append_singleton, mem_withdrawn_step, ih]
      constructor
      · rintro (⟨before, after, rfl, hheld⟩ | ⟨rfl, hheld⟩)
        · exact ⟨before, after ++ [event], by simp, hheld⟩
        · exact ⟨events, [], rfl, hheld⟩
      · rintro ⟨before, after, hevents, hheld⟩
        cases after using List.reverseRecOn with
        | nil =>
            obtain ⟨rfl, hevent⟩ := List.append_inj' hevents rfl
            exact .inr ⟨(List.cons.inj hevent).1, hheld⟩
        | append_singleton after last =>
            rw [← List.cons_append, ← List.append_assoc] at hevents
            obtain ⟨rfl, _⟩ := List.append_inj' hevents rfl
            exact .inl ⟨before, after, rfl, hheld⟩

/-- What is missing between two numbers held has been withdrawn. -/
theorem missing_iff (ledger : Ledger first) (number : Nat) :
    (number ∉ ledger.held ∧ (∃ low ∈ ledger.held, low < number) ∧
        ∃ high ∈ ledger.held, number < high) ↔
      number ∈ ledger.withdrawn ∧ (∃ low ∈ ledger.held, low < number) ∧
        ∃ high ∈ ledger.held, number < high := by
  constructor
  · rintro ⟨habsent, ⟨low, hlow, hbelow⟩, high, hhigh, habove⟩
    have hfirst := ((ledger.accounted low).mp (.inl hlow)).1
    have hnext := ((ledger.accounted high).mp (.inl hhigh)).2
    have hissued := (ledger.accounted number).mpr
      ⟨Nat.le_trans hfirst (Nat.le_of_lt hbelow), Nat.lt_trans habove hnext⟩
    exact ⟨hissued.resolve_left habsent, ⟨low, hlow, hbelow⟩, high, hhigh,
      habove⟩
  · rintro ⟨hgone, hbetween⟩
    exact ⟨fun hheld => ledger.apart number hheld hgone, hbetween⟩

end Ledger

end ShadowCopy.Data
