import Mathlib.Data.List.Basic

namespace ShadowCopy.Data

/-- What a run of Rust code ends in: a value, a returned error, or a panic. -/
inductive Outcome (ε α : Type) where
  | ok (value : α)
  | err (error : ε)
  | panic
  deriving DecidableEq, Repr

namespace Outcome

def bind : Outcome ε α → (α → Outcome ε β) → Outcome ε β
  | ok value, next => next value
  | err error, _ => err error
  | panic, _ => panic

instance : Monad (Outcome ε) where
  pure := ok
  bind := bind

/-- The error conversion `?` applies on the way out. -/
def mapErr (convert : ε → ε') : Outcome ε α → Outcome ε' α
  | ok value => ok value
  | err error => err (convert error)
  | panic => panic

def toOption : Outcome ε α → Option α
  | ok value => some value
  | err _ => none
  | panic => none

def okOr (error : ε) : Option α → Outcome ε α
  | some value => ok value
  | none => err error

@[simp] theorem pure_eq_ok (value : α) :
    (pure value : Outcome ε α) = ok value := rfl

@[simp] theorem ok_bind (value : α) (next : α → Outcome ε β) :
    (ok value >>= next) = next value := rfl

@[simp] theorem mapErr_ok (convert : ε → ε') (value : α) :
    (ok value : Outcome ε α).mapErr convert = ok value := rfl

@[simp] theorem mapErr_err (convert : ε → ε') (error : ε) :
    (err error : Outcome ε α).mapErr convert = err (convert error) := rfl

@[simp] theorem okOr_some (error : ε) (value : α) :
    okOr error (some value) = ok value := rfl

@[simp] theorem okOr_none (error : ε) :
    okOr error (none : Option α) = err error := rfl

theorem foldlM_ok {body : σ → α → Outcome ε σ} {step : σ → α → σ}
    (items : List α) (state : σ)
    (hbody : ∀ state, ∀ item ∈ items, body state item = ok (step state item)) :
    items.foldlM body state = ok (items.foldl step state) := by
  induction items generalizing state with
  | nil => rfl
  | cons item rest ih =>
      rw [List.foldlM_cons, hbody state item (by simp), ok_bind,
        List.foldl_cons]
      exact ih _ fun state item hitem => hbody state item (by simp [hitem])

end Outcome

end ShadowCopy.Data
