import ShadowCopy.Data.LastMatch

namespace ShadowCopy.Data

/-- Values for some of the addresses, to be laid over a value for each. -/
abbrev Layer (α β : Type) : Type := α → Option β

namespace Layer

def onto (layer : Layer α β) (base : α → β) : α → β :=
  fun a => (layer a).getD (base a)

def orElse (layer under : Layer α β) : Layer α β :=
  fun a => (layer a).or (under a)

/-- At each address the first of the layers that has a value there. -/
def first (layers : List (Layer α β)) : Layer α β :=
  fun a => layers.findSome? fun layer => layer a

/-- At each address the last of the layers that has a value there. -/
def last (layers : List (Layer α β)) : Layer α β :=
  first layers.reverse

theorem onto_orElse (layer under : Layer α β) (base : α → β) :
    (layer.orElse under).onto base = layer.onto (under.onto base) := by
  funext a
  unfold onto orElse
  cases layer a <;> rfl

@[simp] theorem first_nil (a : α) : first ([] : List (Layer α β)) a = none :=
  rfl

theorem first_cons (layer : Layer α β) (rest : List (Layer α β)) :
    first (layer :: rest) = layer.orElse (first rest) := by
  funext a
  unfold first orElse
  rw [List.findSome?_cons]
  cases layer a <;> rfl

theorem first_singleton (layer : Layer α β) : first [layer] = layer := by
  rw [first_cons]
  funext a
  exact Option.or_none

theorem first_append (layers more : List (Layer α β)) :
    first (layers ++ more) = (first layers).orElse (first more) := by
  funext a
  unfold first orElse
  exact List.findSome?_append

theorem last_append_singleton (layers : List (Layer α β))
    (layer : Layer α β) :
    last (layers ++ [layer]) = layer.orElse (last layers) := by
  rw [last, List.reverse_append, List.reverse_singleton,
    List.singleton_append, first_cons]
  rfl

theorem last_map_ite (items : List γ) (test : γ → α → Bool)
    (value : γ → α → β) (a : α) :
    last (items.map fun item a =>
        if test item a then some (value item a) else none) a =
      (rfind? (test · a) items).map (value · a) := by
  induction items using List.reverseRecOn with
  | nil => rfl
  | append_singleton items item ih =>
      rw [List.map_append, List.map_singleton, last_append_singleton, orElse,
        ih, rfind?_append_singleton]
      cases test item a <;> simp

/-- What lies under a layer shows only where the layer has no value. -/
theorem onto_eq_onto_iff (layer : Layer α β) (left right : α → β) (a : α) :
    layer.onto left a = layer.onto right a ↔
      (layer a).isSome ∨ left a = right a := by
  unfold onto
  cases layer a <;> simp

theorem eq_onto_iff (layer : Layer α β) (base : α → β) (a : α) :
    base a = layer.onto base a ↔
      ∀ value, layer a = some value → value = base a := by
  unfold onto
  cases layer a with
  | none => simp
  | some value => simp [eq_comm]

end Layer

end ShadowCopy.Data
