import ShadowCopy.Data.Layer

namespace ShadowCopy.Data

/-- A volume that keeps what its writes replace: each write is a layer, and
what it replaces for the first time is kept. -/
structure CopyOnWrite (α β : Type) where
  live : α → β
  kept : List (Layer α β)

namespace CopyOnWrite

def start (base : α → β) : CopyOnWrite α β where
  live := base
  kept := []

def replaced (volume : CopyOnWrite α β) (layer : Layer α β) : Layer α β :=
  fun a =>
    match Layer.first volume.kept a, layer a with
    | none, some _ => some (volume.live a)
    | _, _ => none

def write (volume : CopyOnWrite α β) (layer : Layer α β) :
    CopyOnWrite α β where
  live := layer.onto volume.live
  kept := volume.kept ++ [volume.replaced layer]

def run (base : α → β) (writes : List (Layer α β)) : CopyOnWrite α β :=
  writes.foldl write (start base)

/-- The kept values over the live ones. -/
def view (volume : CopyOnWrite α β) : α → β :=
  (Layer.first volume.kept).onto volume.live

theorem view_write (volume : CopyOnWrite α β) (layer : Layer α β) :
    (volume.write layer).view = volume.view := by
  funext a
  simp only [view, write, Layer.onto, Layer.first_append, Layer.orElse,
    Layer.first_singleton, replaced]
  cases Layer.first volume.kept a with
  | some value => rfl
  | none =>
      cases layer a with
      | some value => rfl
      | none => rfl

/-- The volume can be seen as it was before any of the writes. -/
theorem view_run (base : α → β) (writes : List (Layer α β)) :
    (run base writes).view = base := by
  have hwrites : ∀ volume : CopyOnWrite α β,
      (writes.foldl write volume).view = volume.view := by
    induction writes with
    | nil => exact fun _ => rfl
    | cons layer rest ih =>
        exact fun volume => (ih (volume.write layer)).trans
          (volume.view_write layer)
  exact hwrites (start base)

end CopyOnWrite

end ShadowCopy.Data
