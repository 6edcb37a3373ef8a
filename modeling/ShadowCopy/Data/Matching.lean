import Mathlib.Logic.Function.Basic

namespace ShadowCopy.Data

/-! Openers and closers along a line, each with a key.  A closer is matched
with the nearest opener before it that has its key and is still free. -/

structure Brackets (κ : Type) where
  opens : Nat → Option κ
  closes : Nat → Option κ

namespace Brackets

variable {line : Brackets κ} {partner other : Nat → Option Nat} {s t p : Nat}

/-- The opener at `s` is the nearest free one for the closer at `p`: `partner`
gives the closer of each opener that has one. -/
structure Nearest (line : Brackets κ) (partner : Nat → Option Nat)
    (s p : Nat) : Prop where
  before : s < p
  key : ∃ key, line.opens s = some key ∧ line.closes p = some key
  free : ∀ q, q < p → partner s ≠ some q
  nearest : ∀ t, s < t → t < p → line.opens t = line.opens s →
    ∃ q, q < p ∧ partner t = some q

/-- The closers before `stop` are matched, and no others. -/
def Matches (line : Brackets κ) (stop : Nat) (partner : Nat → Option Nat) :
    Prop :=
  ∀ s p, partner s = some p ↔ p < stop ∧ line.Nearest partner s p

/-- Whether an opener is the nearest free one depends on earlier closers. -/
theorem Nearest.congr (h : line.Nearest partner s p)
    (hsame : ∀ t q, q < p → (partner t = some q ↔ other t = some q)) :
    line.Nearest other s p where
  before := h.before
  key := h.key
  free := fun q hq hother => h.free q hq ((hsame s q hq).mpr hother)
  nearest := by
    intro t hst htp hkey
    obtain ⟨q, hq, hpartner⟩ := h.nearest t hst htp hkey
    exact ⟨q, hq, (hsame t q hq).mp hpartner⟩

theorem Nearest.opens_eq (hs : line.Nearest partner s p)
    (ht : line.Nearest partner t p) : line.opens t = line.opens s := by
  obtain ⟨left, hopen, hclose⟩ := hs.key
  obtain ⟨right, hopen', hclose'⟩ := ht.key
  have hkeys : left = right := Option.some.inj (hclose.symm.trans hclose')
  rw [hopen, hopen', hkeys]

theorem Nearest.unique (hs : line.Nearest partner s p)
    (ht : line.Nearest partner t p) : s = t := by
  rcases Nat.lt_trichotomy s t with hlt | heq | hgt
  · obtain ⟨q, hq, hpartner⟩ :=
      hs.nearest t hlt ht.before (hs.opens_eq ht)
    exact absurd hpartner (ht.free q hq)
  · exact heq
  · obtain ⟨q, hq, hpartner⟩ :=
      ht.nearest s hgt hs.before (ht.opens_eq hs)
    exact absurd hpartner (hs.free q hq)

/-- Where some opener of the key is free, the nearest one is found by going
right: induction on the distance left. -/
theorem exists_nearest {key : κ} (hs : s < p)
    (hopen : line.opens s = some key) (hclose : line.closes p = some key)
    (hfree : ∀ q, q < p → partner s ≠ some q) :
    ∃ t, s ≤ t ∧ line.Nearest partner t p := by
  induction hgap : p - s using Nat.strongRecOn generalizing s with
  | ind gap ih =>
      by_cases hlater : ∃ t, s < t ∧ t < p ∧ line.opens t = line.opens s ∧
          ∀ q, q < p → partner t ≠ some q
      · obtain ⟨t, hst, htp, hkey, htfree⟩ := hlater
        obtain ⟨u, htu, hnearest⟩ :=
          ih (p - t) (by omega) htp (hkey.trans hopen) htfree rfl
        exact ⟨u, Nat.le_trans (Nat.le_of_lt hst) htu, hnearest⟩
      · refine ⟨s, Nat.le_refl s, hs, ⟨key, hopen, hclose⟩, hfree, ?_⟩
        intro t hst htp hkey
        by_contra hnone
        refine hlater ⟨t, hst, htp, hkey, fun q hq hpartner => ?_⟩
        exact hnone ⟨q, hq, hpartner⟩

namespace Matches

variable {stop : Nat}

theorem nearest (h : line.Matches stop partner) (hp : partner s = some p) :
    line.Nearest partner s p :=
  ((h s p).mp hp).2

theorem served_once (h : line.Matches stop partner)
    (hs : partner s = some p) (ht : partner t = some p) : s = t :=
  (h.nearest hs).unique (h.nearest ht)

theorem eq_none_of_le (h : line.Matches stop partner) (hs : stop ≤ s) :
    partner s = none := by
  cases hp : partner s with
  | none => rfl
  | some p =>
      obtain ⟨hstop, hnearest⟩ := (h s p).mp hp
      exact absurd (Nat.lt_trans hnearest.before hstop) (Nat.not_lt.mpr hs)

/-- There is only one matching: induction on the closer. -/
theorem unique (hleft : line.Matches stop partner)
    (hright : line.Matches stop other) : partner = other := by
  have hsame : ∀ p s, partner s = some p ↔ other s = some p := by
    intro p
    induction p using Nat.strongRecOn with
    | ind p ih =>
        intro s
        constructor
        · intro hp
          obtain ⟨hstop, hnearest⟩ := (hleft s p).mp hp
          exact (hright s p).mpr
            ⟨hstop, hnearest.congr fun t q hq => ih q hq t⟩
        · intro hp
          obtain ⟨hstop, hnearest⟩ := (hright s p).mp hp
          exact (hleft s p).mpr
            ⟨hstop, hnearest.congr fun t q hq => (ih q hq t).symm⟩
  funext s
  apply Option.ext
  exact fun p => hsame p s

theorem zero : line.Matches 0 fun _ => none := by
  intro s p
  constructor
  · exact fun h => nomatch h
  · exact fun h => absurd h.1 (Nat.not_lt_zero p)

/-- A position that closes nothing, or whose key has no free opener. -/
theorem skip (h : line.Matches stop partner)
    (hnone : ∀ s, ¬ line.Nearest partner s stop) :
    line.Matches (stop + 1) partner := by
  intro s p
  constructor
  · intro hp
    obtain ⟨hstop, hnearest⟩ := (h s p).mp hp
    exact ⟨Nat.lt_succ_of_lt hstop, hnearest⟩
  · rintro ⟨hstop, hnearest⟩
    rcases Nat.lt_succ_iff_lt_or_eq.mp hstop with hlt | rfl
    · exact (h s p).mpr ⟨hlt, hnearest⟩
    · exact absurd hnearest (hnone s)

/-- A position that closes the nearest free opener of its key. -/
theorem close (h : line.Matches stop partner)
    (hs : line.Nearest partner s stop) :
    line.Matches (stop + 1) (Function.update partner s (some stop)) := by
  have hfree : partner s = none := by
    cases hp : partner s with
    | none => rfl
    | some p => exact absurd hp (hs.free p ((h s p).mp hp).1)
  -- earlier closers keep their openers
  have hsame : ∀ t q, q < stop → (partner t = some q ↔
      Function.update partner s (some stop) t = some q) := by
    intro t q hq
    rcases eq_or_ne t s with rfl | hne
    · rw [Function.update_self, hfree]
      constructor
      · exact fun hsome => nomatch hsome
      · exact fun hsome => absurd (Option.some.inj hsome) (Nat.ne_of_gt hq)
    · rw [Function.update_of_ne hne]
  intro t p
  constructor
  · intro hp
    rcases eq_or_ne t s with rfl | hne
    · rw [Function.update_self] at hp
      obtain rfl := Option.some.inj hp
      exact ⟨Nat.lt_succ_self _, hs.congr hsame⟩
    · rw [Function.update_of_ne hne] at hp
      obtain ⟨hstop, hnearest⟩ := (h t p).mp hp
      exact ⟨Nat.lt_succ_of_lt hstop, hnearest.congr fun u q hq =>
        hsame u q (Nat.lt_trans hq hstop)⟩
  · rintro ⟨hstop, hnearest⟩
    rcases Nat.lt_succ_iff_lt_or_eq.mp hstop with hlt | rfl
    · exact (hsame t p hlt).mp ((h t p).mpr ⟨hlt, hnearest.congr fun u q hq =>
        (hsame u q (Nat.lt_trans hq hlt)).symm⟩)
    · have hboth : line.Nearest partner t p :=
        hnearest.congr fun u q hq => (hsame u q hq).symm
      rw [hs.unique hboth, Function.update_self]

end Matches

end Brackets

end ShadowCopy.Data
