import Mathlib.Tactic.Linarith
import Mathlib.Data.List.Basic

namespace ShadowCopy.Data

/-! Ordered maps from a key to the items filed under it, oldest first. -/

abbrev Groups (κ ν : Type) [Ord κ] := Std.TreeMap κ (List ν)

namespace Groups

variable {κ ν : Type} [Ord κ] [Std.TransOrd κ] [Std.LawfulEqOrd κ]

/-- `map.entry(key).or_default().push(item)`. -/
def push (key : ν → κ) (groups : Groups κ ν) (item : ν) : Groups κ ν :=
  groups.alter (key item) fun group => some (group.getD [] ++ [item])

theorem getElem?_push [DecidableEq κ] (key : ν → κ) (groups : Groups κ ν)
    (item : ν) (k : κ) :
    (groups.push key item)[k]? =
      if key item = k then some (groups[k]?.getD [] ++ [item])
      else groups[k]? := by
  rw [push, Std.TreeMap.getElem?_alter]
  by_cases h : key item = k
  · subst k
    simp
  · simp [h]

/-- Filing a list of items puts under each key the items with that key, in
order, and nothing under a key no item has. -/
theorem getElem?_foldl_push [DecidableEq κ] (key : ν → κ) (items : List ν)
    (groups : Groups κ ν) (k : κ) :
    (items.foldl (push key) groups)[k]? =
      if items.filter (fun item => key item = k) = [] then groups[k]?
      else some (groups[k]?.getD [] ++
        items.filter fun item => key item = k) := by
  induction items generalizing groups with
  | nil => simp
  | cons item rest ih =>
      rw [List.foldl_cons, ih, getElem?_push]
      by_cases hkey : key item = k
      · simp [hkey]
      · simp [hkey]

/-- Drop the items that fail the test, and the groups this leaves empty. -/
def keepItems (keep : ν → Bool) (groups : Groups κ ν) : Groups κ ν :=
  groups.filterMap fun _ items =>
    match items.filter keep with
    | [] => none
    | item :: rest => some (item :: rest)

theorem getElem?_keepItems (keep : ν → Bool) (groups : Groups κ ν) (k : κ) :
    (groups.keepItems keep)[k]?.getD [] =
      (groups[k]?.getD []).filter keep := by
  rw [keepItems, Std.TreeMap.getElem?_filterMap']
  cases groups[k]? with
  | none => rfl
  | some items =>
      rw [Option.bind_some, Option.getD_some]
      cases items.filter keep <;> rfl

def held (groups : Groups κ ν) : Nat :=
  (groups.toList.map fun group => group.2.length).sum

omit [Ord κ] [Std.TransOrd κ] [Std.LawfulEqOrd κ] in
theorem sum_length_filter_le [DecidableEq κ] (key : ν → κ) (items : List ν)
    {keys : List κ} (h : keys.Nodup) :
    (keys.map fun k => (items.filter fun item => key item = k).length).sum ≤
      items.length := by
  induction keys generalizing items with
  | nil => exact Nat.zero_le _
  | cons k rest ih =>
      obtain ⟨hnew, hrest⟩ := List.nodup_cons.mp h
      -- the items of the other keys are among those without key `k`
      have hothers : ∀ other ∈ rest,
          (items.filter fun item => key item = other).length =
            ((items.filter fun item => !decide (key item = k)).filter
              fun item => key item = other).length := by
        intro other hother
        rw [List.filter_filter]
        congr 1
        apply List.filter_congr
        intro item _
        by_cases hkey : key item = other
        · have hne : ¬ key item = k := fun h => hnew (h ▸ hkey ▸ hother)
          simp [hkey, hkey ▸ hne]
        · simp [hkey]
      have hsplit := items.length_eq_length_filter_add
        fun item => decide (key item = k)
      rw [List.map_cons, List.sum_cons, List.map_congr_left hothers, hsplit]
      exact Nat.add_le_add_left (ih _ hrest) _

theorem held_foldl_push_le [DecidableEq κ] (key : ν → κ) (items : List ν) :
    held (items.foldl (push key) ∅) ≤ items.length := by
  have hlengths : ∀ group ∈ (items.foldl (push key) ∅).toList,
      group.2.length =
        (items.filter fun item => key item = group.1).length := by
    intro group hgroup
    have hget := Std.TreeMap.mem_toList_iff_getElem?_eq_some.mp hgroup
    rw [getElem?_foldl_push] at hget
    split at hget
    · contradiction
    · simpa using congrArg List.length (Option.some.inj hget).symm
  have hkeys := Std.TreeMap.nodup_keys (t := items.foldl (push key) ∅)
  rw [← Std.TreeMap.map_fst_toList_eq_keys] at hkeys
  have hle := sum_length_filter_le key items hkeys
  rw [List.map_map] at hle
  rw [held, List.map_congr_left hlengths]
  exact hle

end Groups

end ShadowCopy.Data
