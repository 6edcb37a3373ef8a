import Mathlib.Data.List.Nodup
import Mathlib.Logic.Function.Iterate

namespace ShadowCopy.Data

/-- Nodes that point at one another: which may be looked at, which belong to
the chain once looked at, and where each points. -/
structure Links (α : Type) where
  fits : α → Bool
  accepts : α → Bool
  next : α → α

namespace Links

/-- A sequence that follows the pointers from `first` through accepted nodes,
repeats nothing, stays clear of `avoid` and holds at most `cap` nodes. -/
structure Valid (links : Links α) (avoid : List α) (cap : Nat) (first : α)
    (nodes : List α) : Prop where
  first_eq : ∀ node, nodes[0]? = some node → node = first
  linked : ∀ n node succ, nodes[n]? = some node →
    nodes[n + 1]? = some succ → succ = links.next node
  fits : ∀ node ∈ nodes, links.fits node = true
  accepted : ∀ node ∈ nodes, links.accepts node = true
  avoids : ∀ node ∈ nodes, node ∉ avoid
  nodup : nodes.Nodup
  length_le : nodes.length ≤ cap

/-- Every valid sequence is a prefix of `nodes`, which is one itself. -/
structure Longest (links : Links α) (cap : Nat) (first : α)
    (nodes : List α) : Prop where
  valid : links.Valid [] cap first nodes
  extends_all : ∀ other, links.Valid [] cap first other → other <+: nodes

theorem Longest.unique {links : Links α} {left right : List α}
    (hleft : links.Longest cap first left)
    (hright : links.Longest cap first right) : left = right :=
  (hright.extends_all left hleft.valid).eq_of_length_le
    (hleft.extends_all right hright.valid).length_le

theorem valid_nil (links : Links α) : links.Valid avoid cap first [] where
  first_eq := by simp
  linked := by simp
  fits := by simp
  accepted := by simp
  avoids := by simp
  nodup := List.nodup_nil
  length_le := Nat.zero_le _

theorem Valid.tail {links : Links α}
    (h : links.Valid avoid (cap + 1) first (node :: rest)) :
    links.Valid (node :: avoid) cap (links.next node) rest where
  first_eq := fun succ hsucc => h.linked 0 node succ rfl hsucc
  linked := fun n a b ha hb => h.linked (n + 1) a b ha hb
  fits := fun a ha => h.fits a (List.mem_cons_of_mem _ ha)
  accepted := fun a ha => h.accepted a (List.mem_cons_of_mem _ ha)
  avoids := by
    intro a ha hmem
    rcases List.mem_cons.mp hmem with rfl | hold
    · exact (List.nodup_cons.mp h.nodup).1 ha
    · exact h.avoids a (List.mem_cons_of_mem _ ha) hold
  nodup := (List.nodup_cons.mp h.nodup).2
  length_le := Nat.le_of_succ_le_succ h.length_le

theorem Valid.cons {links : Links α} (hfits : links.fits node = true)
    (haccepts : links.accepts node = true) (hfresh : node ∉ avoid)
    (h : links.Valid (node :: avoid) cap (links.next node) rest) :
    links.Valid avoid (cap + 1) node (node :: rest) where
  first_eq := fun _ hhead => (Option.some.inj hhead).symm
  linked := by
    intro n a b ha hb
    cases n with
    | zero =>
        have : node = a := Option.some.inj ha
        subst a
        exact h.first_eq b hb
    | succ n => exact h.linked n a b ha hb
  fits := by simpa [hfits] using h.fits
  accepted := by simpa [haccepts] using h.accepted
  avoids := by
    intro a ha hmem
    rcases List.mem_cons.mp ha with rfl | hrest
    · exact hfresh hmem
    · exact h.avoids a hrest (List.mem_cons_of_mem _ hmem)
  nodup := List.nodup_cons.mpr
    ⟨fun hmem => h.avoids node hmem (List.mem_cons_self ..), h.nodup⟩
  length_le := Nat.succ_le_succ h.length_le

/-- The node a sequence that starts at `first` would go on to. -/
def continuation (links : Links α) : α → List α → α
  | first, [] => first
  | _, node :: rest => links.continuation (links.next node) rest

theorem Valid.snoc {links : Links α} {nodes : List α}
    (h : links.Valid avoid cap first nodes) (hroom : nodes.length < cap)
    (hfits : links.fits (links.continuation first nodes) = true)
    (haccepts : links.accepts (links.continuation first nodes) = true)
    (hfresh : links.continuation first nodes ∉ avoid)
    (hnew : links.continuation first nodes ∉ nodes) :
    links.Valid avoid cap first
      (nodes ++ [links.continuation first nodes]) := by
  induction nodes generalizing avoid cap first with
  | nil =>
      cases cap with
      | zero => contradiction
      | succ cap =>
          exact Valid.cons hfits haccepts hfresh (valid_nil links)
  | cons node rest ih =>
      cases cap with
      | zero => contradiction
      | succ cap =>
          obtain rfl : node = first := h.first_eq node rfl
          obtain ⟨hne, hrest⟩ := List.ne_and_not_mem_of_not_mem_cons hnew
          have hmem : node ∈ node :: rest := List.mem_cons_self ..
          refine Valid.cons (h.fits node hmem) (h.accepted node hmem)
            (h.avoids node hmem) ?_
          apply ih h.tail (Nat.lt_of_succ_lt_succ hroom) hfits haccepts
          · exact List.not_mem_cons_of_ne_of_not_mem hne hfresh
          · exact hrest

theorem Longest.stops {links : Links α} {nodes : List α}
    (h : links.Longest cap first nodes) :
    nodes.length = cap ∨
      links.fits (links.continuation first nodes) = false ∨
      links.continuation first nodes ∈ nodes ∨
      links.accepts (links.continuation first nodes) = false := by
  by_contra hgood
  simp only [not_or, Bool.not_eq_false] at hgood
  obtain ⟨hlength, hfits, hnew, haccepts⟩ := hgood
  have hroom : nodes.length < cap :=
    Nat.lt_of_le_of_ne h.valid.length_le hlength
  have hlonger := (h.extends_all _ (h.valid.snoc hroom hfits haccepts
    List.not_mem_nil hnew)).length_le
  rw [List.length_append, List.length_singleton] at hlonger
  omega

/-- The first `count` pointers from `first` all lead to nodes that may be
collected, no two of them the same. -/
structure Trail (links : Links α) (cap : Nat) (first : α) (count : Nat) :
    Prop where
  room : count ≤ cap
  fits : ∀ n, n < count → links.fits (links.next^[n] first) = true
  accepted : ∀ n, n < count → links.accepts (links.next^[n] first) = true
  distinct : ∀ m n, m < n → n < count →
    links.next^[m] first ≠ links.next^[n] first

theorem Valid.getElem?_eq {links : Links α} {nodes : List α}
    (h : links.Valid avoid cap first nodes) {n : Nat} {node : α}
    (hnode : nodes[n]? = some node) : node = links.next^[n] first := by
  induction n generalizing node with
  | zero => exact h.first_eq node hnode
  | succ n ih =>
      have hlt : n < nodes.length :=
        Nat.lt_of_succ_lt (List.getElem?_eq_some_iff.mp hnode).1
      have hbefore := List.getElem?_eq_getElem hlt
      rw [h.linked n _ node hbefore hnode, ih hbefore,
        Function.iterate_succ_apply']

theorem Valid.trail {links : Links α} {nodes : List α}
    (h : links.Valid avoid cap first nodes) :
    links.Trail cap first nodes.length := by
  have hnode : ∀ n (hn : n < nodes.length),
      links.next^[n] first = nodes[n] := fun n hn =>
    (h.getElem?_eq (List.getElem?_eq_getElem hn)).symm
  constructor
  · exact h.length_le
  · intro n hn
    rw [hnode n hn]
    exact h.fits _ (List.getElem_mem hn)
  · intro n hn
    rw [hnode n hn]
    exact h.accepted _ (List.getElem_mem hn)
  · intro m n hmn hn heq
    rw [hnode n hn, hnode m (Nat.lt_trans hmn hn)] at heq
    exact Nat.ne_of_lt hmn (h.nodup.getElem_inj_iff.mp heq)

theorem Trail.of_le {links : Links α} {m n : Nat}
    (h : links.Trail cap first n) (hle : m ≤ n) :
    links.Trail cap first m where
  room := Nat.le_trans hle h.room
  fits := fun k hk => h.fits k (Nat.lt_of_lt_of_le hk hle)
  accepted := fun k hk => h.accepted k (Nat.lt_of_lt_of_le hk hle)
  distinct := fun j k hjk hk => h.distinct j k hjk (Nat.lt_of_lt_of_le hk hle)

theorem Trail.valid {links : Links α} {count : Nat}
    (h : links.Trail cap first count) :
    links.Valid [] cap first
      ((List.range count).map fun n => links.next^[n] first) := by
  have hmem : ∀ node ∈ (List.range count).map fun n => links.next^[n] first,
      ∃ n, n < count ∧ links.next^[n] first = node := by
    intro node hnode
    obtain ⟨n, hn, rfl⟩ := List.mem_map.mp hnode
    exact ⟨n, List.mem_range.mp hn, rfl⟩
  have hget : ∀ {n : Nat} {node : α},
      ((List.range count).map fun n => links.next^[n] first)[n]? =
        some node → node = links.next^[n] first := by
    intro n node hnode
    obtain ⟨hn, hvalue⟩ := List.getElem?_eq_some_iff.mp hnode
    rw [← hvalue, List.getElem_map, List.getElem_range]
  constructor
  · exact fun node hnode => hget hnode
  · intro n node succ hnode hsucc
    rw [hget hsucc, hget hnode, Function.iterate_succ_apply']
  · intro node hnode
    obtain ⟨n, hn, rfl⟩ := hmem node hnode
    exact h.fits n hn
  · intro node hnode
    obtain ⟨n, hn, rfl⟩ := hmem node hnode
    exact h.accepted n hn
  · exact fun _ _ => List.not_mem_nil
  · refine List.pairwise_map.mpr (List.pairwise_lt_range.imp_of_mem ?_)
    intro m n _ hn hmn
    exact h.distinct m n hmn (List.mem_range.mp hn)
  · rw [List.length_map, List.length_range]
    exact h.room

theorem Longest.le_length_iff {links : Links α} {nodes : List α}
    (h : links.Longest cap first nodes) {count : Nat} :
    count ≤ nodes.length ↔ links.Trail cap first count := by
  constructor
  · exact fun hle => h.valid.trail.of_le hle
  · intro htrail
    have hle := (h.extends_all _ htrail.valid).length_le
    rw [List.length_map, List.length_range] at hle
    exact hle

section Walk

variable [DecidableEq α]

/-- The nodes a bounded walk collects, its visited set in `avoid`. -/
def collected (links : Links α) : Nat → List α → α → List α
  | 0, _, _ => []
  | cap + 1, avoid, node =>
      if links.fits node = true ∧ node ∉ avoid ∧ links.accepts node = true then
        node :: links.collected cap (node :: avoid) (links.next node)
      else
        []

/-- The nodes a bounded walk looks at: those it collects and the one it stops
at because it does not belong to the chain. -/
def inspected (links : Links α) : Nat → List α → α → List α
  | 0, _, _ => []
  | cap + 1, avoid, node =>
      if links.fits node = true ∧ node ∉ avoid then
        if links.accepts node = true then
          node :: links.inspected cap (node :: avoid) (links.next node)
        else
          [node]
      else
        []

theorem collected_valid (links : Links α) (cap : Nat) (avoid : List α)
    (node : α) :
    links.Valid avoid cap node (links.collected cap avoid node) := by
  induction cap generalizing avoid node with
  | zero => exact valid_nil links
  | succ cap ih =>
      simp only [collected]
      split
      · rename_i h
        exact Valid.cons h.1 h.2.2 h.2.1 (ih (node :: avoid) (links.next node))
      · exact valid_nil links

/-- A valid sequence cannot leave the walk: induction on the cap, whose
visited set is the part of the sequence already passed. -/
theorem Valid.prefix_collected {links : Links α} {nodes : List α}
    (h : links.Valid avoid cap first nodes) :
    nodes <+: links.collected cap avoid first := by
  induction cap generalizing avoid first nodes with
  | zero =>
      have : nodes = [] := List.eq_nil_of_length_eq_zero
        (Nat.le_zero.mp h.length_le)
      subst nodes
      exact List.nil_prefix
  | succ cap ih =>
      cases nodes with
      | nil => exact List.nil_prefix
      | cons node rest =>
          have hfirst : node = first := h.first_eq node rfl
          subst first
          have hgood : links.fits node = true ∧ node ∉ avoid ∧
              links.accepts node = true :=
            ⟨h.fits node (List.mem_cons_self ..),
              h.avoids node (List.mem_cons_self ..),
              h.accepted node (List.mem_cons_self ..)⟩
          rw [collected, if_pos hgood]
          exact List.cons_prefix_cons.mpr ⟨rfl, ih h.tail⟩

theorem collected_longest (links : Links α) (cap : Nat) (first : α) :
    links.Longest cap first (links.collected cap [] first) where
  valid := links.collected_valid cap [] first
  extends_all := fun _ h => h.prefix_collected

/-- With fewer nodes to look at, a walk stops earlier on the same chain. -/
theorem collected_prefix {left right : Links α}
    (h : ∀ node, left.fits node = true → right.fits node = true ∧
      right.accepts node = left.accepts node ∧
      right.next node = left.next node) (cap : Nat) (first : α) :
    left.collected cap [] first <+: right.collected cap [] first := by
  have hvalid := left.collected_valid cap [] first
  apply Valid.prefix_collected
  refine { hvalid with linked := ?_, fits := ?_, accepted := ?_ }
  · intro n node succ hnode hsucc
    have hmem := List.mem_of_getElem? hnode
    rw [(h node (hvalid.fits node hmem)).2.2]
    exact hvalid.linked n node succ hnode hsucc
  · exact fun node hmem => (h node (hvalid.fits node hmem)).1
  · intro node hmem
    rw [(h node (hvalid.fits node hmem)).2.1]
    exact hvalid.accepted node hmem

theorem collected_eq_nil {links : Links α} (h : links.fits node = false)
    (cap : Nat) (avoid : List α) : links.collected cap avoid node = [] := by
  cases cap with
  | zero => rfl
  | succ cap => rw [collected, if_neg (by simp [h])]

theorem collected_eq_singleton {links : Links α} (hcap : 0 < cap)
    (hfits : links.fits node = true) (haccepts : links.accepts node = true)
    (hend : links.fits (links.next node) = false) :
    links.collected cap [] node = [node] := by
  cases cap with
  | zero => contradiction
  | succ cap =>
      rw [collected, if_pos ⟨hfits, List.not_mem_nil, haccepts⟩,
        collected_eq_nil hend]

theorem collected_subset_inspected (links : Links α) (cap : Nat)
    (avoid : List α) (first : α) :
    links.collected cap avoid first ⊆ links.inspected cap avoid first := by
  induction cap generalizing avoid first with
  | zero => exact List.nil_subset _
  | succ cap ih =>
      simp only [collected, inspected]
      split
      · rename_i h
        rw [if_pos ⟨h.1, h.2.1⟩, if_pos h.2.2]
        exact List.cons_subset_cons _ (ih _ _)
      · exact List.nil_subset _

theorem length_inspected_le (links : Links α) (cap : Nat) (avoid : List α)
    (first : α) : (links.inspected cap avoid first).length ≤ cap := by
  induction cap generalizing avoid first with
  | zero => exact Nat.le_refl 0
  | succ cap ih =>
      rw [inspected]
      split
      · split
        · exact Nat.succ_le_succ (ih _ _)
        · exact Nat.succ_le_succ (Nat.zero_le cap)
      · exact Nat.zero_le _

theorem inspected_eq_singleton {links : Links α} (hcap : 0 < cap)
    (hfits : links.fits node = true)
    (hend : links.fits (links.next node) = false) :
    links.inspected cap [] node = [node] := by
  cases cap with
  | zero => contradiction
  | succ cap =>
      rw [inspected, if_pos ⟨hfits, List.not_mem_nil⟩]
      split
      · cases cap with
        | zero => rfl
        | succ cap => rw [inspected, if_neg (by simp [hend])]
      · rfl

/-- Two chains that agree on everything the first walk looks at are walked in
lock-step. -/
theorem walk_congr {left right : Links α} {cap : Nat} {avoid : List α}
    {first : α} (hfits : ∀ node, left.fits node = right.fits node)
    (h : ∀ node ∈ left.inspected cap avoid first,
      left.accepts node = right.accepts node ∧
        left.next node = right.next node) :
    left.collected cap avoid first = right.collected cap avoid first ∧
      left.inspected cap avoid first = right.inspected cap avoid first := by
  induction cap generalizing avoid first with
  | zero => exact ⟨rfl, rfl⟩
  | succ cap ih =>
      simp only [inspected] at h
      by_cases hlook : left.fits first = true ∧ first ∉ avoid
      · rw [if_pos hlook] at h
        have hlook' : right.fits first = true ∧ first ∉ avoid :=
          ⟨(hfits first).symm.trans hlook.1, hlook.2⟩
        by_cases haccept : left.accepts first = true
        · rw [if_pos haccept] at h
          obtain ⟨hsame, hnext⟩ := h first (List.mem_cons_self ..)
          have haccept' : right.accepts first = true :=
            hsame.symm.trans haccept
          obtain ⟨hcollected, hinspected⟩ := ih fun node hmem =>
            h node (List.mem_cons_of_mem _ hmem)
          simp only [collected, inspected, hlook, hlook', haccept, haccept',
            not_false_eq_true, and_self, if_true, ← hnext, hcollected,
            hinspected]
        · rw [if_neg haccept] at h
          have hsame := (h first (List.mem_singleton_self _)).1
          have haccept' : ¬ right.accepts first = true := hsame ▸ haccept
          simp only [collected, inspected, hlook, hlook', haccept, haccept',
            not_false_eq_true, and_false, if_true, if_false, and_self,
            Bool.false_eq_true]
      · have hlook' : ¬ (right.fits first = true ∧ first ∉ avoid) := by
          rw [← hfits first]
          exact hlook
        have hstop : ¬ (left.fits first = true ∧ first ∉ avoid ∧
            left.accepts first = true) := fun h => hlook ⟨h.1, h.2.1⟩
        have hstop' : ¬ (right.fits first = true ∧ first ∉ avoid ∧
            right.accepts first = true) := fun h => hlook' ⟨h.1, h.2.1⟩
        simp only [collected, inspected, if_neg hlook, if_neg hlook',
          if_neg hstop, if_neg hstop', and_self]

end Walk

end Links

end ShadowCopy.Data
