import ShadowCopy.Data.Reader

namespace ShadowCopy.Data

/-! Byte extents written into an image and found there again. -/

/-- Two extents, each an offset and its bytes, share no position. -/
def Separate (left right : Nat × List UInt8) : Prop :=
  left.1 + left.2.length ≤ right.1 ∨ right.1 + right.2.length ≤ left.1

instance (left right : Nat × List UInt8) : Decidable (Separate left right) :=
  inferInstanceAs (Decidable (_ ∨ _))

/-- Where an extent lies: its offset and length. -/
def span (extent : Nat × List UInt8) : Nat × Nat :=
  (extent.1, extent.2.length)

/-- Spans inside an image of this size, no two of which meet. -/
def SpansFit (spans : List (Nat × Nat)) (size : Nat) : Prop :=
  (spans.Pairwise fun left right =>
    left.1 + left.2 ≤ right.1 ∨ right.1 + right.2 ≤ left.1) ∧
  ∀ span ∈ spans, span.1 + span.2 ≤ size

instance (spans : List (Nat × Nat)) (size : Nat) :
    Decidable (SpansFit spans size) :=
  inferInstanceAs (Decidable (_ ∧ _))

theorem spansFit_map_span {extents : List (Nat × List UInt8)} {size : Nat} :
    SpansFit (extents.map span) size ↔
      extents.Pairwise Separate ∧
        ∀ extent ∈ extents, extent.1 + extent.2.length ≤ size := by
  rw [SpansFit, List.pairwise_map, List.forall_mem_map]
  exact Iff.rfl

namespace Image

/-- The bytes lie at `off`, wholly inside the image. -/
structure Holds (image : Image) (off : Nat) (bytes : List UInt8) : Prop where
  inside : off + bytes.length ≤ image.size
  bytes : (image.read off bytes.length).toList = bytes

def write (image : Image) (extent : Nat × List UInt8) : Image where
  size := image.size
  size_lt := image.size_lt
  data := fun position =>
    if extent.1 ≤ position.val ∧
        position.val < extent.1 + extent.2.length then
      extent.2.getD (position.val - extent.1) 0
    else
      image.data position

/-- The extents written one after another. -/
def writeAll (image : Image) (extents : List (Nat × List UInt8)) : Image :=
  extents.foldl write image

@[simp] theorem size_write (image : Image) (extent : Nat × List UInt8) :
    (image.write extent).size = image.size := rfl

@[simp] theorem size_writeAll (image : Image)
    (extents : List (Nat × List UInt8)) :
    (image.writeAll extents).size = image.size := by
  induction extents generalizing image with
  | nil => rfl
  | cons extent rest ih => exact ih (image.write extent)

theorem byteAt_write_outside {image : Image} {extent : Nat × List UInt8}
    {position : Nat}
    (h : position < extent.1 ∨ extent.1 + extent.2.length ≤ position) :
    (image.write extent).byteAt position = image.byteAt position := by
  have hmiss : ¬ (extent.1 ≤ position ∧
      position < extent.1 + extent.2.length) := by omega
  unfold byteAt write
  simp only [if_neg hmiss]

theorem byteAt_write_inside {image : Image} {extent : Nat × List UInt8}
    {j : Nat} (hj : j < extent.2.length)
    (hfits : extent.1 + extent.2.length ≤ image.size) :
    (image.write extent).byteAt (extent.1 + j) = extent.2[j] := by
  have hin : extent.1 + j < image.size := by omega
  have hhit : extent.1 ≤ extent.1 + j ∧
      extent.1 + j < extent.1 + extent.2.length := by omega
  unfold byteAt write
  simp only [hin, dif_pos, if_pos hhit]
  rw [Nat.add_sub_cancel_left, List.getD_eq_getElem _ _ hj]

/-- What no extent covers is as it was. -/
theorem byteAt_writeAll_outside {image : Image}
    {extents : List (Nat × List UInt8)} {position : Nat}
    (h : ∀ extent ∈ extents,
      position < extent.1 ∨ extent.1 + extent.2.length ≤ position) :
    (image.writeAll extents).byteAt position = image.byteAt position := by
  induction extents generalizing image with
  | nil => rfl
  | cons extent rest ih =>
      refine (ih fun other hother =>
        h other (List.mem_cons_of_mem _ hother)).trans ?_
      exact byteAt_write_outside (h extent (List.mem_cons_self ..))

theorem byteAt_writeAll_inside {image : Image}
    {extents : List (Nat × List UInt8)} (hapart : extents.Pairwise Separate)
    {extent : Nat × List UInt8} (hmem : extent ∈ extents)
    (hfits : extent.1 + extent.2.length ≤ image.size) {j : Nat}
    (hj : j < extent.2.length) :
    (image.writeAll extents).byteAt (extent.1 + j) = extent.2[j] := by
  induction extents generalizing image with
  | nil => exact absurd hmem List.not_mem_nil
  | cons first rest ih =>
      obtain ⟨hfirst, hrest⟩ := List.pairwise_cons.mp hapart
      rcases List.mem_cons.mp hmem with rfl | hlater
      · -- later extents do not reach into this one
        have hlater : ((image.write extent).writeAll rest).byteAt
            (extent.1 + j) = (image.write extent).byteAt (extent.1 + j) := by
          apply byteAt_writeAll_outside
          intro other hother
          rcases hfirst other hother with hbefore | hafter
          · exact .inl (by omega)
          · exact .inr (by omega)
        exact hlater.trans (byteAt_write_inside hj hfits)
      · exact ih hrest hlater hfits

/-- Extents that keep apart are all found again. -/
theorem holds_writeAll {image : Image} {extents : List (Nat × List UInt8)}
    (hapart : extents.Pairwise Separate) {extent : Nat × List UInt8}
    (hmem : extent ∈ extents)
    (hfits : extent.1 + extent.2.length ≤ image.size) :
    (image.writeAll extents).Holds extent.1 extent.2 := by
  refine ⟨by rwa [size_writeAll], ?_⟩
  apply List.ext_getElem
  · rw [Vector.length_toList]
  · intro j hleft hright
    rw [Vector.getElem_toList, getElem_read]
    exact byteAt_writeAll_inside hapart hmem hfits hright

namespace Holds

variable {image : Image} {off : Nat}

theorem byteAt {bytes : List UInt8} (h : image.Holds off bytes) {j : Nat}
    (hj : j < bytes.length) : image.byteAt (off + j) = bytes[j] := by
  have hget := congrArg (fun found : List UInt8 => found[j]?) h.bytes
  simp only [Vector.getElem?_toList, Vector.getElem?_eq_getElem hj,
    getElem_read, List.getElem?_eq_getElem hj, Option.some.injEq] at hget
  exact hget

theorem of_byteAt {bytes : List UInt8} (hfits : off + bytes.length ≤ image.size)
    (h : ∀ j (hj : j < bytes.length), image.byteAt (off + j) = bytes[j]) :
    image.Holds off bytes := by
  refine ⟨hfits, ?_⟩
  apply List.ext_getElem
  · rw [Vector.length_toList]
  · intro j hleft hright
    rw [Vector.getElem_toList, getElem_read]
    exact h j hright

theorem left {bytes rest : List UInt8} (h : image.Holds off (bytes ++ rest)) :
    image.Holds off bytes := by
  have hfits := h.inside
  rw [List.length_append] at hfits
  refine of_byteAt (by omega) fun j hj => ?_
  rw [h.byteAt (by rw [List.length_append]; omega),
    List.getElem_append_left hj]

theorem right {before bytes : List UInt8}
    (h : image.Holds off (before ++ bytes)) :
    image.Holds (off + before.length) bytes := by
  have hfits := h.inside
  rw [List.length_append] at hfits
  refine of_byteAt (by omega) fun j hj => ?_
  rw [Nat.add_assoc, h.byteAt (by rw [List.length_append]; omega),
    List.getElem_append_right (Nat.le_add_right _ _)]
  simp only [Nat.add_sub_cancel_left]

end Holds

end Image

end ShadowCopy.Data
