import TradingSim.Foundation.LittleEndian

/-!
# Records of fixed-width numbers

A layout is a list of widths: consecutive little-endian fields without padding.
Writing numbers out under a layout and reading them back are inverse to each
other, and every byte of a record belongs to one field, which stands behind the
widths of the fields in front of it.
-/

namespace Foundation.Layout

open LittleEndian

/-- Numbers written one behind the other, each at its width. -/
def write : List Nat → List Nat → List UInt8
  | width :: widths, number :: numbers =>
      encode width number ++ write widths numbers
  | _, _ => []

/-- The numbers of consecutive fields. -/
def read : List Nat → List UInt8 → List Nat
  | [], _ => []
  | width :: widths, bytes =>
      value (bytes.take width) :: read widths (bytes.drop width)

/-- Every number has room in its field, and every field has a number. -/
def Fits : List Nat → List Nat → Prop :=
  List.Forall₂ fun width number => number < 256 ^ width

theorem write_read {widths : List Nat} {bytes : List UInt8}
    (size : bytes.length = widths.sum) :
    write widths (read widths bytes) = bytes := by
  induction widths generalizing bytes with
  | nil =>
      rw [List.sum_nil] at size
      rw [List.length_eq_zero_iff.mp size]
      rfl
  | cons width widths ih =>
      rw [List.sum_cons] at size
      have taken : (bytes.take width).length = width := by
        rw [List.length_take]
        omega
      have first := encode_value (bytes.take width)
      rw [taken] at first
      have left : (bytes.drop width).length = widths.sum := by
        rw [List.length_drop]
        omega
      rw [read, write, first, ih left, List.take_append_drop]

theorem read_write {widths numbers : List Nat} (fits : Fits widths numbers) :
    read widths (write widths numbers) = numbers := by
  induction fits with
  | nil => rfl
  | @cons width number widths numbers room _ ih =>
      have size := length_encode width number
      rw [write, read, List.take_left' size, List.drop_left' size,
        value_encode room, ih]

theorem length_write {widths numbers : List Nat}
    (same : widths.length = numbers.length) :
    (write widths numbers).length = widths.sum := by
  induction widths generalizing numbers with
  | nil => rfl
  | cons width widths ih =>
      cases numbers with
      | nil => cases same
      | cons number numbers =>
          rw [write, List.length_append, length_encode, List.sum_cons,
            ih (Nat.succ.inj same)]

/-- A byte depends on the number of its own field only. -/
theorem getElem?_write_congr {widths left right : List Nat} {offset : Nat}
    (same : left.length = right.length)
    (agree : ∀ index, (widths.take index).sum ≤ offset →
      offset < (widths.take (index + 1)).sum → left[index]? = right[index]?) :
    (write widths left)[offset]? = (write widths right)[offset]? := by
  induction widths generalizing left right offset with
  | nil => rfl
  | cons width widths ih =>
      cases left with
      | nil =>
          rw [List.eq_nil_of_length_eq_zero same.symm]
      | cons number left =>
          cases right with
          | nil => cases same
          | cons number' right =>
              rw [write, write]
              by_cases inside : offset < width
              · have equal : number = number' := by
                  have first := agree 0 (by simp) (by simpa using inside)
                  simpa using first
                rw [equal, List.getElem?_append_left (by simpa using inside),
                  List.getElem?_append_left (by simpa using inside)]
              · have behind : width ≤ offset := Nat.le_of_not_lt inside
                rw [List.getElem?_append_right (by simpa using behind),
                  List.getElem?_append_right (by simpa using behind),
                  length_encode, length_encode]
                apply ih (Nat.succ.inj same)
                intro index lower upper
                have next := agree (index + 1)
                simp only [List.take_succ_cons, List.sum_cons,
                  List.getElem?_cons_succ] at next
                exact next (by omega) (by omega)

end Foundation.Layout
