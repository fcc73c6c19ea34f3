import Mathlib.Logic.Equiv.Defs
import TradingSim.Foundation.Framing

/-!
# Streams of items

When items correspond one to one to the frames of a format, a stream is a list of
items in front of a tail: a whole stream is written and read back because a
single frame is.
-/

namespace Foundation

namespace Framer

universe u v

/-- Items written as the frames of a format, each frame as one item. -/
abbrev Codec {α : Type u} (framer : Framer α) (Item : Type v) :=
  Item ≃ {record : List α // framer.IsFrame record}

namespace Codec

variable {α : Type u} {Item : Type v} {framer : Framer α}
  (codec : Codec framer Item)

/-- The frame of an item. -/
def frame (item : Item) : List α := (codec item).val

theorem isFrame_frame (item : Item) : framer.IsFrame (codec.frame item) :=
  (codec item).property

theorem frame_symm {record : List α} (framed : framer.IsFrame record) :
    codec.frame (codec.symm ⟨record, framed⟩) = record := by
  rw [frame, Equiv.apply_symm_apply]

theorem frame_injective : Function.Injective codec.frame :=
  fun _ _ same => codec.injective (Subtype.ext same)

/-- The stream of some items and a tail. -/
def write (items : List Item) (tail : List α) : List α :=
  items.flatMap codec.frame ++ tail

/-- The items of a stream, in order. -/
def read (input : List α) : List Item :=
  (framer.frames input).attach.map fun record =>
    codec.symm ⟨record.val, isFrame_of_mem_frames record.property⟩

theorem map_frame_read (input : List α) :
    (codec.read input).map codec.frame = framer.frames input := by
  calc (codec.read input).map codec.frame
      = (framer.frames input).attach.map Subtype.val := by
        rw [read, List.map_map]
        exact List.map_congr_left fun _ _ => codec.frame_symm _
    _ = framer.frames input := List.attach_map_subtype_val _

variable {items : List Item} {tail : List α}

/-- What was written is framed again as it was written. -/
theorem frames_write (isTail : framer.IsTail tail) :
    framer.frames (codec.write items tail) = items.map codec.frame ∧
      framer.tail (codec.write items tail) = tail := by
  apply decomposition_unique _ isTail
  · rw [write, List.flatMap_def]
  · intro record member
    obtain ⟨item, _, rfl⟩ := List.mem_map.mp member
    exact codec.isFrame_frame item

/-- What was written is read back. -/
theorem read_write (isTail : framer.IsTail tail) :
    codec.read (codec.write items tail) = items := by
  apply codec.frame_injective.list_map
  rw [map_frame_read, (codec.frames_write isTail).1]

theorem write_read (input : List α) :
    codec.write (codec.read input) (framer.tail input) = input := by
  rw [write, List.flatMap_def, map_frame_read, flatten_frames_append_tail]

end Codec

end Framer

end Foundation
