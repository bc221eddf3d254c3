import Chip8.Word

/-!
# A display that only remembers

The recorder counts the frames it is handed and keeps the last one, whatever its size.
-/

namespace Chip8

/-- How many frames have been drawn, and the last one. -/
structure FrameRecorder where
  frames : Nat
  cells : List Byte
  status : String
  deriving DecidableEq, Repr

namespace FrameRecorder

/-- Nothing has been drawn. -/
def empty : FrameRecorder := ⟨0, [], ""⟩

/-- Draw a frame, which always goes well. -/
def draw (r : FrameRecorder) (cells : List Byte) (status : String) : FrameRecorder :=
  ⟨r.frames + 1, cells, status⟩

end FrameRecorder

end Chip8
