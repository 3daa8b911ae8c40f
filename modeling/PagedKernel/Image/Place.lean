import PagedKernel.Image.Header
import PagedKernel.PageTable.Translate

/-!
Contract: copying of segments from a file into memory.

Owns: the checks on a segment in their order, and the copy of its bytes to
consecutive physical addresses from the one of its start on. The pages of the
segment are thus expected on consecutive frames. When the file ends early, the
bytes that could be read are in memory.

Does not own: which segments a program has, or whose memory is written.
-/

namespace PagedKernel

/-- Where segments are copied to. -/
structure Target (size : Nat) where
  table : PageTable
  memory : Memory size

namespace Segment

open PagedKernel.Action

variable {size : Nat}

/-- Translates the start of the segment. -/
def locateStart (segment : Segment) (kind : SegmentKind) (geometry : Geometry) :
    Action (Target size) ImageError Nat :=
  ((PageTable.translate geometry segment.address).mapError (.segmentFault kind)).within
    (·.table) (fun table target => { target with table })

/-- Writes the bytes of the segment that the file yields from a physical address on. -/
def fill (segment : Segment) (kind : SegmentKind) (file : File) (physical : Nat) :
    Action (Target size) ImageError Unit := do
  let past ← check (Size.add physical segment.size.toNat)
  ensure (past ≤ size) (.segmentOutOfRange kind)
  let bytes := file.readAt segment.size.toNat segment.offset.toNat
  update fun target => { target with memory := target.memory.store physical bytes }
  ensure (bytes.length = segment.size.toNat)
    (.truncatedSegment kind segment.size.toNat bytes.length)

/-- Copies the segment from the file to where its addresses are mapped. -/
def place (segment : Segment) (kind : SegmentKind) (file : File) (geometry : Geometry) :
    Action (Target size) ImageError Unit := do
  if segment.size = 0 then
    pure ()
  else
    let table ← view (·.table)
    let spaceSize ← check (Size.mul table.size geometry.pageSize)
    ensure (segment.past ≤ spaceSize) (.segmentOutOfRange kind)
    let physical ← segment.locateStart kind geometry
    emit (.segmentPlaced kind physical segment.size)
    segment.fill kind file physical

end Segment

end PagedKernel
