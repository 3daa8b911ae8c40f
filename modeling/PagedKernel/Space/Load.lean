import PagedKernel.Image.Place
import PagedKernel.Space.Basic

/-!
Contract: address spaces from executable images.

Owns: the steps of a load and their order, which decides the error of an image
with several faults. Each step that fails records the error itself. Frames are
reserved and cleared before the segments are copied, and a copy that fails gives
nothing back.

Does not own: what happens to the new space.
-/

namespace PagedKernel.AddressSpace

open PagedKernel.Action

variable {geometry : Geometry}

/-- Reserves frames for the pages of a new space, within the machine. -/
def claimFrames (pages : Nat) : Action (Kernel geometry) BuildError Nat :=
  fatal (Kernel.onFrames ((FramePool.reserveWithin pages geometry.frames).mapError .frames))

/-- Reads the header, and answers with it and the number of pages needed. -/
def readImage (file : File) : Action (Kernel geometry) BuildError (Header × Nat) := do
  let (header, order) ← fatal (ofResult ((Header.read file).mapError .image))
  emit (.headerRead header order)
  let pages ← check (header.pagesNeeded geometry)
  fatal (ensure (pages ≤ geometry.frames) (.programTooLarge pages geometry.frames))
  return (header, pages)

/-- Sets the bytes of the frames to zero. -/
def clearFrames (firstFrame pages : Nat) : Action (Kernel geometry) BuildError Unit := do
  let range ← check (frameBytes firstFrame pages geometry.pageSize)
  require (range.past ≤ geometry.bytes) .outOfBounds
  Kernel.updateMachine fun machine => { machine with memory := machine.memory.clear range }

/-- Copies the segments one after the other, up to the first that fails. -/
def placeAll (file : File) :
    List (SegmentKind × Segment) → Action (Target geometry.bytes) BuildError Unit
  | [] => pure ()
  | (kind, segment) :: rest => do
      fatal ((segment.place kind file geometry).mapError .image)
      placeAll file rest

/-- Copies the segments of a file through a table that nobody shares yet. -/
def placeSegments (file : File) (header : Header) (table : PageTable) :
    Action (Kernel geometry) BuildError PageTable :=
  Action.within
    (fun kernel => (⟨table, kernel.machine.memory⟩ : Target geometry.bytes))
    (fun target kernel =>
      { kernel with machine := { kernel.machine with memory := target.memory } })
    (do
      placeAll file header.fileSegments
      view (·.table))

/-- Loads an executable into newly reserved frames. -/
def load (file : File) : Action (Kernel geometry) BuildError AddressSpace := do
  let (header, pages) ← readImage file
  let firstFrame ← claimFrames pages
  let table ← check (PageTable.contiguousChecked pages firstFrame)
  emit (.spaceLaidOut pages (pages * geometry.pageSize) firstFrame)
  clearFrames firstFrame pages
  let table ← placeSegments file header table
  let id ← Kernel.addTable table
  return ⟨id, pages, firstFrame⟩

end PagedKernel.AddressSpace
