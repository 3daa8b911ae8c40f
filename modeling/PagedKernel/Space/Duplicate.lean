import PagedKernel.Space.Load

/-!
Contract: address spaces as copies of others.

Owns: the copy of a run of frames into newly reserved ones. The copy gets a
fresh table, whatever the table of the parent holds, and shares nothing with
the parent afterwards.
-/

namespace PagedKernel.AddressSpace

open PagedKernel.Action

variable {geometry : Geometry}

/-- Copies the bytes of one run of frames to another. -/
def copyFrames (parentFrame childFrame pages : Nat) :
    Action (Kernel geometry) BuildError Unit := do
  let parent ← check (frameBytes parentFrame pages geometry.pageSize)
  let child ← check (frameBytes childFrame pages geometry.pageSize)
  emit (.parentCopied parent child)
  require (parent.past ≤ geometry.bytes ∧ child.past ≤ geometry.bytes) .outOfBounds
  Kernel.updateMachine fun machine =>
    { machine with memory := machine.memory.move parent child.first }

/-- Copies the `pages` frames from `parentFrame` on into a space of their own. -/
def duplicate (pages parentFrame : Nat) : Action (Kernel geometry) BuildError AddressSpace := do
  fatal (ensure (pages ≤ geometry.frames) (.programTooLarge pages geometry.frames))
  let past ← check (Size.add parentFrame pages)
  fatal (ensure (past ≤ geometry.frames) (.badParent parentFrame pages))
  let firstFrame ← claimFrames pages
  let table ← check (PageTable.contiguousChecked pages firstFrame)
  copyFrames parentFrame firstFrame pages
  let id ← Kernel.addTable table
  return ⟨id, pages, firstFrame⟩

/-- A copy of the space for a forked child. -/
def fork (space : AddressSpace) : Action (Kernel geometry) BuildError AddressSpace :=
  duplicate space.pages space.firstFrame

end PagedKernel.AddressSpace
