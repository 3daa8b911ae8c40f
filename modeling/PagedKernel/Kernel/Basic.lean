import PagedKernel.FramePool.Reserve
import PagedKernel.Machine

/-!
Contract: the state that building and running address spaces works on.

Owns: a machine with the frame pool and the page tables that it shares with
other machines, and actions on one of these parts.
-/

namespace PagedKernel

/-- A machine, the frames it may hand out, and all page tables. -/
structure Kernel (geometry : Geometry) where
  machine : Machine geometry
  frames : FramePool
  tables : TableStore := {}

namespace Kernel

open PagedKernel.Action

variable {geometry : Geometry} {ε α : Type}

def onFrames (action : Action FramePool ε α) : Action (Kernel geometry) ε α :=
  action.within (·.frames) (fun frames kernel => { kernel with frames })

/-- Runs an action on the table of a handle. -/
def onTable (id : TableId) (action : Action PageTable ε α) : Action (Kernel geometry) ε α :=
  action.within (·.tables.table id)
    (fun table kernel => { kernel with tables := kernel.tables.put id table })

def updateMachine (change : Machine geometry → Machine geometry) :
    Action (Kernel geometry) ε Unit :=
  update fun kernel => { kernel with machine := change kernel.machine }

/-- Keeps a table and answers with its new handle. -/
def addTable (table : PageTable) : Action (Kernel geometry) ε TableId := do
  let id ← view (·.tables.nextId)
  update fun kernel => { kernel with tables := kernel.tables.add table }
  return id

/-- Changes one entry of a table, and answers with the entry if there is one. -/
def editTable (id : TableId) (page : Nat) (edit : Entry.Change) :
    Action (Kernel geometry) ε (Option Entry) :=
  onTable id do
    update (·.change page edit)
    view (·.lookup page)

/-- Lets the processor translate through a new contiguous table. -/
def installContiguous (pages firstFrame expected : Nat) : Action (Kernel geometry) ε Unit := do
  let id ← addTable (← check (PageTable.contiguousChecked pages firstFrame))
  updateMachine (·.install ⟨id, expected⟩)

/-- The table that the processor translates through. -/
def installedTable? (kernel : Kernel geometry) : Option PageTable :=
  kernel.machine.installed.map fun mapping => kernel.tables.table mapping.table

end Kernel

end PagedKernel
