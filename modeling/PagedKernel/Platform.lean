import PagedKernel.Kernel.Access
import PagedKernel.Space.Duplicate

/-!
Contract: several machines over one frame pool and one store of page tables.

Owns:
- the machines, each with its own geometry, and the spaces built so far, each
  in the slot of the request that built it;
- `Platform.step` and `Platform.run`, which take requests as data.

Every request for a new space takes the next slot, which stays empty if the
request fails; so does the slot of a space that was dropped.

Does not own: processes and their switching (`Scheduler`).
-/

namespace PagedKernel

/-- A machine of some geometry. -/
structure Host where
  geometry : Geometry
  machine : Machine geometry

structure Platform where
  hosts : Array Host
  frames : FramePool
  tables : TableStore := {}
  slots : Array (Option AddressSpace) := #[]

/-- Requests; `host` and `slot` are positions of a machine and of a space. -/
inductive Platform.Command where
  | load (host : Nat) (file : File)
  | duplicate (host pages parentFrame : Nat)
  | fork (host slot : Nat)
  | initRegisters (host slot : Nat)
  | activate (host slot : Nat)
  | suspend (slot : Nat)
  | drop (slot : Nat)
  | edit (slot page : Nat) (change : Entry.Change)
  | reserve (count : Nat)
  | install (host pages firstFrame expected : Nat)
  | uninstall (host : Nat)
  | access (host : Nat) (access : Access)
deriving DecidableEq, Repr

inductive Platform.Answer where
  | done
  | space (slot : Nat) (space : AddressSpace)
  | entry (entry : Option Entry)
  | frame (first : Nat)
  | access (answer : Access.Answer)
deriving DecidableEq, Repr

inductive Platform.Failure where
  /-- The slot is empty, or there is no such slot. -/
  | noSpace
  | build (error : BuildError)
  | frames (shortage : FrameShortage)
  | exception (exception : Exception)
deriving DecidableEq, Repr

namespace Platform

open PagedKernel.Action

variable {ε α : Type}

/-- Machines without spaces. -/
def start (hosts : Array Host) (frames : FramePool) : Platform := { hosts, frames }

/-- A machine of the platform with what it shares with the others. -/
def kernel (platform : Platform) (host : Host) : Kernel host.geometry :=
  ⟨host.machine, platform.frames, platform.tables⟩

/-- The platform after one of its machines was changed together with the shared parts. -/
def put (platform : Platform) (position : Nat) {geometry : Geometry}
    (kernel : Kernel geometry) : Platform :=
  { platform with
    hosts := platform.hosts.setIfInBounds position ⟨geometry, kernel.machine⟩
    frames := kernel.frames
    tables := kernel.tables }

/-- Runs an action on one machine. -/
def onHost (position : Nat)
    (action : (geometry : Geometry) → Action (Kernel geometry) ε α) : Action Platform ε α :=
  ⟨fun platform =>
    match platform.hosts[position]? with
    | none => .error .outOfBounds
    | some host =>
        ((action host.geometry).run (platform.kernel host)).map fun report =>
          { report with state := platform.put position report.state }⟩

/-- The space in a slot. -/
def space? (platform : Platform) (slot : Nat) : Option AddressSpace :=
  platform.slots[slot]?.join

def findSpace (slot : Nat) : Action Platform Failure AddressSpace := do
  match ← view (·.space? slot) with
  | none => fail .noSpace
  | some space => return space

/-- Puts a new space into the next slot, or leaves that slot empty after a failure. -/
def occupySlot (building : Action Platform BuildError AddressSpace) :
    Action Platform Failure Answer := do
  let slot ← view (·.slots.size)
  let space ← (building.settle fun result platform =>
    { platform with slots := platform.slots.push result.toOption }).mapError .build
  return .space slot space

/-- Changes one entry of a table, and answers with the entry if there is one. -/
def editTable (id : TableId) (page : Nat) (edit : Entry.Change) :
    Action Platform ε (Option Entry) := do
  update fun platform =>
    { platform with
      tables := platform.tables.put id ((platform.tables.table id).change page edit) }
  view fun platform => (platform.tables.table id).lookup page

def step : Command → Action Platform Failure Answer
  | .load host file => occupySlot (onHost host fun _ => AddressSpace.load file)
  | .duplicate host pages parentFrame =>
      occupySlot (onHost host fun _ => AddressSpace.duplicate pages parentFrame)
  | .fork host slot => do
      let space ← findSpace slot
      occupySlot (onHost host fun _ => space.fork)
  | .initRegisters host slot => do
      let space ← findSpace slot
      onHost host fun _ => space.initRegisters
      return .done
  | .activate host slot => do
      let space ← findSpace slot
      onHost host fun _ => space.activate
      return .done
  | .suspend slot => do
      let _ ← findSpace slot
      return .done
  | .drop slot => do
      let space ← findSpace slot
      space.release
      update fun platform => { platform with slots := platform.slots.setIfInBounds slot none }
      return .done
  | .edit slot page change => do
      let space ← findSpace slot
      .entry <$> editTable space.table page change
  | .reserve count =>
      .frame <$> ((FramePool.reserve count).within (·.frames)
        (fun frames platform => { platform with frames })).mapError .frames
  | .install host pages firstFrame expected => do
      onHost host fun _ => Kernel.installContiguous pages firstFrame expected
      return .done
  | .uninstall host => do
      onHost host fun _ => Kernel.updateMachine (·.uninstall)
      return .done
  | .access host access =>
      .access <$> (onHost host fun _ => Kernel.access access).mapError .exception

/-- The platform after the requests, and what each of them gave. -/
def run (platform : Platform) (commands : List Command) :
    Checked (Platform × List (Except Failure Answer)) :=
  runAll step platform commands

end Platform

end PagedKernel
