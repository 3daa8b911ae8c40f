import PagedKernel.Kernel.Access
import PagedKernel.Process
import PagedKernel.Space.Duplicate

/-!
Contract: round-robin scheduling of user processes on one machine.

Owns:
- the running process and the queue of ready ones;
- start, fork, yield and exit of processes, and the switch between two;
- `Scheduler.step` and `Scheduler.run`, which take these operations and the
  accesses of the running program as data.

Processes are counted over all schedulers of the kernel, from 1 on, and a start
or fork that fails is not counted.

Does not own: the construction of address spaces.
-/

namespace PagedKernel

structure Scheduler (geometry : Geometry) where
  kernel : Kernel geometry
  current : Option Process := none
  ready : List Process := []
  /-- The count of the next process. -/
  nextPid : Nat := 1

/-- What users ask of the scheduler, and what the running program does. -/
inductive Scheduler.Command where
  | exec (name : String) (file : File)
  | fork
  | yield
  | exit
  | access (access : Access)
deriving DecidableEq, Repr

inductive Scheduler.Answer where
  | done
  /-- Nothing runs. -/
  | idle
  | process (pid : Pid)
  | access (answer : Access.Answer)
deriving DecidableEq, Repr

inductive Scheduler.Failure where
  | build (error : BuildError)
  | exception (exception : Exception)
deriving DecidableEq, Repr

namespace Scheduler

open PagedKernel.Action

variable {geometry : Geometry} {ε α : Type}

/-- A scheduler without processes, in a kernel that has counted up to `nextPid` elsewhere. -/
def start (machine : Machine geometry) (frames : FramePool) (nextPid : Nat := 1) :
    Scheduler geometry :=
  { kernel := { machine, frames }, nextPid }

def onKernel (action : Action (Kernel geometry) ε α) : Action (Scheduler geometry) ε α :=
  action.within (·.kernel) (fun kernel scheduler => { scheduler with kernel })

/-- Makes a process of a space, and counts it. -/
def adopt (name : String) (space : AddressSpace) (saved : Option Registers) :
    Action (Scheduler geometry) ε Process := do
  let serial ← view (·.nextPid)
  update fun scheduler => { scheduler with nextPid := serial + 1 }
  return { pid := ⟨serial⟩, name, space, saved }

def enqueue (process : Process) : Action (Scheduler geometry) ε Unit :=
  update fun scheduler => { scheduler with ready := scheduler.ready ++ [process] }

/-- Loads the registers of a process, or the initial ones at its first run. -/
def restoreRegisters (process : Process) : Action (Kernel geometry) ε Unit :=
  match process.saved with
  | some registers => Kernel.updateMachine fun machine => { machine with registers }
  | none => process.space.initRegisters

/-- Gives the machine to a process. -/
def dispatch (process : Process) : Action (Scheduler geometry) ε Unit := do
  onKernel (restoreRegisters process)
  onKernel process.space.activate
  emit (.switched process.pid process.name)
  update fun scheduler =>
    { scheduler with current := some { process with state := .running, saved := none } }

/-- The process as it waits after it ran with the given registers. -/
def suspend (process : Process) (registers : Registers) : Process :=
  { process with state := .ready, saved := some registers }

/-- Runs a process at once if nothing else does, and queues it otherwise. -/
def schedule (process : Process) : Action (Scheduler geometry) ε Unit := do
  match ← view (·.current) with
  | none => dispatch process
  | some _ => enqueue process

/-- Runs the first process of the queue, or leaves the machine idle. -/
def runNext : Action (Scheduler geometry) ε Unit := do
  match ← view (·.ready) with
  | [] =>
      onKernel (Kernel.updateMachine (·.uninstall))
      update fun scheduler => { scheduler with current := none }
  | next :: rest =>
      update fun scheduler => { scheduler with current := none, ready := rest }
      dispatch next

/-- Loads a program; it runs at once if nothing else does, and waits otherwise. -/
def exec (name : String) (file : File) : Action (Scheduler geometry) BuildError Pid := do
  let space ← onKernel (AddressSpace.load file)
  let process ← adopt name space none
  emit (.executed name process.pid space.pages)
  schedule process
  return process.pid

/-- Copies the running process, with its registers as they are now. -/
def fork : Action (Scheduler geometry) BuildError (Option Pid) := do
  match ← view (·.current) with
  | none => return none
  | some parent =>
      let space ← onKernel parent.space.fork
      let registers ← view (·.kernel.machine.registers)
      let child ← adopt parent.name space (some registers)
      emit (.forked parent.pid child.pid)
      enqueue child
      return some child.pid

/-- Sends the running process to the back of the queue and runs the first of the queue. -/
def yield : Action (Scheduler geometry) ε Unit := do
  match ← view (·.ready) with
  | [] => pure ()
  | next :: rest =>
      update fun scheduler => {
        scheduler with
        current := none
        ready := rest ++
          (scheduler.current.map (suspend · scheduler.kernel.machine.registers)).toList
      }
      dispatch next

/-- Ends the running process and runs the first of the queue. -/
def exit : Action (Scheduler geometry) ε (Option Pid) := do
  match ← view (·.current) with
  | none => return none
  | some finished =>
      emit (.exited finished.pid finished.name)
      finished.space.release
      runNext
      return some finished.pid

def Answer.ofPid? : Option Pid → Answer
  | none => .idle
  | some pid => .process pid

def step : Command → Action (Scheduler geometry) Failure Answer
  | .exec name file => .process <$> (exec name file).mapError .build
  | .fork => Answer.ofPid? <$> fork.mapError .build
  | .yield => (fun _ => .done) <$> yield
  | .exit => Answer.ofPid? <$> exit
  | .access access => .access <$> (onKernel (Kernel.access access)).mapError .exception

/-- The scheduler after the commands, and what each of them gave. -/
def run (scheduler : Scheduler geometry) (commands : List Command) :
    Checked (Scheduler geometry × List (Except Failure Answer)) :=
  runAll step scheduler commands

end Scheduler

end PagedKernel
