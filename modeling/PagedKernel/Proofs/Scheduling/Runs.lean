import PagedKernel.Proofs.Copying
import PagedKernel.Proofs.Loading.Contents
import PagedKernel.Scheduler

/-!
Contract: the course of each scheduler operation.

Owns:
- the scheduler after a process got the machine (`Scheduler.given`), and after
  `yield`, `exit` and the admission of a new process, as plain functions;
- the reports of the operations in terms of these functions;
- every way in which `exec` and `fork` can return.

Does not own: what the operations preserve (`Scheduling.Orderly`).
-/

namespace PagedKernel

open PagedKernel.Action

variable {geometry : Geometry} {ε : Type}

namespace AddressSpace

/-- The stack pointer with which the program of the space starts. -/
def stackTop (space : AddressSpace) (pageSize : Nat) : Int32 :=
  Int32.ofNat (space.pages * pageSize) - stackGuard

theorem initialStack_of_lt {space : AddressSpace} {pageSize : Nat}
    (bounded : space.pages * pageSize < Size.limit) :
    space.initialStack pageSize = .ok (space.stackTop pageSize) := by
  simp only [initialStack, Size.mul_of_lt bounded, bind, Except.bind, pure, Except.pure, stackTop]

end AddressSpace

/-- The registers with which a process goes on, or starts. -/
def Process.resumed (process : Process) (pageSize : Nat) : Registers :=
  process.saved.getD (AddressSpace.startRegisters (process.space.stackTop pageSize))

namespace Scheduler

variable {scheduler : Scheduler geometry} {process : Process}

/-! ### The switch to a process -/

/-- The scheduler once a process has the machine. -/
def given (scheduler : Scheduler geometry) (process : Process) : Scheduler geometry :=
  { scheduler with
    kernel := {
      scheduler.kernel with
      machine := {
        scheduler.kernel.machine with
        registers := process.resumed geometry.pageSize
        installed := some ⟨process.space.table, process.space.pages⟩ } }
    current := some { process with state := .running, saved := none } }

theorem run_restoreRegisters (kernel : Kernel geometry) (process : Process)
    (bounded : process.space.pages * geometry.pageSize < Size.limit) :
    ∃ events, (restoreRegisters process : Action (Kernel geometry) ε Unit).run kernel =
      .ok ⟨.ok (), { kernel with
        machine := { kernel.machine with registers := process.resumed geometry.pageSize } },
        events⟩ := by
  cases saved : process.saved with
  | some registers =>
      refine ⟨[], ?_⟩
      simp [restoreRegisters, saved, Kernel.updateMachine, Process.resumed]
  | none =>
      have stack := AddressSpace.initialStack_of_lt bounded
      refine ⟨[.stackSet (process.space.stackTop geometry.pageSize)], ?_⟩
      simp [restoreRegisters, saved, AddressSpace.initRegisters, stack, Kernel.updateMachine,
        Process.resumed, run_bind, Except.map, Report.after]

theorem run_dispatch (scheduler : Scheduler geometry) (process : Process)
    (bounded : process.space.pages * geometry.pageSize < Size.limit) :
    ∃ events, (dispatch process : Action (Scheduler geometry) ε Unit).run scheduler =
      .ok ⟨.ok (), scheduler.given process, events⟩ := by
  obtain ⟨events, restored⟩ := run_restoreRegisters (ε := ε) scheduler.kernel process bounded
  refine ⟨events ++ [.switched process.pid process.name], ?_⟩
  simp [dispatch, onKernel, run_bind, run_within, restored, AddressSpace.activate,
    Kernel.updateMachine, Machine.install, given, Except.map, Report.after]

/-! ### Yield and exit -/

/-- The processes behind the first of the queue, once the running one has joined them. -/
def rotated (scheduler : Scheduler geometry) (rest : List Process) : List Process :=
  rest ++ (scheduler.current.map (suspend · scheduler.kernel.machine.registers)).toList

/-- The scheduler after the running process gave way to the first of the queue. -/
def yielded (scheduler : Scheduler geometry) : Scheduler geometry :=
  match scheduler.ready with
  | [] => scheduler
  | next :: rest =>
      given { scheduler with current := none, ready := scheduler.rotated rest } next

/-- The scheduler after the running process ended. -/
def vacated (scheduler : Scheduler geometry) : Scheduler geometry :=
  match scheduler.ready with
  | [] =>
      { scheduler with
        kernel := { scheduler.kernel with machine := scheduler.kernel.machine.uninstall }
        current := none }
  | next :: rest => given { scheduler with current := none, ready := rest } next

section Queue

variable {next : Process} {rest : List Process}

theorem yielded_of_nil (empty : scheduler.ready = []) : scheduler.yielded = scheduler := by
  simp only [yielded, empty]

theorem yielded_of_cons (queue : scheduler.ready = next :: rest) :
    scheduler.yielded =
      given { scheduler with current := none, ready := scheduler.rotated rest } next := by
  simp only [yielded, queue]

theorem vacated_of_nil (empty : scheduler.ready = []) :
    scheduler.vacated =
      { scheduler with
        kernel := { scheduler.kernel with machine := scheduler.kernel.machine.uninstall }
        current := none } := by
  simp only [vacated, empty]

theorem vacated_of_cons (queue : scheduler.ready = next :: rest) :
    scheduler.vacated = given { scheduler with current := none, ready := rest } next := by
  simp only [vacated, queue]

end Queue

theorem run_yield (bounded : ∀ process ∈ scheduler.ready,
      process.space.pages * geometry.pageSize < Size.limit) :
    ∃ events, (yield : Action (Scheduler geometry) ε Unit).run scheduler =
      .ok ⟨.ok (), scheduler.yielded, events⟩ := by
  cases queue : scheduler.ready with
  | nil =>
      refine ⟨[], ?_⟩
      rw [yielded_of_nil queue]
      simp [yield, run_bind, queue, Except.map, Report.after]
  | cons next rest =>
      obtain ⟨events, dispatched⟩ := run_dispatch (ε := ε)
        { scheduler with current := none, ready := scheduler.rotated rest } next
        (bounded next (by simp [queue]))
      refine ⟨events, ?_⟩
      rw [yielded_of_cons queue]
      simp only [rotated] at dispatched
      simp [yield, rotated, run_bind, queue, dispatched, Except.map, Report.after]

theorem run_runNext (bounded : ∀ process ∈ scheduler.ready,
      process.space.pages * geometry.pageSize < Size.limit) :
    ∃ events, (runNext : Action (Scheduler geometry) ε Unit).run scheduler =
      .ok ⟨.ok (), scheduler.vacated, events⟩ := by
  cases queue : scheduler.ready with
  | nil =>
      refine ⟨[], ?_⟩
      rw [vacated_of_nil queue]
      simp [runNext, run_bind, run_within, queue, onKernel, Kernel.updateMachine, Except.map,
        Report.after]
  | cons next rest =>
      obtain ⟨events, dispatched⟩ := run_dispatch (ε := ε)
        { scheduler with current := none, ready := rest } next (bounded next (by simp [queue]))
      refine ⟨events, ?_⟩
      rw [vacated_of_cons queue]
      simp [runNext, run_bind, queue, dispatched, Except.map, Report.after]

theorem run_exit_of_idle (idle : scheduler.current = none) :
    (exit : Action (Scheduler geometry) ε (Option Pid)).run scheduler =
      .ok ⟨.ok none, scheduler, []⟩ := by
  simp [exit, run_bind, idle, Except.map, Report.after]

theorem run_exit_of_running (running : scheduler.current = some process)
    (bounded : ∀ process ∈ scheduler.ready,
      process.space.pages * geometry.pageSize < Size.limit) :
    ∃ events, (exit : Action (Scheduler geometry) ε (Option Pid)).run scheduler =
      .ok ⟨.ok (some process.pid), scheduler.vacated, events⟩ := by
  obtain ⟨events, ran⟩ := run_runNext (ε := ε) bounded
  refine ⟨.exited process.pid process.name ::
    .spaceReleased process.space.firstFrame process.space.pages :: events, ?_⟩
  simp [exit, run_bind, run_map, running, AddressSpace.release, ran, Except.map, Report.after]

/-! ### New processes -/

def queued (scheduler : Scheduler geometry) (process : Process) : Scheduler geometry :=
  { scheduler with ready := scheduler.ready ++ [process] }

/-- The scheduler after a new process started, or joined the queue of a running one. -/
def admitted (scheduler : Scheduler geometry) (process : Process) : Scheduler geometry :=
  match scheduler.current with
  | none => scheduler.given process
  | some _ => scheduler.queued process

theorem admitted_of_idle (idle : scheduler.current = none) :
    scheduler.admitted process = scheduler.given process := by
  simp only [admitted, idle]

theorem admitted_of_running {running : Process} (current : scheduler.current = some running) :
    scheduler.admitted process = scheduler.queued process := by
  simp only [admitted, current]

/-- The scheduler on a kernel in which a space was built for the next process. -/
def numbered (scheduler : Scheduler geometry) (after : Kernel geometry) : Scheduler geometry :=
  { scheduler with kernel := after, nextPid := scheduler.nextPid + 1 }

/-- The process that a space and perhaps registers become as the next of the count. -/
def newcomer (scheduler : Scheduler geometry) (name : String) (space : AddressSpace)
    (saved : Option Registers) : Process :=
  { pid := ⟨scheduler.nextPid⟩, name, space, saved }

theorem run_schedule (scheduler : Scheduler geometry) (process : Process)
    (bounded : process.space.pages * geometry.pageSize < Size.limit) :
    ∃ events, (schedule process : Action (Scheduler geometry) ε Unit).run scheduler =
      .ok ⟨.ok (), scheduler.admitted process, events⟩ := by
  cases running : scheduler.current with
  | none =>
      obtain ⟨events, dispatched⟩ := run_dispatch (ε := ε) scheduler process bounded
      refine ⟨events, ?_⟩
      rw [admitted_of_idle running]
      simp [schedule, run_bind, running, dispatched, Except.map, Report.after]
  | some _ =>
      refine ⟨[], ?_⟩
      rw [admitted_of_running running]
      simp [schedule, enqueue, queued, run_bind, running, Except.map, Report.after]

theorem run_exec_of_space (name : String) {file : File} {space : AddressSpace}
    {after : Kernel geometry} {events : List Event}
    (loaded : (AddressSpace.load file).run scheduler.kernel = .ok ⟨.ok space, after, events⟩)
    (bounded : space.pages * geometry.pageSize < Size.limit) :
    ∃ later, (exec name file).run scheduler =
      .ok ⟨.ok ⟨scheduler.nextPid⟩,
        (scheduler.numbered after).admitted (scheduler.newcomer name space none), later⟩ := by
  obtain ⟨later, scheduled⟩ := run_schedule (ε := BuildError) (scheduler.numbered after)
    (scheduler.newcomer name space none) bounded
  simp only [numbered, newcomer] at scheduled
  refine ⟨events ++ .executed name ⟨scheduler.nextPid⟩ space.pages :: later, ?_⟩
  simp [exec, onKernel, run_bind, run_map, run_within, loaded, adopt, scheduled, numbered, newcomer,
    Except.map, Report.after]

theorem run_exec_of_failure {name : String} {file : File} {error : BuildError}
    {after : Kernel geometry} {events : List Event}
    (refused : (AddressSpace.load file).run scheduler.kernel = .ok ⟨.error error, after, events⟩) :
    (exec name file).run scheduler =
      .ok ⟨.error error, { scheduler with kernel := after }, events⟩ := by
  unfold exec
  apply run_bind_of_failure
  rw [onKernel, run_within, refused]
  rfl

theorem run_exec_of_crash {name : String} {file : File} {cause : Crash}
    (crashed : (AddressSpace.load file).run scheduler.kernel = .error cause) :
    (exec name file).run scheduler = .error cause := by
  unfold exec
  apply run_bind_of_crash
  rw [onKernel, run_within, crashed]
  rfl

/-- A start that returns either failed with its load, with the error of the header if that is
unreadable, or admitted a process whose space holds the program of the file. -/
theorem exec_cases {name : String} {file : File}
    {report : Report (Scheduler geometry) BuildError Pid}
    (ran : (exec name file).run scheduler = .ok report) :
    (∃ error after,
        (AddressSpace.load file).run scheduler.kernel =
          .ok ⟨.error error, after, report.events⟩ ∧
        scheduler.kernel.Extends after ∧
        report.result = .error error ∧ report.state = { scheduler with kernel := after } ∧
        ∀ unreadable, Header.read file = .error unreadable → error = .image unreadable) ∨
      ∃ header order space after, Header.read file = .ok (header, order) ∧
        AddressSpace.Holds scheduler.kernel after file header space ∧
        report.result = .ok ⟨scheduler.nextPid⟩ ∧
        report.state =
          (scheduler.numbered after).admitted (scheduler.newcomer name space none) := by
  cases loaded : (AddressSpace.load file).run scheduler.kernel with
  | error cause =>
      rw [run_exec_of_crash loaded] at ran
      cases ran
  | ok loading =>
      obtain ⟨result, after, events⟩ := loading
      rcases AddressSpace.load_effect loaded with
        ⟨error, failed, grown, readable⟩ | ⟨header, order, space, read, made, holds⟩
      · cases failed
        rw [run_exec_of_failure loaded] at ran
        cases ran
        exact Or.inl ⟨error, after, rfl, grown, rfl, rfl, readable⟩
      · cases made
        have bounded := holds.backed.bytes_lt_limit scheduler.kernel.machine.usable
        obtain ⟨later, course⟩ := run_exec_of_space name loaded bounded
        rw [course] at ran
        cases ran
        exact Or.inr ⟨header, order, space, after, read, holds, rfl, rfl⟩

theorem run_fork_of_idle (idle : scheduler.current = none) :
    fork.run scheduler = .ok ⟨.ok none, scheduler, []⟩ := by
  simp [fork, run_bind, idle, Except.map, Report.after]

section Fork

variable {parent : Process} (running : scheduler.current = some parent)
include running

theorem run_fork_of_space {space : AddressSpace} {after : Kernel geometry} {events : List Event}
    (copied : parent.space.fork.run scheduler.kernel = .ok ⟨.ok space, after, events⟩) :
    ∃ later, fork.run scheduler =
      .ok ⟨.ok (some ⟨scheduler.nextPid⟩), (scheduler.numbered after).admitted
        (scheduler.newcomer parent.name space (some after.machine.registers)), later⟩ := by
  refine ⟨events ++ [.forked parent.pid ⟨scheduler.nextPid⟩], ?_⟩
  simp [fork, run_bind, run_map, running, onKernel, run_within, copied, adopt, enqueue, admitted,
    queued, numbered, newcomer, Except.map, Report.after]

theorem run_fork_of_failure {error : BuildError} {after : Kernel geometry} {events : List Event}
    (refused : parent.space.fork.run scheduler.kernel = .ok ⟨.error error, after, events⟩) :
    fork.run scheduler = .ok ⟨.error error, { scheduler with kernel := after }, events⟩ := by
  simp [fork, run_bind, running, onKernel, run_within, refused, Except.map, Report.after]

theorem run_fork_of_crash {cause : Crash}
    (crashed : parent.space.fork.run scheduler.kernel = .error cause) :
    fork.run scheduler = .error cause := by
  simp [fork, run_bind, running, onKernel, run_within, crashed, Except.map]

/-- A fork that returns either failed with its copy and changed nothing, or queued a process with a
copy of the running space and of the registers. -/
theorem fork_cases {report : Report (Scheduler geometry) BuildError (Option Pid)}
    (ran : fork.run scheduler = .ok report) :
    (∃ error,
        parent.space.fork.run scheduler.kernel =
          .ok ⟨.error error, scheduler.kernel, report.events⟩ ∧
        report.result = .error error ∧ report.state = scheduler) ∨
      ∃ space after, AddressSpace.Built scheduler.kernel after space ∧
        space.pages = parent.space.pages ∧
        (∀ offset < space.pages * geometry.pageSize,
          space.byteAt? after offset = parent.space.byteAt? scheduler.kernel offset) ∧
        report.result = .ok (some ⟨scheduler.nextPid⟩) ∧
        report.state = (scheduler.numbered after).admitted
          (scheduler.newcomer parent.name space (some scheduler.kernel.machine.registers)) := by
  cases copied : parent.space.fork.run scheduler.kernel with
  | error cause =>
      rw [run_fork_of_crash running copied] at ran
      cases ran
  | ok copying =>
      obtain ⟨result, after, events⟩ := copying
      rcases AddressSpace.fork_effect copied with
        ⟨error, failed, kept⟩ | ⟨space, made, built, pages, bytes⟩
      · cases failed
        cases kept
        rw [run_fork_of_failure running copied] at ran
        cases ran
        exact Or.inl ⟨error, rfl, rfl, rfl⟩
      · cases made
        obtain ⟨later, course⟩ := run_fork_of_space running copied
        rw [course, built.registers] at ran
        cases ran
        exact Or.inr ⟨space, after, built, pages, bytes, rfl, rfl⟩

end Fork

end Scheduler

end PagedKernel
