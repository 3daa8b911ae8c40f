import Mathlib.Logic.Function.Iterate
import PagedKernel.Proofs.Scheduling.Records

/-!
Contract: the queue under yields that follow each other.

Owns:
- a process as it waits once it has registers (`Process.settled`);
- the scheduler after yields that pass the machine along the queue
  (`Scheduler.iterate_yielded_given`), by induction on the part of the queue
  that they pass;
- a full round, after which the first process has the machine again
  (`Scheduler.iterate_yielded_round`), and what it leaves of any scheduler that
  occurrences lead to (`Scheduler.Returned`);
- what no yield touches (`Kernel.Undisturbed`).

The invariant of the rotation is that the scheduler is one that was just given
to some process, whose registers are those in the machine.

Does not own: how a scheduler came to its processes (`Scheduling.Records`).
-/

namespace PagedKernel

open PagedKernel.Action

variable {geometry : Geometry}

/-- The process as it waits with the registers with which it goes on, or starts. -/
def Process.settled (pageSize : Nat) (process : Process) : Process :=
  { process with saved := some (process.resumed pageSize) }

namespace Process

variable {process : Process}

/-- A process that has registers waits with them. -/
theorem settled_of_saved {pageSize : Nat} (saved : process.saved ≠ none) :
    process.settled pageSize = process := by
  obtain ⟨registers, held⟩ := Option.ne_none_iff_exists'.mp saved
  rw [settled, resumed, held, Option.getD_some, ← held]

/-- A process without registers waits with those that its space starts with. -/
theorem settled_of_unsaved {ε : Type} {kernel : Kernel geometry} (saved : process.saved = none)
    (bounded : process.space.pages * geometry.pageSize < Size.limit) :
    ∃ report, (process.space.initRegisters : Action (Kernel geometry) ε Unit).run kernel =
        .ok report ∧
      process.settled geometry.pageSize =
        { process with saved := some report.state.machine.registers } := by
  obtain ⟨events, ran⟩ := Scheduler.run_restoreRegisters (ε := ε) kernel process bounded
  simp only [Scheduler.restoreRegisters, saved] at ran
  exact ⟨_, ran, rfl⟩

end Process

/-- Memory, the frames and all tables are the same. -/
structure Kernel.Undisturbed (before after : Kernel geometry) : Prop where
  memory : after.machine.memory = before.machine.memory
  frames : after.frames = before.frames
  tables : after.tables = before.tables

theorem Kernel.Undisturbed.refl (kernel : Kernel geometry) : kernel.Undisturbed kernel :=
  ⟨rfl, rfl, rfl⟩

theorem Kernel.Undisturbed.trans {first second third : Kernel geometry}
    (earlier : first.Undisturbed second) (later : second.Undisturbed third) :
    first.Undisturbed third :=
  ⟨later.memory.trans earlier.memory, later.frames.trans earlier.frames,
    later.tables.trans earlier.tables⟩

namespace Scheduler

variable {scheduler : Scheduler geometry} {process next : Process} {front back : List Process}

/-! ### One yield -/

theorem undisturbed_yielded (scheduler : Scheduler geometry) :
    scheduler.kernel.Undisturbed scheduler.yielded.kernel := by
  cases queue : scheduler.ready with
  | nil =>
      rw [yielded_of_nil queue]
      exact .refl _
  | cons next rest =>
      rw [yielded_of_cons queue]
      exact ⟨rfl, rfl, rfl⟩

/-- A process that waits and is given the machine waits with the same registers once it gives way.
The next one takes its place, and nothing else is left of it. -/
theorem yielded_given (waiting : process.state = .ready) :
    (given { scheduler with ready := next :: back } process).yielded =
      given { scheduler with ready := back ++ [process.settled geometry.pageSize] } next := by
  have suspended : suspend process.dispatched (process.resumed geometry.pageSize) =
      process.settled geometry.pageSize := by
    simp only [suspend, Process.dispatched, Process.settled, ← waiting]
  rw [yielded_of_cons rfl, ← suspended]
  rfl

/-! ### Several yields -/

/-- Yields that pass the machine along the front of the queue to the one behind it. -/
theorem iterate_yielded_given (waiting : ∀ member ∈ process :: front, member.state = .ready) :
    yielded^[front.length + 1] (given { scheduler with ready := front ++ next :: back } process) =
      given { scheduler with
        ready := back ++ (process :: front).map (·.settled geometry.pageSize) } next := by
  induction front generalizing process back with
  | nil => exact yielded_given (waiting process List.mem_cons_self)
  | cons first others inductionHypothesis =>
      obtain ⟨here, later⟩ := List.forall_mem_cons.mp waiting
      rw [List.length_cons, Function.iterate_succ_apply, List.cons_append, yielded_given here,
        List.append_assoc, List.cons_append, inductionHypothesis later]
      simp only [List.map_cons, List.append_assoc, List.singleton_append]

/-- A process that has the machine gets it back after as many yields as there are processes, and the
others stand where they stood. -/
theorem iterate_yielded_round (waiting : ∀ member ∈ process :: scheduler.ready,
      member.state = .ready) (queue : scheduler.ready ≠ []) :
    yielded^[scheduler.ready.length + 1] (scheduler.given process) =
      given { scheduler with ready := scheduler.ready.map (·.settled geometry.pageSize) }
        (process.settled geometry.pageSize) := by
  obtain ⟨next, rest, ready⟩ := List.exists_cons_of_ne_nil queue
  rw [ready] at waiting ⊢
  obtain ⟨here, later⟩ := List.forall_mem_cons.mp waiting
  have begun : (scheduler.given process).yielded =
      given { scheduler with ready := rest ++ [process.settled geometry.pageSize] } next := by
    rw [← yielded_given here, ← ready]
  rw [List.length_cons, Function.iterate_succ_apply, begun, iterate_yielded_given later,
    List.nil_append]

/-- A yield treats a running process like one that waited with the registers of the machine and was
given it again. -/
theorem yielded_of_running {running : Process} (current : scheduler.current = some running)
    (queue : scheduler.ready ≠ []) :
    scheduler.yielded =
      (scheduler.given (suspend running scheduler.kernel.machine.registers)).yielded := by
  obtain ⟨next, rest, ready⟩ := List.exists_cons_of_ne_nil queue
  have rotation : scheduler.rotated rest =
      (scheduler.given (suspend running scheduler.kernel.machine.registers)).rotated rest := by
    rw [rotated, current]
    rfl
  rw [yielded_of_cons ready, rotation, yielded_of_cons]
  · rfl
  · exact ready

/-- A full round leaves the running process and the order of the queue. The registers of those that
had none are now those with which they start, and the machine translates through the table of the
running process, as it does unless somebody from outside installed another. -/
theorem iterate_yielded_eq {past : History geometry} (recorded : Recorded past scheduler)
    (sound : scheduler.Sound) : ∃ installed,
      yielded^[scheduler.ready.length + 1] scheduler =
        { scheduler with
          kernel := {
            scheduler.kernel with
            machine := { scheduler.kernel.machine with installed } }
          ready := scheduler.ready.map (·.settled geometry.pageSize) } ∧
      (scheduler.InContext → installed = scheduler.kernel.machine.installed) := by
  by_cases queue : scheduler.ready = []
  · refine ⟨scheduler.kernel.machine.installed, ?_, fun _ => rfl⟩
    rw [queue, List.length_nil, Function.iterate_one, yielded_of_nil queue, List.map_nil, ← queue]
  · cases current : scheduler.current with
    | none => exact absurd (sound.idle current) queue
    | some running =>
        obtain ⟨state, saved, -⟩ := recorded.running running current
        let suspended := suspend running scheduler.kernel.machine.registers
        have waiting : ∀ member ∈ suspended :: scheduler.ready, member.state = .ready :=
          List.forall_mem_cons.mpr ⟨rfl, fun member inside => (recorded.waiting member inside).1⟩
        have resumed : suspended.dispatched = running := by
          simp only [suspended, suspend, Process.dispatched, ← state, ← saved]
        refine ⟨some ⟨running.space.table, running.space.pages⟩, ?_, ?_⟩
        · rw [Function.iterate_succ_apply, yielded_of_running current queue,
            ← Function.iterate_succ_apply, iterate_yielded_round waiting queue, given]
          have same : { suspended.settled geometry.pageSize with state := .running, saved := none } =
              running := resumed
          rw [same]
          rfl
        · exact fun context => (context running current).symm

/-! ### Rounds -/

/-- Yields that follow each other, each of which comes to an end and touches nothing but the
processes. -/
theorem course_of_yields (sound : scheduler.Sound) (count : Nat) : ∃ turns,
    Course step scheduler turns (yielded^[count] scheduler) ∧
      turns.map (·.command) = List.replicate count .yield ∧
      ∀ turn ∈ turns, turn.report.result = .ok .done ∧
        scheduler.kernel.Undisturbed turn.report.state.kernel := by
  induction count generalizing scheduler with
  | zero => exact ⟨[], .nil, rfl, fun _ member => nomatch member⟩
  | succ count inductionHypothesis =>
      obtain ⟨events, ran⟩ := run_step_yield sound
      obtain ⟨later, course, taken, calm⟩ := inductionHypothesis (sound_yielded sound)
      have undisturbed := scheduler.undisturbed_yielded
      refine ⟨⟨.yield, _⟩ :: later, course.cons ran, ?_, ?_⟩
      · rw [List.map_cons, taken, List.replicate_succ]
      · refine List.forall_mem_cons.mpr ⟨⟨rfl, undisturbed⟩, ?_⟩
        intro turn member
        exact ⟨(calm turn member).1, undisturbed.trans (calm turn member).2⟩

/-- A scheduler after as many yields as it has processes, and what came of it.

No yield on the way touches memory, the frames or a table. At the end the same process runs, with
its registers in the machine, and the same processes wait in the same order. The whole kernel is as
it was, unless somebody from outside had installed a table other than that of the running process.
The only trace of the round is in the processes that were started from files and had not had the
machine: they wait with the registers that their spaces start with. All others, among them copies of
other processes that have not had the machine either, wait with the registers that they had. -/
structure Returned (past : History geometry) (scheduler : Scheduler geometry)
    (round : Past geometry) (final : Scheduler geometry) : Prop where
  calm : ∀ turn ∈ round, turn.report.result = .ok .done ∧
    scheduler.kernel.Undisturbed turn.report.state.kernel
  undisturbed : scheduler.kernel.Undisturbed final.kernel
  registers : final.kernel.machine.registers = scheduler.kernel.machine.registers
  kernel : (∀ turn ∈ past, turn.command.Steady) → final.kernel = scheduler.kernel
  current : final.current = scheduler.current
  nextPid : final.nextPid = scheduler.nextPid
  length : final.ready.length = scheduler.ready.length
  kept : ∀ (position : Nat) (process : Process), scheduler.ready[position]? = some process →
    ¬ (Loaded past process.pid ∧ ¬ Ran past process.pid) →
      final.ready[position]? = some process
  started : ∀ (position : Nat) (process : Process), scheduler.ready[position]? = some process →
    Loaded past process.pid → ¬ Ran past process.pid →
      ∃ report, (process.space.initRegisters : Action (Kernel geometry) Failure Unit).run
          scheduler.kernel = .ok report ∧
        final.ready[position]? =
          some { process with saved := some report.state.machine.registers }

/-- As many yields as there are processes bring a scheduler back, whatever happened to it before. -/
theorem yields_return {kernel : Kernel geometry} {nextPid : Nat} {past : History geometry}
    (course : Course occur { kernel, nextPid } past scheduler) :
    ∃ round final, Course step scheduler round final ∧
      round.map (·.command) = List.replicate (scheduler.ready.length + 1) .yield ∧
      Returned past scheduler round final := by
  have sound := (accounted_of_course rfl rfl course).1
  have recorded := recorded_of_course rfl rfl course
  obtain ⟨round, yields, taken, calm⟩ := course_of_yields sound (scheduler.ready.length + 1)
  obtain ⟨installed, final, context⟩ := iterate_yielded_eq recorded sound
  rw [final] at yields
  refine ⟨round, _, yields, taken, ?_⟩
  constructor
  case calm => exact calm
  case undisturbed => exact ⟨rfl, rfl, rfl⟩
  case registers => rfl
  case kernel =>
    intro steady
    rw [context (inContext_of_course rfl rfl course steady)]
  case current => rfl
  case nextPid => rfl
  case length => exact List.length_map _
  case kept =>
    intro position process found old
    have saved : process.saved ≠ none := by
      rw [Ne, (recorded.waiting process (List.mem_of_getElem? found)).2]
      exact old
    rw [List.getElem?_map, found, Option.map_some, Process.settled_of_saved saved]
  case started =>
    intro position process found loaded unrun
    have member := List.mem_of_getElem? found
    have saved := (recorded.waiting process member).2.mpr ⟨loaded, unrun⟩
    obtain ⟨report, ran, settled⟩ :=
      Process.settled_of_unsaved saved (sound.bytes_lt_limit process member)
    refine ⟨report, ran, ?_⟩
    rw [List.getElem?_map, found, Option.map_some, settled]

/-- A process waits for its first run, and a copy of the running one joins it, with a register that
its program has set. Memory is changed from outside. -/
def gathering : List (Occurrence { pageSize := 4, frames := 6, stackSize := 4 }) :=
  [.command (.exec "first" headerImage), .command (.exec "second" headerImage),
    .command (.access (.writeRegister Registers.counter 12)), .command .fork,
    .outside (fun kernel => { kernel with machine := kernel.machine.fillMemory 0xaa }) 0]

theorem yields_return_gathering :
    ∃ past scheduler round final,
      Course occur { kernel := AddressSpace.smallKernel } past scheduler ∧
      past.map (·.command) = gathering ∧
      scheduler.ready.map (fun process => (process.pid, process.saved.isSome)) =
        [(⟨2⟩, false), (⟨3⟩, true)] ∧
      Course step scheduler round final ∧
      round.map (·.command) = [.yield, .yield, .yield] ∧
      Returned past scheduler round final ∧ final.kernel = scheduler.kernel := by
  have shown : (runAll occur { kernel := AddressSpace.smallKernel } gathering).toOption.map
      (fun ended => ended.1.ready.map fun process => (process.pid, process.saved.isSome)) =
        some [(⟨2⟩, false), (⟨3⟩, true)] := by
    decide +kernel
  obtain ⟨⟨scheduler, results⟩, ran, waiting⟩ := exists_of_seen shown
  obtain ⟨past, course, taken, -⟩ := course_of_runAll ran
  obtain ⟨round, final, yields, asked, returned⟩ := yields_return course
  have two : scheduler.ready.length = 2 := by simpa using congrArg List.length waiting
  rw [two] at asked
  have steady : ∀ occurrence ∈ gathering, occurrence.Steady := by
    simp [gathering, Occurrence.Steady, Machine.fillMemory]
  refine ⟨past, scheduler, round, final, course, taken, waiting, yields, asked, returned, ?_⟩
  apply returned.kernel
  intro turn member
  exact steady _ (taken ▸ List.mem_map_of_mem member)

/-- A copy of the running process waits, with a register that its program has set. -/
def branching : List (Occurrence { pageSize := 4, frames := 6, stackSize := 4 }) :=
  [.command (.exec "first" headerImage), .command (.access (.writeRegister Registers.counter 12)),
    .command .fork]

/-- A copy that has not had the machine keeps the registers copied with it over a round, which are
not those that its space starts with. A table that was taken from the machine from outside is back
after a round. -/
theorem yields_return_branching :
    (∃ past scheduler child, Course occur { kernel := AddressSpace.smallKernel } past scheduler ∧
      past.map (·.command) = branching ∧ scheduler.ready = [child] ∧ ¬ Ran past child.pid ∧
      ∃ fresh final results waiting,
        (child.space.initRegisters : Action _ Failure Unit).run scheduler.kernel = .ok fresh ∧
        runAll step scheduler [.yield, .yield] = .ok (final, results) ∧
        final.ready = [waiting] ∧ waiting.pid = child.pid ∧
        waiting.saved ≠ some fresh.state.machine.registers) ∧
    ∃ past scheduler final results,
      Course occur { kernel := AddressSpace.smallKernel } past scheduler ∧
      past.map (·.command) = branching ++
        [.outside (fun kernel => { kernel with machine := kernel.machine.uninstall }) 0] ∧
      scheduler.ready.length = 1 ∧
      runAll step scheduler [.yield, .yield] = .ok (final, results) ∧
      final.kernel.machine.installed ≠ scheduler.kernel.machine.installed := by
  constructor
  · have shown : (trace occur { kernel := AddressSpace.smallKernel } branching).toOption.map
        (fun traced => (traced.1.map (·.report.state.current.map (·.pid)),
          traced.2.ready.map fun child => (child.pid,
            ((child.space.initRegisters : Action _ Failure Unit).run traced.2.kernel).toOption.map
              (·.state.machine.registers[34])))) =
        some ([some ⟨1⟩, some ⟨1⟩, some ⟨1⟩], [(⟨2⟩, some 0)]) := by
      decide +kernel
    have rounded : ((trace occur { kernel := AddressSpace.smallKernel } branching).bind
        fun traced => runAll step traced.2 [.yield, .yield]).toOption.map
          (fun ended => ended.1.ready.map fun waiting => (waiting.pid, waiting.saved.map (·[34]))) =
        some [(⟨2⟩, some 12)] := by
      decide +kernel
    obtain ⟨⟨past, scheduler⟩, traced, seen⟩ := exists_of_seen shown
    obtain ⟨course, taken⟩ := course_of_trace traced
    rw [traced] at rounded
    obtain ⟨⟨final, results⟩, ran, settled⟩ := exists_of_seen rounded
    obtain ⟨runners, waiters⟩ := Prod.mk.inj seen
    obtain ⟨child, ready, started⟩ := List.map_eq_singleton_iff.mp waiters
    obtain ⟨pid, register⟩ := Prod.mk.inj started
    obtain ⟨waiting, waits, holds⟩ := List.map_eq_singleton_iff.mp settled
    obtain ⟨fresh, begun, zero⟩ := exists_of_seen register
    obtain ⟨same, twelve⟩ := Prod.mk.inj holds
    have unrun : ¬ Ran past child.pid := by
      rintro ⟨turn, member, process, current, number⟩
      have runner := List.mem_map_of_mem (f := (·.report.state.current.map (·.pid))) member
      rw [runners, current, Option.map_some, number, pid] at runner
      simp at runner
    refine ⟨past, scheduler, child, course, taken, ready, unrun, fresh, final, results, waiting,
      begun, ran, waits, same.trans pid.symm, ?_⟩
    intro saved
    rw [saved, Option.map_some, zero] at twelve
    simp at twelve
  · have shown : (runAll occur { kernel := AddressSpace.smallKernel } (branching ++
        [.outside (fun kernel => { kernel with machine := kernel.machine.uninstall }) 0])
        ).toOption.map (fun ended => (ended.1.ready.length, ended.1.kernel.machine.installed,
          (runAll step ended.1 [.yield, .yield]).toOption.map
            (·.1.kernel.machine.installed.isSome))) =
        some (1, none, some true) := by
      decide +kernel
    obtain ⟨⟨scheduler, results⟩, ran, seen⟩ := exists_of_seen shown
    obtain ⟨past, course, taken, -⟩ := course_of_runAll ran
    obtain ⟨one, seen⟩ := Prod.mk.inj seen
    obtain ⟨removed, rounded⟩ := Prod.mk.inj seen
    obtain ⟨⟨final, answers⟩, yields, back⟩ := exists_of_seen rounded
    refine ⟨past, scheduler, final, answers, course, taken, one, yields, ?_⟩
    intro same
    rw [same, removed] at back
    simp at back

end Scheduler

end PagedKernel
