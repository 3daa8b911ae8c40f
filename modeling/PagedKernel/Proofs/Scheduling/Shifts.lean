import PagedKernel.Proofs.Resolution
import PagedKernel.Proofs.Scheduling.Runs

/-!
Contract: what a command moves, in a scheduler on any kernel.

Owns:
- every way in which a command can return, by the processes that it moved and
  the table that the machine translates through (`Scheduler.Shift`);
- where the waiting processes after a command come from (`Scheduler.Origin`).

Nothing is asked of the kernel but room for the stacks of the waiting processes,
so all of it is true of a kernel that is changed behind the scheduler's back.

Does not own: what a command gave and did to memory (`Scheduling.Steps`).
-/

namespace PagedKernel

open PagedKernel.Action

variable {geometry : Geometry}

/-! ### The table in use -/

/-- No access changes which table the machine translates through. -/
theorem Kernel.installed_of_access {kernel : Kernel geometry} {request : Access}
    {report : Report (Kernel geometry) Exception Access.Answer}
    (ran : (Kernel.access request).run kernel = .ok report) :
    report.state.machine.installed = kernel.machine.installed := by
  cases named : request.address? with
  | some address =>
      obtain ⟨translated, course, -, same⟩ := Kernel.translate_of_access named ran
      rw [same]
      rcases Kernel.translate_cases course with ⟨-, kept⟩ | ⟨mapping, -, used⟩
      · rw [kept]
      · rw [used, Kernel.referenced]
  | none =>
      cases request with
      | translate | readWord | writeWord => cases named
      | readRegister index =>
          obtain ⟨inner, read, rfl⟩ := run_map_eq_ok ran
          rw [Kernel.readRegister, run_bind_of_ok (run_view _ kernel)] at read
          cases held : kernel.machine.registers[index]? with
          | none => simp [held, Except.map] at read
          | some value =>
              simp only [held] at read
              cases read
              rfl
      | writeRegister index value =>
          obtain ⟨inner, written, rfl⟩ := run_map_eq_ok ran
          rw [Kernel.writeRegister] at written
          by_cases inside : index < registerCount
          · rw [require_of inside] at written
            cases written
            rfl
          · rw [require_of_not inside] at written
            cases written

namespace Scheduler

variable {scheduler after : Scheduler geometry} {process : Process} {command : Command}
  {result : Except Failure Answer}

/-! ### The processes that a command moves -/

/-- What a command gave and left, by the processes that it moved. -/
inductive Shift (scheduler : Scheduler geometry) :
    Command → Except Failure Answer → Scheduler geometry → Prop where
  | kept {command : Command} {result : Except Failure Answer} {kernel : Kernel geometry}
      (stays : command ≠ .yield ∧ command ≠ .exit) (unmade : ∀ pid, result ≠ .ok (.process pid))
      (installed : kernel.machine.installed = scheduler.kernel.machine.installed) :
      Shift scheduler command result { scheduler with kernel }
  | executed {name : String} {file : File} {space : AddressSpace} {kernel : Kernel geometry}
      (sized : space.pages ≤ geometry.frames)
      (installed : kernel.machine.installed = scheduler.kernel.machine.installed) :
      Shift scheduler (.exec name file) (.ok (.process ⟨scheduler.nextPid⟩))
        ((scheduler.numbered kernel).admitted (scheduler.newcomer name space none))
  | forked {name : String} {space : AddressSpace} {registers : Registers}
      {kernel : Kernel geometry} (sized : space.pages ≤ geometry.frames)
      (installed : kernel.machine.installed = scheduler.kernel.machine.installed) :
      Shift scheduler .fork (.ok (.process ⟨scheduler.nextPid⟩))
        ((scheduler.numbered kernel).admitted (scheduler.newcomer name space (some registers)))
  | yielded : Shift scheduler .yield (.ok .done) scheduler.yielded
  | exitIdle (idle : scheduler.current = none) : Shift scheduler .exit (.ok .idle) scheduler
  | exited {finished : Process} (running : scheduler.current = some finished) :
      Shift scheduler .exit (.ok (.process finished.pid)) scheduler.vacated

theorem shift_of_step (bounded : ∀ process ∈ scheduler.ready,
      process.space.pages * geometry.pageSize < Size.limit)
    {report : Report (Scheduler geometry) Failure Answer}
    (ran : (step command).run scheduler = .ok report) :
    Shift scheduler command report.result report.state := by
  cases command with
  | exec name file =>
      obtain ⟨_, converted, rfl⟩ := run_map_eq_ok ran
      obtain ⟨inner, course, rfl⟩ := run_mapError_eq_ok converted
      rcases exec_cases course with
        ⟨error, after, -, grown, failed, reached, -⟩ |
        ⟨header, order, space, after, -, holds, made, reached⟩
      · simp only [failed, reached]
        exact .kept ⟨nofun, nofun⟩ nofun grown.installed
      · simp only [made, reached]
        exact .executed (Nat.le_trans (Nat.le_add_left _ _) holds.inside) holds.installed
  | fork =>
      obtain ⟨_, converted, rfl⟩ := run_map_eq_ok ran
      obtain ⟨inner, course, rfl⟩ := run_mapError_eq_ok converted
      cases current : scheduler.current with
      | none =>
          cases (run_fork_of_idle current).symm.trans course
          exact .kept ⟨nofun, nofun⟩ nofun rfl
      | some parent =>
          rcases fork_cases current course with
            ⟨error, -, failed, reached⟩ | ⟨space, after, built, -, -, made, reached⟩
          · simp only [failed, reached]
            exact .kept ⟨nofun, nofun⟩ nofun rfl
          · simp only [made, reached]
            exact .forked (Nat.le_trans (Nat.le_add_left _ _) built.inside) built.installed
  | yield =>
      obtain ⟨inner, course, rfl⟩ := run_map_eq_ok ran
      obtain ⟨events, yielding⟩ := run_yield (ε := Failure) bounded
      cases yielding.symm.trans course
      exact .yielded
  | exit =>
      obtain ⟨inner, course, rfl⟩ := run_map_eq_ok ran
      cases current : scheduler.current with
      | none =>
          cases (run_exit_of_idle current).symm.trans course
          exact .exitIdle current
      | some finished =>
          obtain ⟨events, exiting⟩ := run_exit_of_running (ε := Failure) current bounded
          cases exiting.symm.trans course
          exact .exited current
  | access request =>
      obtain ⟨_, converted, rfl⟩ := run_map_eq_ok ran
      obtain ⟨_, placed, rfl⟩ := run_mapError_eq_ok converted
      obtain ⟨inner, course, rfl⟩ := run_within_eq_ok placed
      refine .kept ⟨nofun, nofun⟩ ?_ (Kernel.installed_of_access course)
      cases inner.result <;> exact nofun

/-! ### Waiting processes after a command -/

/-- Where a process of the queue comes from: it waited before, it ran before, or it is new. Only a
process that was started from a file has no registers. -/
inductive Origin (scheduler : Scheduler geometry) :
    Command → Except Failure Answer → Process → Prop where
  | waited {command : Command} {result : Except Failure Answer} {process : Process}
      (member : process ∈ scheduler.ready) : Origin scheduler command result process
  | suspended {command : Command} {result : Except Failure Answer} {running : Process}
      (current : scheduler.current = some running) :
      Origin scheduler command result (suspend running scheduler.kernel.machine.registers)
  | executed {name : String} {file : File} {space : AddressSpace} :
      Origin scheduler (.exec name file) (.ok (.process ⟨scheduler.nextPid⟩))
        (scheduler.newcomer name space none)
  | forked {name : String} {space : AddressSpace} {registers : Registers} :
      Origin scheduler .fork (.ok (.process ⟨scheduler.nextPid⟩))
        (scheduler.newcomer name space (some registers))

theorem mem_ready_admitted {newcomer : Process}
    (member : process ∈ (scheduler.admitted newcomer).ready) :
    process ∈ scheduler.ready ∨ process = newcomer := by
  cases current : scheduler.current with
  | none =>
      rw [admitted_of_idle current] at member
      exact Or.inl member
  | some running =>
      rw [admitted_of_running current] at member
      exact (List.mem_append.mp member).imp id List.mem_singleton.mp

theorem mem_ready_yielded (member : process ∈ scheduler.yielded.ready) :
    process ∈ scheduler.ready ∨ ∃ running, scheduler.current = some running ∧
      process = suspend running scheduler.kernel.machine.registers := by
  cases queue : scheduler.ready with
  | nil =>
      rw [yielded_of_nil queue, queue] at member
      exact Or.inl member
  | cons next rest =>
      rw [yielded_of_cons queue] at member
      rcases List.mem_append.mp member with behind | suspended
      · exact Or.inl (List.mem_cons_of_mem next behind)
      · obtain ⟨running, current, rfl⟩ := Option.map_eq_some_iff.mp (Option.mem_toList.mp suspended)
        exact Or.inr ⟨running, current, rfl⟩

theorem mem_ready_vacated (member : process ∈ scheduler.vacated.ready) :
    process ∈ scheduler.ready := by
  cases queue : scheduler.ready with
  | nil =>
      rw [vacated_of_nil queue, queue] at member
      exact member
  | cons next rest =>
      rw [vacated_of_cons queue] at member
      exact List.mem_cons_of_mem next member

theorem Shift.origin (shift : Shift scheduler command result after)
    (member : process ∈ after.ready) : Origin scheduler command result process := by
  cases shift with
  | kept | exitIdle => exact .waited member
  | executed =>
      rcases mem_ready_admitted member with old | rfl
      · exact .waited old
      · exact .executed
  | forked =>
      rcases mem_ready_admitted member with old | rfl
      · exact .waited old
      · exact .forked
  | yielded =>
      rcases mem_ready_yielded member with old | ⟨running, current, rfl⟩
      · exact .waited old
      · exact .suspended current
  | exited => exact .waited (mem_ready_vacated member)

end Scheduler

end PagedKernel
