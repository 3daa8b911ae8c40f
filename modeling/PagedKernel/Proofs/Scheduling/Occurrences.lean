import PagedKernel.Proofs.Scheduling.Chronicle

/-!
Contract: what anything that happens does to the processes of a scheduler.

Owns:
- commands, and changes from outside the scheduler (`Scheduler.Occurrence`);
- the part of the order of a scheduler that no change from outside can break
  (`Scheduler.Sound`);
- every way in which an occurrence moves the processes (`Scheduler.Advance`).

Nothing here depends on what the machine, the frames or the tables hold, so all
of it is true of a scheduler whose kernel is changed behind its back.

Does not own: where the processes are after many occurrences
(`Scheduling.Fairness`).
-/

namespace PagedKernel

open PagedKernel.Action

variable {geometry : Geometry}

/-- The process as it has the machine. -/
def Process.dispatched (process : Process) : Process :=
  { process with state := .running, saved := none }

namespace Scheduler

variable {scheduler after : Scheduler geometry} {process : Process}

/-! ### Occurrences -/

/-- A command to the scheduler, or a change from outside: of the kernel, in any way, and of the
next process number, which can only grow. -/
inductive Occurrence (geometry : Geometry) where
  | command (command : Command)
  | outside (change : Kernel geometry → Kernel geometry) (numbers : Nat)

def occur : Occurrence geometry → Action (Scheduler geometry) Failure Answer
  | .command command => step command
  | .outside change numbers => do
      update fun scheduler =>
        { scheduler with
          kernel := change scheduler.kernel
          nextPid := scheduler.nextPid + numbers }
      return .done

namespace Occurrence

/-- The occurrence is a `yield` or an `exit`. -/
def Switches : Occurrence geometry → Prop
  | .command .yield => True
  | .command .exit => True
  | _ => False

instance (occurrence : Occurrence geometry) : Decidable occurrence.Switches :=
  match occurrence with
  | .command .yield | .command .exit => .isTrue trivial
  | .command (.exec _ _) | .command .fork | .command (.access _) | .outside _ _ => .isFalse id

/-- The process that the occurrence made, by its answer. -/
def created? : Occurrence geometry → Except Failure Answer → Option Pid
  | .command asked, result => Scheduler.created? asked result
  | .outside _ _, _ => none

/-- The process that the occurrence ended, by its answer. -/
def ended? : Occurrence geometry → Except Failure Answer → Option Pid
  | .command .exit, .ok (.process pid) => some pid
  | _, _ => none

theorem ended?_of_not_switches {occurrence : Occurrence geometry} {result : Except Failure Answer}
    (passive : ¬ occurrence.Switches) : occurrence.ended? result = none := by
  unfold ended?
  split
  · exact absurd trivial passive
  · rfl

end Occurrence

/-! ### Soundness -/

/-- Nothing waits for an idle machine, and no process has more pages than the machine. -/
structure Sound (scheduler : Scheduler geometry) : Prop where
  idle : scheduler.current = none → scheduler.ready = []
  sized : ∀ tenant ∈ scheduler.tenants, tenant.space.pages ≤ geometry.frames

theorem Sound.bytes_lt_limit (sound : scheduler.Sound) : ∀ process ∈ scheduler.ready,
    process.space.pages * geometry.pageSize < Size.limit := by
  intro process member
  apply scheduler.kernel.machine.usable.run_lt_limit
  exact sound.sized process.tenant (List.mem_map_of_mem (List.mem_append_right _ member))

theorem sound_of_empty (idle : scheduler.current = none) (empty : scheduler.ready = []) :
    scheduler.Sound where
  idle := fun _ => empty
  sized := by
    rw [tenants_of_idle idle, empty]
    exact fun _ member => nomatch member

/-! ### Advances -/

/-- What an occurrence gave and left, by what it did to the processes. -/
inductive Advance (scheduler : Scheduler geometry) :
    Occurrence geometry → Except Failure Answer → Scheduler geometry → Prop where
  | kept {occurrence : Occurrence geometry} {result : Except Failure Answer}
      {kernel : Kernel geometry} {nextPid : Nat} (passive : ¬ occurrence.Switches)
      (unmade : occurrence.created? result = none) (counted : scheduler.nextPid ≤ nextPid) :
      Advance scheduler occurrence result { scheduler with kernel, nextPid }
  | joined {occurrence : Occurrence geometry} {result : Except Failure Answer}
      {kernel : Kernel geometry} {newcomer : Process} (passive : ¬ occurrence.Switches)
      (made : occurrence.created? result = some newcomer.pid)
      (numbered : newcomer.pid = ⟨scheduler.nextPid⟩)
      (sized : newcomer.space.pages ≤ geometry.frames) :
      Advance scheduler occurrence result ((scheduler.numbered kernel).admitted newcomer)
  | yielded : Advance scheduler (.command .yield) (.ok .done) scheduler.yielded
  | exitIdle (idle : scheduler.current = none) :
      Advance scheduler (.command .exit) (.ok .idle) scheduler
  | exited {finished : Process} (running : scheduler.current = some finished) :
      Advance scheduler (.command .exit) (.ok (.process finished.pid)) scheduler.vacated

section Step

variable {report : Report (Scheduler geometry) Failure Answer}

theorem advance_of_shift {command : Command} {result : Except Failure Answer}
    (shift : Shift scheduler command result after) :
    Advance scheduler (.command command) result after := by
  cases shift with
  | @kept _ _ kernel stays unmade =>
      have passive : ¬ (Occurrence.command command : Occurrence geometry).Switches := by
        cases command <;> simp_all [Occurrence.Switches]
      have uncreated : Scheduler.created? command result = none := by
        unfold created?
        split <;> simp_all
      exact .kept passive uncreated (Nat.le_refl _)
  | executed sized => exact .joined id rfl rfl sized
  | forked sized => exact .joined id rfl rfl sized
  | yielded => exact .yielded
  | exitIdle idle => exact .exitIdle idle
  | exited running => exact .exited running

/-- Everything that happens to a sound scheduler advances it. -/
theorem advance_of_occur (sound : scheduler.Sound) {occurrence : Occurrence geometry}
    (ran : (occur occurrence).run scheduler = .ok report) :
    Advance scheduler occurrence report.result report.state := by
  cases occurrence with
  | outside change numbers =>
      cases ran
      exact .kept id rfl (Nat.le_add_right _ _)
  | command command => exact advance_of_shift (shift_of_step sound.bytes_lt_limit ran)

end Step

/-! ### Soundness after an occurrence -/

variable {occurrence : Occurrence geometry} {result : Except Failure Answer}

theorem sound_admitted (sound : scheduler.Sound) (sized : process.space.pages ≤ geometry.frames) :
    (scheduler.admitted process).Sound where
  idle := by
    intro idle
    cases current : scheduler.current with
    | none =>
        rw [admitted_of_idle current] at idle
        cases idle
    | some running =>
        rw [admitted_of_running current] at idle
        cases current.symm.trans idle
  sized := by
    rw [tenants_admitted sound.idle]
    intro tenant member
    rcases List.mem_append.mp member with old | new
    · exact sound.sized tenant old
    · rw [List.mem_singleton.mp new]
      exact sized

theorem sound_yielded (sound : scheduler.Sound) : scheduler.yielded.Sound where
  idle := by
    intro idle
    cases queue : scheduler.ready with
    | nil =>
        rw [yielded_of_nil queue]
        exact queue
    | cons next rest =>
        rw [yielded_of_cons queue] at idle
        cases idle
  sized := fun tenant member =>
    sound.sized tenant (scheduler.tenants_yielded.mem_iff.mp member)

theorem sound_vacated (sound : scheduler.Sound) : scheduler.vacated.Sound where
  idle := by
    intro idle
    cases queue : scheduler.ready with
    | nil =>
        rw [vacated_of_nil queue]
        exact queue
    | cons next rest =>
        rw [vacated_of_cons queue] at idle
        cases idle
  sized := by
    rw [tenants_vacated]
    intro tenant member
    obtain ⟨process, waiting, rfl⟩ := List.mem_map.mp member
    exact sound.sized _ (List.mem_map_of_mem (List.mem_append_right _ waiting))

theorem sound_of_advance (sound : scheduler.Sound)
    (advance : Advance scheduler occurrence result after) : after.Sound := by
  cases advance with
  | kept => exact ⟨sound.idle, sound.sized⟩
  | joined _ _ _ sized => exact sound_admitted ⟨sound.idle, sound.sized⟩ sized
  | yielded => exact sound_yielded sound
  | exitIdle => exact sound
  | exited => exact sound_vacated sound

/-! ### The queue after an occurrence -/

section Moves

variable {running next : Process} {rest : List Process}

/-- Until the next switch the running process stays, and the queue grows at its end only. -/
theorem Advance.unswitched (advance : Advance scheduler occurrence result after)
    (passive : ¬ occurrence.Switches) (current : scheduler.current = some running) :
    after.current = some running ∧ scheduler.ready <+: after.ready := by
  cases advance with
  | kept => exact ⟨current, List.prefix_rfl⟩
  | @joined _ _ kernel =>
      have led : (scheduler.numbered kernel).current = some running := current
      rw [admitted_of_running led]
      exact ⟨current, List.prefix_append _ _⟩
  | yielded | exitIdle | exited => exact absurd trivial passive

/-- A switch gives the machine to the first of the queue, and moves the others up. -/
theorem Advance.switched (advance : Advance scheduler occurrence result after)
    (switches : occurrence.Switches) (current : scheduler.current = some running)
    (queue : scheduler.ready = next :: rest) :
    after.current = some next.dispatched ∧ rest <+: after.ready := by
  cases advance with
  | kept passive | joined passive => exact absurd switches passive
  | yielded =>
      rw [yielded_of_cons queue]
      exact ⟨rfl, List.prefix_append _ _⟩
  | exitIdle idle => cases idle.symm.trans current
  | exited =>
      rw [vacated_of_cons queue]
      exact ⟨rfl, List.prefix_rfl⟩

end Moves

end Scheduler

end PagedKernel
