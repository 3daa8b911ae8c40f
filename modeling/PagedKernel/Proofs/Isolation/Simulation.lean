import Mathlib.Data.List.Forall2
import PagedKernel.Proofs.Isolation.Mirrors
import PagedKernel.Proofs.Scheduling.Steps

/-!
Contract: the scheduler behaves like a system of private processes.

Owns:
- when a scheduler is in the state of a private system (`Simulates`);
- the simulation after each change of the scheduler.

Does not own: the answers to commands (`Isolation.Refinement`).
-/

namespace PagedKernel

variable {geometry : Geometry} {before after : Kernel geometry} {process : Process}
  {resident : Resident geometry}

/-- The processes of the scheduler are in the state of those of the private system. -/
structure Simulates (scheduler : Scheduler geometry) (system : PrivateSystem geometry) : Prop where
  orderly : scheduler.Orderly
  nextPid : system.nextPid = scheduler.nextPid
  current : Option.Rel (Runs scheduler.kernel) scheduler.current system.current
  ready : List.Forall₂ (Waits scheduler.kernel) scheduler.ready system.ready

/-- The queue stays in its state as long as the bytes of its processes do. -/
theorem waits_kept {processes : List Process} {residents : List (Resident geometry)}
    (waits : List.Forall₂ (Waits before) processes residents)
    (same : ∀ process ∈ processes, ∀ offset < process.space.pages * geometry.pageSize,
      process.space.byteAt? after offset = process.space.byteAt? before offset) :
    List.Forall₂ (Waits after) processes residents := by
  induction waits with
  | nil => exact .nil
  | cons first rest inductionHypothesis =>
      refine .cons (first.kept (same _ List.mem_cons_self)) (inductionHypothesis ?_)
      intro process member
      exact same process (List.mem_cons_of_mem _ member)

namespace Simulates

variable {scheduler : Scheduler geometry} {system : PrivateSystem geometry}

theorem current_of_idle (simulates : Simulates scheduler system)
    (idle : scheduler.current = none) : system.current = none := by
  have related := simulates.current
  cases found : system.current with
  | none => rfl
  | some resident =>
      rw [idle, found] at related
      cases related

theorem current_of_running (simulates : Simulates scheduler system)
    (running : scheduler.current = some process) :
    ∃ resident, system.current = some resident ∧ Runs scheduler.kernel process resident := by
  have related := simulates.current
  cases found : system.current with
  | none =>
      rw [running, found] at related
      cases related
  | some resident =>
      rw [running, found] at related
      cases related with
      | some mirrors => exact ⟨resident, rfl, mirrors⟩

/-- The kernel grew, which no process notices. -/
theorem extended (simulates : Simulates scheduler system)
    (grown : scheduler.kernel.Extends after) :
    Simulates { scheduler with kernel := after } system where
  orderly := Scheduler.orderly_kept simulates.orderly grown.installed
    fun _ backed => backed.extended grown
  nextPid := simulates.nextPid
  current := by
    rcases Option.eq_none_or_eq_some scheduler.current with idle | ⟨process, running⟩
    · rw [idle, simulates.current_of_idle idle]
      exact .none
    · obtain ⟨resident, found, mirrors⟩ := simulates.current_of_running running
      have backed := (simulates.orderly.active running).backed
      rw [running, found]
      refine .some ?_
      rw [Runs, grown.registers]
      exact mirrors.kept fun offset inside => backed.byteAt?_extended grown inside
  ready := by
    apply waits_kept simulates.ready
    intro process member offset inside
    exact (simulates.orderly.backed (List.mem_append_right _ member)).byteAt?_extended grown inside

/-- A waiting process that gets the machine goes on as its private process. -/
theorem given (system : PrivateSystem geometry) (orderly : (scheduler.given process).Orderly)
    (nextPid : system.nextPid = scheduler.nextPid)
    (mirrors : Waits scheduler.kernel process resident)
    (ready : List.Forall₂ (Waits scheduler.kernel) scheduler.ready system.ready) :
    Simulates (scheduler.given process) { system with current := some resident } where
  orderly := orderly
  nextPid := nextPid
  current := .some ⟨mirrors.pid, mirrors.pages, mirrors.registers, mirrors.bytes⟩
  ready := waits_kept ready fun _ _ _ _ => rfl

theorem yielded (simulates : Simulates scheduler system) :
    Simulates scheduler.yielded system.rotate := by
  have orderly := Scheduler.orderly_yielded simulates.orderly
  have ready := simulates.ready
  cases queue : scheduler.ready with
  | nil =>
      rw [queue, List.forall₂_nil_left_iff] at ready
      rw [Scheduler.yielded_of_nil queue]
      simp only [PrivateSystem.rotate, ready]
      exact simulates
  | cons next rest =>
      rw [queue] at ready
      obtain ⟨resident, residents, mirrors, waits, found⟩ := List.forall₂_cons_left_iff.mp ready
      rw [Scheduler.yielded_of_cons queue] at orderly ⊢
      simp only [PrivateSystem.rotate, found]
      apply given { system with ready := residents ++ system.current.toList } orderly
        simulates.nextPid mirrors
      apply List.rel_append waits
      -- The process that gave way keeps the registers that the machine held for it.
      rcases Option.eq_none_or_eq_some scheduler.current with idle | ⟨process, running⟩
      · rw [idle, simulates.current_of_idle idle]
        exact .nil
      · obtain ⟨resident, current, mirrors⟩ := simulates.current_of_running running
        rw [running, current]
        exact .cons mirrors.suspended .nil

theorem vacated (simulates : Simulates scheduler system)
    (running : scheduler.current = some process) : Simulates scheduler.vacated system.leave := by
  have orderly := Scheduler.orderly_vacated simulates.orderly running
  have ready := simulates.ready
  cases queue : scheduler.ready with
  | nil =>
      rw [queue, List.forall₂_nil_left_iff] at ready
      rw [Scheduler.vacated_of_nil queue] at orderly ⊢
      simp only [PrivateSystem.leave, ready]
      exact ⟨orderly, simulates.nextPid, .none, by rw [queue]; exact .nil⟩
  | cons next rest =>
      rw [queue] at ready
      obtain ⟨resident, residents, mirrors, waits, found⟩ := List.forall₂_cons_left_iff.mp ready
      rw [Scheduler.vacated_of_cons queue] at orderly ⊢
      simp only [PrivateSystem.leave, found]
      exact given { system with ready := residents } orderly simulates.nextPid mirrors waits

/-- Without processes no change of the kernel is noticed, as long as no table is installed. -/
theorem idle (simulates : Simulates scheduler system) (idle : scheduler.current = none)
    (installed : after.machine.installed = none) :
    Simulates { scheduler with kernel := after } system := by
  have empty := (simulates.orderly.idle idle).1
  have ready := simulates.ready
  rw [empty, List.forall₂_nil_left_iff] at ready
  refine ⟨?_, simulates.nextPid, ?_, ?_⟩
  · rw [idle, empty]
    exact Scheduler.orderly_idle installed
  · rw [idle, simulates.current_of_idle idle]
    exact .none
  · rw [empty, ready]
    exact .nil

/-- A process of a space that was just built joins as its private process. -/
theorem admitted (simulates : Simulates scheduler system) {space : AddressSpace}
    (built : AddressSpace.Built scheduler.kernel after space) {name : String}
    {saved : Option Registers}
    (mirrors : Waits after (scheduler.newcomer name space saved) resident) :
    Simulates ((scheduler.numbered after).admitted (scheduler.newcomer name space saved))
      (system.receive resident) := by
  have orderly := Scheduler.orderly_admitted simulates.orderly built name saved
  have grown := simulates.extended built.toExtends
  have nextPid : system.nextPid + 1 = scheduler.nextPid + 1 := by rw [simulates.nextPid]
  rcases Option.eq_none_or_eq_some scheduler.current with idle | ⟨process, running⟩
  · have current : (scheduler.numbered after).current = none := idle
    rw [Scheduler.admitted_of_idle current] at orderly ⊢
    simp only [PrivateSystem.receive, simulates.current_of_idle idle]
    exact given { system with nextPid := system.nextPid + 1 } orderly nextPid mirrors grown.ready
  · obtain ⟨other, found, -⟩ := simulates.current_of_running running
    have current : (scheduler.numbered after).current = some process := running
    rw [Scheduler.admitted_of_running current] at orderly ⊢
    simp only [PrivateSystem.receive, found]
    refine ⟨orderly, nextPid, ?_, List.rel_append grown.ready (.cons mirrors .nil)⟩
    rw [← found]
    exact grown.current

theorem accessed (simulates : Simulates scheduler system)
    (running : scheduler.current = some process) {request : Access}
    {result : Except Exception Access.Answer}
    (outcome : Kernel.Outcome scheduler.kernel process.space request result after)
    (mirrors : Runs after process resident) :
    Simulates { scheduler with kernel := after } { system with current := some resident } := by
  have confined := Kernel.confined_of_outcome (simulates.orderly.active running) outcome
  refine ⟨Scheduler.orderly_kept simulates.orderly confined.installed confined.backed,
    simulates.nextPid, ?_, ?_⟩
  · rw [running]
    exact .some mirrors
  · apply waits_kept simulates.ready
    intro other member
    -- The bytes of a waiting process are apart from those of the running one.
    have apart := simulates.orderly.housed.apart
    rw [Scheduler.tenants_of_running running, List.pairwise_cons] at apart
    exact confined.byte other.space (apart.1 other.tenant (List.mem_map_of_mem member)).space

end Simulates

end PagedKernel
