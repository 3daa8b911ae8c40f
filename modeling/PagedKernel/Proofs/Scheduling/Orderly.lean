import Mathlib.Data.List.Nodup
import PagedKernel.Proofs.Access
import PagedKernel.Proofs.Scheduling.Runs

/-!
Contract: the states that a scheduler keeps to.

Owns:
- the numbers of processes, which differ as long as no more were counted than
  there are numbers;
- processes that share no count, table or frame (`Kernel.Houses`);
- the invariant of the scheduler (`Scheduler.Orderly`): every process has its
  frames to itself, the machine translates through the table of the running
  process, and nothing waits while nothing runs;
- the invariant after each change of the scheduler.

Does not own: which change a command makes (`Scheduling.Steps`).
-/

namespace PagedKernel

variable {geometry : Geometry} {before after : Kernel geometry}

/-! ### Numbers of processes -/

theorem Pid.eq_of_number_eq {pid other : Pid} {first past : Nat}
    (few : past ≤ first + UInt64.size) (within : first ≤ pid.serial ∧ pid.serial < past)
    (otherWithin : first ≤ other.serial ∧ other.serial < past) (same : pid.number = other.number) :
    pid = other := by
  obtain ⟨serial⟩ := pid
  obtain ⟨otherSerial⟩ := other
  simp only [Pid.number, Pid.mk.injEq, UInt64.size] at *
  omega

/-- Among as many places of the count as there are numbers, no two processes have the same. -/
theorem Pid.nodup_numbers {pids : List Pid} {first past : Nat} (few : past ≤ first + UInt64.size)
    (within : ∀ pid ∈ pids, first ≤ pid.serial ∧ pid.serial < past) (once : pids.Nodup) :
    (pids.map Pid.number).Nodup :=
  once.map_on fun pid member other otherMember =>
    eq_of_number_eq few (within pid member) (within other otherMember)

/-! ### Processes and their frames -/

/-- A process as the frames know it. -/
structure Tenant where
  pid : Pid
  space : AddressSpace

def Process.tenant (process : Process) : Tenant := ⟨process.pid, process.space⟩

structure Tenant.Apart (first second : Tenant) : Prop where
  pid : first.pid ≠ second.pid
  space : first.space.Apart second.space

theorem Tenant.Apart.symm {first second : Tenant} (apart : first.Apart second) :
    second.Apart first :=
  ⟨apart.pid.symm, apart.space.symm⟩

/-- Every tenant has its frames and its table, and shares them with no other. -/
structure Kernel.Houses (kernel : Kernel geometry) (tenants : List Tenant) : Prop where
  backed : ∀ tenant ∈ tenants, tenant.space.Backed kernel
  apart : tenants.Pairwise Tenant.Apart

namespace Kernel.Houses

variable {tenants others : List Tenant} {tenant : Tenant}

theorem nil : before.Houses [] where
  backed := fun _ member => nomatch member
  apart := List.Pairwise.nil

theorem perm (housed : before.Houses tenants) (same : tenants.Perm others) :
    before.Houses others where
  backed := by
    intro tenant member
    exact housed.backed tenant (same.mem_iff.mpr member)
  apart := (same.pairwise_iff Tenant.Apart.symm).mp housed.apart

theorem tail (housed : before.Houses (tenant :: tenants)) : before.Houses tenants where
  backed := by
    intro other member
    exact housed.backed other (List.mem_cons_of_mem tenant member)
  apart := housed.apart.of_cons

/-- Tenants stay housed as long as each of them keeps its frames and its table. -/
theorem kept (housed : before.Houses tenants)
    (backed : ∀ space : AddressSpace, space.Backed before → space.Backed after) :
    after.Houses tenants where
  backed := by
    intro tenant member
    exact backed tenant.space (housed.backed tenant member)
  apart := housed.apart

/-- A space that was just built can be let to another process. -/
theorem joined (housed : before.Houses tenants)
    (built : AddressSpace.Built before after tenant.space)
    (unused : ∀ other ∈ tenants, other.pid ≠ tenant.pid) : after.Houses (tenants ++ [tenant]) where
  backed := by
    intro other member
    rcases List.mem_append.mp member with old | new
    · exact (housed.backed other old).extended built.toExtends
    · rw [List.mem_singleton.mp new]
      exact built.backed
  apart := by
    rw [List.pairwise_append]
    refine ⟨housed.apart, List.pairwise_singleton _ _, ?_⟩
    intro other old new member
    rw [List.mem_singleton.mp member]
    exact ⟨unused other old, built.apart (housed.backed other old)⟩

end Kernel.Houses

/-! ### The invariant -/

/-- A new machine has no table to translate through. -/
theorem installed_of_create {machine : Machine geometry}
    (created : Machine.create geometry = .ok (.ok machine)) : machine.installed = none := by
  unfold Machine.create at created
  split at created
  · cases created
  · split at created
    · cases created
      rfl
    · simp [bind, Except.bind] at created
      split at created <;> cases created

namespace Scheduler

variable {scheduler : Scheduler geometry} {process : Process}

/-- The processes that have not ended, the running one first. -/
def live (scheduler : Scheduler geometry) : List Process :=
  scheduler.current.toList ++ scheduler.ready

def tenants (scheduler : Scheduler geometry) : List Tenant :=
  scheduler.live.map Process.tenant

structure Orderly (scheduler : Scheduler geometry) : Prop where
  housed : scheduler.kernel.Houses scheduler.tenants
  numbered : ∀ tenant ∈ scheduler.tenants, tenant.pid.serial < scheduler.nextPid
  idle : scheduler.current = none →
    scheduler.ready = [] ∧ scheduler.kernel.machine.installed = none
  running : ∀ process, scheduler.current = some process →
    scheduler.kernel.machine.installed = some ⟨process.space.table, process.space.pages⟩ ∧
      process.state = .running ∧ process.saved = none
  waiting : ∀ process ∈ scheduler.ready, process.state = .ready

theorem tenants_of_running (running : scheduler.current = some process) :
    scheduler.tenants = process.tenant :: scheduler.ready.map Process.tenant := by
  simp [tenants, live, running]

theorem tenants_of_idle (idle : scheduler.current = none) :
    scheduler.tenants = scheduler.ready.map Process.tenant := by
  simp [tenants, live, idle]

namespace Orderly

variable (orderly : scheduler.Orderly)
include orderly

theorem backed (live : process ∈ scheduler.live) : process.space.Backed scheduler.kernel :=
  orderly.housed.backed process.tenant (List.mem_map_of_mem live)

theorem serial_lt (live : process ∈ scheduler.live) :
    process.pid.serial < scheduler.nextPid :=
  orderly.numbered process.tenant (List.mem_map_of_mem live)

theorem bytes_lt_limit : ∀ process ∈ scheduler.ready,
    process.space.pages * geometry.pageSize < Size.limit := by
  intro process member
  have backed := orderly.backed (List.mem_append_right _ member)
  exact backed.bytes_lt_limit scheduler.kernel.machine.usable

/-- The end of a space can be recorded as long as the space has its frames. -/
theorem releasable : ∀ process ∈ scheduler.live,
    process.space.firstFrame + process.space.pages < Size.limit := by
  intro process live
  exact Nat.lt_of_le_of_lt (orderly.backed live).inside
    scheduler.kernel.machine.usable.frames_lt_limit

theorem nodup_pids : (scheduler.live.map (·.pid)).Nodup := by
  have apart := orderly.housed.apart
  rw [tenants, List.pairwise_map] at apart
  rw [List.Nodup, List.pairwise_map]
  exact apart.imp fun apart => apart.pid

theorem pid_ne {running : Process} (current : scheduler.current = some running)
    (member : process ∈ scheduler.ready) : running.pid ≠ process.pid := by
  have apart := orderly.housed.apart
  rw [tenants_of_running current, List.pairwise_cons] at apart
  exact (apart.1 process.tenant (List.mem_map_of_mem member)).pid

theorem active (running : scheduler.current = some process) :
    process.space.Active scheduler.kernel where
  backed := orderly.backed (by simp [live, running])
  installed := (orderly.running process running).1

end Orderly

/-! ### Changes that keep order -/

/-- Without processes there is nothing to keep but the idle machine. -/
theorem orderly_idle {kernel : Kernel geometry} {nextPid : Nat}
    (idle : kernel.machine.installed = none) :
    Orderly { kernel, current := none, ready := [], nextPid } where
  housed := .nil
  numbered := fun _ member => nomatch member
  idle := fun _ => ⟨rfl, idle⟩
  running := fun _ running => nomatch running
  waiting := fun _ member => nomatch member

theorem orderly_created {machine : Machine geometry}
    (created : Machine.create geometry = .ok (.ok machine)) (frames : FramePool) (nextPid : Nat) :
    (start machine frames nextPid).Orderly :=
  orderly_idle (installed_of_create created)

/-- A process of the queue that gets the machine leaves the scheduler in order. -/
theorem orderly_given
    (housed : scheduler.kernel.Houses (process.tenant :: scheduler.ready.map Process.tenant))
    (numbered : ∀ tenant ∈ process.tenant :: scheduler.ready.map Process.tenant,
      tenant.pid.serial < scheduler.nextPid)
    (waiting : ∀ other ∈ scheduler.ready, other.state = .ready) :
    (scheduler.given process).Orderly where
  housed := housed.kept fun _ backed => backed.congr rfl rfl
  numbered := numbered
  idle := fun idle => nomatch idle
  running := by
    intro other running
    cases running
    exact ⟨rfl, rfl, rfl⟩
  waiting := waiting

/-- The tenants of the queue and the rotated running process are the old ones. -/
theorem perm_rotated {next : Process} {rest : List Process}
    (ready : scheduler.ready = next :: rest) :
    scheduler.tenants.Perm (next.tenant :: (scheduler.rotated rest).map Process.tenant) := by
  have suspended : (scheduler.rotated rest).map Process.tenant =
      rest.map Process.tenant ++ scheduler.current.toList.map Process.tenant := by
    cases running : scheduler.current <;> simp [rotated, running, suspend, Process.tenant]
  rw [suspended, tenants, live, ready, List.map_append, List.map_cons]
  exact List.perm_append_comm

theorem tenants_given (scheduler : Scheduler geometry) (process : Process) :
    (scheduler.given process).tenants =
      process.tenant :: scheduler.ready.map Process.tenant := rfl

theorem tenants_yielded (scheduler : Scheduler geometry) :
    scheduler.yielded.tenants.Perm scheduler.tenants := by
  cases queue : scheduler.ready with
  | nil => rw [yielded_of_nil queue]
  | cons next rest =>
      rw [yielded_of_cons queue, tenants_given]
      exact (perm_rotated queue).symm

theorem tenants_vacated (scheduler : Scheduler geometry) :
    scheduler.vacated.tenants = scheduler.ready.map Process.tenant := by
  cases queue : scheduler.ready with
  | nil =>
      rw [vacated_of_nil queue, tenants_of_idle rfl]
      exact congrArg _ queue
  | cons next rest =>
      rw [vacated_of_cons queue, tenants_given]
      rfl

theorem tenants_queued (scheduler : Scheduler geometry) (process : Process) :
    (scheduler.queued process).tenants = scheduler.tenants ++ [process.tenant] := by
  simp [tenants, live, queued]

theorem tenants_admitted (idle : scheduler.current = none → scheduler.ready = []) :
    (scheduler.admitted process).tenants = scheduler.tenants ++ [process.tenant] := by
  cases current : scheduler.current with
  | none =>
      rw [admitted_of_idle current, tenants_given, tenants_of_idle current, idle current]
      rfl
  | some running => rw [admitted_of_running current, tenants_queued]

theorem orderly_yielded (orderly : scheduler.Orderly) : scheduler.yielded.Orderly := by
  cases queue : scheduler.ready with
  | nil =>
      rw [yielded_of_nil queue]
      exact orderly
  | cons next rest =>
      have same := perm_rotated queue
      rw [yielded_of_cons queue]
      apply orderly_given
      · exact orderly.housed.perm same
      · intro tenant member
        exact orderly.numbered tenant (same.mem_iff.mpr member)
      · intro other member
        rcases List.mem_append.mp member with behind | suspended
        · exact orderly.waiting other (by simp [queue, behind])
        · cases running : scheduler.current <;> simp [running] at suspended
          rw [suspended]
          rfl

theorem orderly_vacated (orderly : scheduler.Orderly) (running : scheduler.current = some process) :
    scheduler.vacated.Orderly := by
  have tenants := tenants_of_running running
  have housed := orderly.housed
  cases queue : scheduler.ready with
  | nil =>
      rw [vacated_of_nil queue, queue]
      exact orderly_idle rfl
  | cons next rest =>
      rw [queue] at tenants
      rw [tenants] at housed
      rw [vacated_of_cons queue]
      apply orderly_given
      · exact housed.tail
      · intro tenant member
        apply orderly.numbered
        rw [tenants]
        exact List.mem_cons_of_mem _ member
      · intro other member
        exact orderly.waiting other (by simp [queue, member])

/-- A process in a space that was just built leaves the scheduler in order, whether it starts at
once or waits. -/
theorem orderly_admitted (orderly : scheduler.Orderly) {space : AddressSpace}
    (built : AddressSpace.Built scheduler.kernel after space) (name : String)
    (saved : Option Registers) :
    ((scheduler.numbered after).admitted (scheduler.newcomer name space saved)).Orderly := by
  let newcomer := scheduler.newcomer name space saved
  -- Every process was counted before the next one, which is therefore new.
  have unused : ∀ other ∈ scheduler.tenants, other.pid ≠ newcomer.tenant.pid := by
    intro other member same
    have below := orderly.numbered other member
    rw [same] at below
    exact Nat.lt_irrefl _ below
  have housed : after.Houses (scheduler.tenants ++ [newcomer.tenant]) :=
    orderly.housed.joined built unused
  have numbered : ∀ tenant ∈ scheduler.tenants ++ [newcomer.tenant],
      tenant.pid.serial < scheduler.nextPid + 1 := by
    intro tenant member
    rcases List.mem_append.mp member with old | new
    · exact Nat.lt_succ_of_lt (orderly.numbered tenant old)
    · rw [List.mem_singleton.mp new]
      exact Nat.lt_succ_self _
  cases current : scheduler.current with
  | none =>
      have empty := (orderly.idle current).1
      rw [tenants_of_idle current, empty] at housed numbered
      have idle : (scheduler.numbered after).current = none := current
      rw [admitted_of_idle idle]
      apply orderly_given
      · simpa [Scheduler.numbered, empty] using housed
      · simpa [Scheduler.numbered, empty] using numbered
      · exact orderly.waiting
  | some parent =>
      have running : (scheduler.numbered after).current = some parent := current
      rw [admitted_of_running running]
      have tenants := tenants_queued (scheduler.numbered after) newcomer
      constructor
      case housed =>
        rw [tenants]
        exact housed
      case numbered =>
        rw [tenants]
        exact numbered
      case idle =>
        intro idle
        cases current.symm.trans idle
      case running =>
        intro process running
        have kept := orderly.running process running
        rw [← built.installed] at kept
        exact kept
      case waiting =>
        intro process member
        rcases List.mem_append.mp member with old | new
        · exact orderly.waiting process old
        · rw [List.mem_singleton.mp new]
          rfl

/-- A kernel that still backs every space, with the same table installed, keeps the scheduler in
order. -/
theorem orderly_kept (orderly : scheduler.Orderly)
    (installed : after.machine.installed = scheduler.kernel.machine.installed)
    (backed : ∀ space : AddressSpace, space.Backed scheduler.kernel → space.Backed after) :
    { scheduler with kernel := after }.Orderly where
  housed := orderly.housed.kept backed
  numbered := orderly.numbered
  idle := by
    intro idle
    rw [installed]
    exact orderly.idle idle
  running := by
    intro process running
    rw [installed]
    exact orderly.running process running
  waiting := orderly.waiting

end Scheduler

end PagedKernel
