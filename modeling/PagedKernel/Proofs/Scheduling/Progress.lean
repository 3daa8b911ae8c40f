import PagedKernel.Proofs.Bookkeeping
import PagedKernel.Proofs.Course
import PagedKernel.Proofs.Loading.Acceptance
import PagedKernel.Proofs.Scheduling.Steps

/-!
Contract: no command stops a scheduler in order.

Owns:
- accesses that name registers of the machine (`Access.InRange`);
- the return of every command from a scheduler in order;
- what the commands record and leave of the frame pool;
- the return of every run from a new machine.

Does not own: what the commands answer (`Scheduling.Steps`).
-/

namespace PagedKernel

open PagedKernel.Action

variable {geometry : Geometry} {kernel : Kernel geometry} {file : File}

/-! ### Accesses that return -/

/-- If the access is about a register, the machine has that register. -/
def Access.InRange : Access → Prop
  | .readRegister index => index < registerCount
  | .writeRegister index _ => index < registerCount
  | _ => True

instance (request : Access) : Decidable request.InRange := by
  cases request <;> unfold Access.InRange <;> infer_instance

namespace Kernel

variable {request : Access} {space : AddressSpace}

/-- An access to a register of the machine returns, whatever table is installed. -/
theorem access_returns_of_register (inRange : request.InRange) (unnamed : request.address? = none) :
    (access request).Returns kernel := by
  cases request with
  | translate | readWord | writeWord => cases unnamed
  | readRegister index =>
      have inside : index < registerCount := inRange
      have held : kernel.machine.registers[index]? = some kernel.machine.registers[index] :=
        Vector.getElem?_eq_getElem inside
      refine Returns.map ⟨⟨.ok kernel.machine.registers[index], kernel, []⟩, ?_⟩ _
      simp only [readRegister, run_bind, run_view, held]
      rfl
  | writeRegister index value =>
      have inside : index < registerCount := inRange
      have returns : (writeRegister index value : Action (Kernel geometry) Exception Unit).Returns
          kernel := by
        rw [writeRegister, require_of inside]
        exact ⟨_, rfl⟩
      exact returns.map _

theorem access_returns_of_idle (idle : kernel.machine.installed = none)
    (inRange : request.InRange) : (access request).Returns kernel := by
  cases named : request.address? with
  | none => exact access_returns_of_register inRange named
  | some address => exact ⟨_, run_access_of_fault named (run_translate_of_idle idle)⟩

/-- Through the table of its own space, a program reaches memory or is told that it does not. -/
theorem access_returns_of_active (active : space.Active kernel) (inRange : request.InRange) :
    (access request).Returns kernel := by
  cases named : request.address? with
  | none => exact access_returns_of_register inRange named
  | some address =>
      by_cases reached : space.Reaches geometry.pageSize address
      · cases request with
        | translate =>
            cases named
            exact Returns.map ⟨_, run_translate_of_reaches active reached⟩ _
        | readWord =>
            cases named
            obtain ⟨value, -, ran⟩ := run_readWord_of_reaches active reached
            exact Returns.map ⟨_, ran⟩ _
        | writeWord =>
            cases named
            exact Returns.map ⟨_, run_writeWord_of_reaches active reached⟩ _
        | readRegister | writeRegister => cases named
      · obtain ⟨fault, ran⟩ := run_translate_of_not_reaches active reached
        exact ⟨_, run_access_of_fault named ran⟩

end Kernel

/-! ### Copies that return -/

/-- The frames of a space that has them are a parent whose copy never stops the kernel. -/
theorem AddressSpace.fork_returns {space : AddressSpace} (backed : space.Backed kernel) :
    space.fork.Returns kernel := by
  have usable := kernel.machine.usable
  have parent := backed.inside
  by_cases free : kernel.frames.committed + space.pages ≤ kernel.frames.bound geometry.frames
  · exact ⟨_, run_duplicate_of_free usable parent free⟩
  · have small : space.pages ≤ geometry.frames := Nat.le_trans (Nat.le_add_left _ _) parent
    have bounded := Nat.lt_of_le_of_lt parent usable.frames_lt_limit
    exact ⟨_, run_duplicate_of_shortage small bounded parent (Nat.lt_of_not_le free)⟩

namespace Scheduler

variable {scheduler : Scheduler geometry} {held : FramePool → Prop} {fits : Event → Prop}
  {ε : Type} {owed : ε → List Event}

/-! ### Commands that return -/

/-- If the command is about a register, the machine has that register. -/
def Command.InRange : Command → Prop
  | .access request => request.InRange
  | _ => True

instance (command : Command) : Decidable command.InRange := by
  cases command <;> unfold Command.InRange <;> infer_instance

theorem exec_returns (name : String) (summable : Summable file geometry) :
    (exec name file).Returns scheduler := by
  obtain ⟨⟨result, after, events⟩, loaded, -⟩ :=
    AddressSpace.run_load_of_summable scheduler.kernel file summable
  rcases AddressSpace.load_effect loaded with
    ⟨error, failed, -⟩ | ⟨header, order, space, -, made, holds⟩
  · cases failed
    exact ⟨_, run_exec_of_failure loaded⟩
  · cases made
    have bounded := holds.backed.bytes_lt_limit scheduler.kernel.machine.usable
    obtain ⟨later, ran⟩ := run_exec_of_space name loaded bounded
    exact ⟨_, ran⟩

theorem fork_returns (orderly : scheduler.Orderly) : fork.Returns scheduler := by
  cases running : scheduler.current with
  | none => exact ⟨_, run_fork_of_idle running⟩
  | some parent =>
      obtain ⟨⟨result, after, events⟩, copied⟩ :=
        AddressSpace.fork_returns (orderly.active running).backed
      cases result with
      | error error => exact ⟨_, run_fork_of_failure running copied⟩
      | ok space =>
          obtain ⟨later, ran⟩ := run_fork_of_space running copied
          exact ⟨_, ran⟩

theorem exit_returns (orderly : scheduler.Orderly) :
    (exit : Action (Scheduler geometry) ε (Option Pid)).Returns scheduler := by
  cases running : scheduler.current with
  | none => exact ⟨_, run_exit_of_idle running⟩
  | some finished =>
      obtain ⟨events, ran⟩ := run_exit_of_running (ε := ε) running orderly.bytes_lt_limit
      exact ⟨_, ran⟩

theorem access_returns (orderly : scheduler.Orderly) {request : Access}
    (inRange : request.InRange) :
    (onKernel (Kernel.access request) : Action (Scheduler geometry) Exception _).Returns
      scheduler := by
  have returns : (Kernel.access request).Returns scheduler.kernel := by
    cases running : scheduler.current with
    | none => exact Kernel.access_returns_of_idle (orderly.idle running).2 inRange
    | some process => exact Kernel.access_returns_of_active (orderly.active running) inRange
  obtain ⟨report, ran⟩ := returns
  rw [Returns, onKernel, run_within, ran]
  exact ⟨_, rfl⟩

theorem step_returns (room : geometry.stackSize ≤ Geometry.stackLimit)
    (orderly : scheduler.Orderly) {command : Command} (inRange : command.InRange) :
    (step command).Returns scheduler := by
  cases command with
  | exec name file => exact ((exec_returns name (summable_of_room file room)).mapError _).map _
  | fork => exact ((fork_returns orderly).mapError _).map _
  | yield =>
      obtain ⟨events, ran⟩ := run_yield (ε := Failure) orderly.bytes_lt_limit
      exact Returns.map ⟨_, ran⟩ _
  | exit => exact (exit_returns orderly).map _
  | access request => exact ((access_returns orderly inRange).mapError _).map _

/-! ### Frames and records -/

/-- The action keeps what is held of the pool, and all that it records can be printed. -/
abbrev KeepsBooks {α : Type} (held : FramePool → Prop)
    (action : Action (Scheduler geometry) ε α) : Prop :=
  Abides (fun scheduler => held scheduler.kernel.frames) Event.Printable action

/-- The action keeps what is held of the pool, and records events that fit, and then what its end
owes. -/
abbrev KeepsLog {α : Type} (held : FramePool → Prop) (fits : Event → Prop)
    (owed : ε → List Event) (action : Action (Scheduler geometry) ε α) : Prop :=
  Owes (fun scheduler => held scheduler.kernel.frames) fits owed action

theorem owes_onKernel {α : Type} {action : Action (Kernel geometry) ε α}
    (owes : Owes (fun kernel => held kernel.frames) fits owed action) :
    KeepsLog held fits owed (onKernel action) :=
  owes.within (fun _ holds => holds) (fun _ _ _ holds => holds)

theorem abides_onKernel {α : Type} {action : Action (Kernel geometry) ε α}
    (abides : Abides (fun kernel => held kernel.frames) fits action) :
    Abides (fun scheduler => held scheduler.kernel.frames) fits (onKernel action) :=
  abides.within (fun _ holds => holds) (fun _ _ _ holds => holds)

theorem keepsBooks_of_ofProcess {α : Type} {action : Action (Scheduler geometry) ε α}
    (owes : KeepsLog held Event.OfProcess (fun _ => []) action) : KeepsBooks held action :=
  (abides_iff_owes.mpr owes).mono fun _ => Event.OfProcess.printable

theorem owes_dispatch (process : Process) :
    KeepsLog held Event.OfProcess owed
      (dispatch process : Action (Scheduler geometry) ε Unit) := by
  have restored : Owes (fun kernel => held kernel.frames) Event.OfProcess owed
      (restoreRegisters process : Action (Kernel geometry) ε Unit) := by
    unfold restoreRegisters
    cases process.saved with
    | none => exact process.space.owes_initRegisters
    | some registers => exact Kernel.owes_updateMachine _
  refine .bind (owes_onKernel restored) fun _ => ?_
  refine .bind (owes_onKernel (Kernel.owes_updateMachine _)) fun _ => ?_
  exact .bind (.emit trivial) fun _ => .update fun _ holds => holds

theorem owes_adopt (name : String) (space : AddressSpace) (saved : Option Registers) :
    KeepsLog held fits owed
      (adopt name space saved : Action (Scheduler geometry) ε Process) :=
  .bind (.view _) fun _ => .bind (.update fun _ holds => holds) fun _ => .pure _

theorem owes_enqueue (process : Process) :
    KeepsLog held fits owed (enqueue process : Action (Scheduler geometry) ε Unit) :=
  .update fun _ holds => holds

/-- What is left of a start when the program is loaded. -/
theorem owes_admission (name : String) (space : AddressSpace) :
    KeepsLog held Event.OfProcess owed
      (do
        let process ← adopt name space none
        emit (.executed name process.pid space.pages)
        schedule process
        return process.pid : Action (Scheduler geometry) ε Pid) := by
  refine .bind (owes_adopt name space none) fun process => .bind (.emit trivial) fun _ => ?_
  refine .bind (.bind (.view _) fun current => ?_) fun _ => .pure _
  cases current with
  | none => exact owes_dispatch process
  | some running => exact owes_enqueue process

/-- What is left of a fork when the space is copied. -/
theorem owes_succession (parent : Process) (space : AddressSpace) :
    KeepsLog held Event.OfProcess owed
      (do
        let registers ← view (·.kernel.machine.registers)
        let child ← adopt parent.name space (some registers)
        emit (.forked parent.pid child.pid)
        enqueue child
        return some child.pid : Action (Scheduler geometry) ε (Option Pid)) :=
  .bind (.view _) fun _ => .bind (owes_adopt _ _ _) fun child =>
    .bind (.emit trivial) fun _ => .bind (owes_enqueue child) fun _ => .pure _

theorem abides_exec (granted : FramePool.KeptByGrants held) (name : String) (file : File) :
    KeepsBooks held (exec name file : Action (Scheduler geometry) BuildError Pid) :=
  .bind (abides_onKernel (AddressSpace.abides_load granted file)) fun space =>
    keepsBooks_of_ofProcess (owes_admission name space)

theorem abides_fork (granted : FramePool.KeptByGrants held) :
    KeepsBooks held (fork : Action (Scheduler geometry) BuildError (Option Pid)) := by
  refine .bind (.view _) fun current => ?_
  cases current with
  | none => exact .pure _
  | some parent =>
      exact .bind (abides_onKernel (AddressSpace.abides_duplicate granted _ _)) fun space =>
        keepsBooks_of_ofProcess (owes_succession parent space)

theorem owes_yield :
    KeepsLog held Event.OfProcess owed (yield : Action (Scheduler geometry) ε Unit) := by
  refine .bind (.view _) fun ready => ?_
  cases ready with
  | nil => exact .pure _
  | cons next rest => exact .bind (.update fun _ holds => holds) fun _ => owes_dispatch next

theorem owes_runNext :
    KeepsLog held Event.OfProcess owed (runNext : Action (Scheduler geometry) ε Unit) := by
  refine .bind (.view _) fun ready => ?_
  cases ready with
  | nil =>
      exact .bind (owes_onKernel (Kernel.owes_updateMachine _)) fun _ =>
        .update fun _ holds => holds
  | cons next rest => exact .bind (.update fun _ holds => holds) fun _ => owes_dispatch next

/-- The end of a process records what becomes of its space. -/
theorem owes_ending {finished : Process} (ofProcess : ∀ event : Event, event.OfProcess → fits event)
    (released : fits (.spaceReleased finished.space.firstFrame finished.space.pages)) :
    KeepsLog held fits owed
      (do
        emit (.exited finished.pid finished.name)
        finished.space.release
        runNext
        return some finished.pid : Action (Scheduler geometry) ε (Option Pid)) :=
  .bind (.emit (ofProcess _ trivial)) fun _ => .bind (.emit released) fun _ =>
    .bind (owes_runNext.mono ofProcess) fun _ => .pure _

/-- That the record of an exit can be printed depends on the process that ends. -/
theorem bookkeeping_of_exit (orderly : scheduler.Orderly) (holds : held scheduler.kernel.frames)
    {report : Report (Scheduler geometry) ε (Option Pid)} (ran : exit.run scheduler = .ok report) :
    held report.state.kernel.frames ∧ ∀ event ∈ report.events, event.Printable := by
  cases running : scheduler.current with
  | none =>
      rw [run_exit_of_idle running] at ran
      cases ran
      exact ⟨holds, by simp⟩
  | some finished =>
      have releasable := orderly.releasable finished (by simp [live, running])
      unfold exit at ran
      rw [run_bind_of_ok (run_view _ scheduler), map_after_nil] at ran
      simp only [running] at ran
      exact abides_iff_owes.mpr (owes_ending (fun _ => Event.OfProcess.printable) releasable)
        scheduler report holds ran

/-- A command leaves of the pool what every granted request leaves, and all it records can be
printed. -/
theorem bookkeeping_of_step (granted : FramePool.KeptByGrants held)
    (orderly : scheduler.Orderly) (holds : held scheduler.kernel.frames) {command : Command}
    {report : Report (Scheduler geometry) Failure Answer}
    (ran : (step command).run scheduler = .ok report) :
    held report.state.kernel.frames ∧ ∀ event ∈ report.events, event.Printable := by
  cases command with
  | exec name file =>
      exact ((abides_exec granted name file).mapError _).map _ scheduler report holds ran
  | fork => exact ((abides_fork granted).mapError _).map _ scheduler report holds ran
  | yield => exact (keepsBooks_of_ofProcess owes_yield).map _ scheduler report holds ran
  | exit =>
      obtain ⟨inner, course, rfl⟩ := run_map_eq_ok ran
      exact bookkeeping_of_exit orderly holds course
  | access request =>
      have printable : ∀ event : Event, event.Placing → event.Printable :=
        fun _ => Event.Placing.printable
      exact (((abides_onKernel (Kernel.abides_access request)).mono printable).mapError _).map _
        scheduler report holds ran

/-! ### Runs -/

/-- On a machine whose stack reservation leaves room for the sizes of an image, every run comes to
an end. All that it records can be printed, the free frames can be counted after it, and so can the
end of every process that is left be recorded. -/
theorem run_returns {machine : Machine geometry}
    (created : Machine.create geometry = .ok (.ok machine))
    (room : geometry.stackSize ≤ Geometry.stackLimit) {frames : FramePool}
    (within : frames.committed ≤ frames.total) {nextPid : Nat} {commands : List Command}
    (inRange : ∀ command ∈ commands, command.InRange) :
    ∃ past final,
      Course step (start machine frames nextPid) past final ∧
      past.map (·.command) = commands ∧
      (start machine frames nextPid).run commands = .ok (final, past.map (·.report.result)) ∧
      (∀ turn ∈ past, ∀ event ∈ turn.report.events, event.Printable) ∧
      final.kernel.frames.remaining =
        .ok (final.kernel.frames.total - final.kernel.frames.committed) ∧
      ∀ process ∈ final.live, process.space.firstFrame + process.space.pages < Size.limit := by
  have started := orderly_created created frames nextPid
  obtain ⟨past, final, course, rfl⟩ := Course.exists_of_returns
    (fun _ _ orderly => step_returns room orderly)
    (fun _ _ _ orderly => orderly_step orderly) started inRange
  have granted : FramePool.KeptByGrants fun pool => pool.committed ≤ pool.total :=
    fun _ _ _ fits => fits
  -- A run keeps the scheduler in order, and the pool within its total.
  have kept : ∀ (scheduler : Scheduler geometry)
      (turn : Turn Command (Scheduler geometry) Failure Answer),
      scheduler.Orderly ∧ scheduler.kernel.frames.committed ≤ scheduler.kernel.frames.total →
        (step turn.command).run scheduler = .ok turn.report →
          (turn.report.state.Orderly ∧
            turn.report.state.kernel.frames.committed ≤ turn.report.state.kernel.frames.total) ∧
            ∀ event ∈ turn.report.events, event.Printable := by
    rintro scheduler turn ⟨orderly, within⟩ ran
    obtain ⟨within, printable⟩ := bookkeeping_of_step granted orderly within ran
    exact ⟨⟨orderly_step orderly ran, within⟩, printable⟩
  obtain ⟨⟨orderly, within⟩, printable⟩ := course.invariant kept ⟨started, within⟩
  exact ⟨past, final, course, rfl, course.runAll_eq, printable, Size.sub_of_le within,
    orderly.releasable⟩

/-- Commands that start a program, are refused another one and a copy, and use the last register
and an address that is no word of the program. -/
def roughDay : List Command :=
  [.exec "words" AddressSpace.twoWordImage, .exec "torn" AddressSpace.misalignedImage, .fork,
    .access (.writeRegister 39 7), .access (.readWord 6), .yield, .exit, .access (.translate 0)]

theorem run_returns_roughDay :
    Machine.create { pageSize := 4, frames := 6, stackSize := 4 } =
        .ok (.ok AddressSpace.smallKernel.machine) ∧
      ∃ past final,
        Course step (start AddressSpace.smallKernel.machine AddressSpace.smallKernel.frames)
          past final ∧
        past.map (·.command) = roughDay ∧
        ∀ turn ∈ past, ∀ event ∈ turn.report.events, event.Printable := by
  have created : Machine.create { pageSize := 4, frames := 6, stackSize := 4 } =
      .ok (.ok AddressSpace.smallKernel.machine) := rfl
  have room : 4 ≤ Geometry.stackLimit := by decide
  have within : AddressSpace.smallKernel.frames.committed ≤ AddressSpace.smallKernel.frames.total :=
    by decide
  have inRange : ∀ command ∈ roughDay, command.InRange := by decide
  obtain ⟨past, final, course, taken, -, printable, -⟩ := run_returns created room within inRange
  exact ⟨created, past, final, course, taken, printable⟩

end Scheduler

end PagedKernel
