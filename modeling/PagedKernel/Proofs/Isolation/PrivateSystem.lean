import PagedKernel.Proofs.Access
import PagedKernel.Proofs.Loading.Contents
import PagedKernel.Scheduler

/-!
Contract: a scheduler of processes that have nothing to share.

Owns:
- processes with memory and registers of their own (`Resident`), and what an
  access answers and changes in one of them;
- the system of such processes (`PrivateSystem`), which takes the commands of
  the scheduler;
- that no command changes a process but the running one's own access
  (`PrivateSystem.Private`).

Frames are no part of this system, so it is told which commands were granted,
and leaves the answers open that only the frames decide: the error of a command
that was not granted, and the physical address of a translation.

Does not own: the relation to the scheduler (`Isolation.Simulation`).
-/

namespace PagedKernel

/-- A process whose memory and registers are its own. -/
structure Resident (geometry : Geometry) where
  pid : Pid
  pages : Nat
  memory : Memory (pages * geometry.pageSize)
  registers : Registers

namespace Resident

variable {geometry : Geometry}

/-- A program of a file as it starts. -/
def ofImage (pid : Pid) (file : File) (header : Header) : Resident geometry where
  pid
  pages := header.pageCount geometry
  memory := Vector.ofFn fun offset => (header.byteAt? file offset).getD 0
  registers := AddressSpace.startRegisters
    (Int32.ofNat (header.pageCount geometry * geometry.pageSize) - stackGuard)

theorem getElem?_ofImage {pid : Pid} {file : File} {header : Header} {offset : Nat}
    (inside : offset < header.pageCount geometry * geometry.pageSize) :
    (ofImage pid file header : Resident geometry).memory[offset]? =
      some ((header.byteAt? file offset).getD 0) :=
  Vector.getElem?_ofFn.trans (dif_pos inside)

/-- The word at an address that is aligned and has one. -/
def word? (resident : Resident geometry) (address : UInt32) : Option UInt32 :=
  if address.toNat % Word.size = 0 then resident.memory.word? address.toNat else none

/-- The answer to an access, where the process alone decides it. -/
def answer? (resident : Resident geometry) : Access → Option (Except Exception Access.Answer)
  | .translate address =>
      match resident.word? address with
      | some _ => none
      | none => some (.error .addressError)
  | .readWord address =>
      match resident.word? address with
      | some value => some (.ok (.word value))
      | none => some (.error .addressError)
  | .writeWord address _ =>
      match resident.word? address with
      | some _ => some (.ok .done)
      | none => some (.error .addressError)
  | .readRegister index => resident.registers[index]?.map fun value => .ok (.register value)
  | .writeRegister _ _ => some (.ok .done)

/-- The process after an access. -/
def after (resident : Resident geometry) : Access → Resident geometry
  | .writeWord address value =>
      match resident.word? address with
      | some _ => { resident with memory := resident.memory.storeWord address.toNat value }
      | none => resident
  | .writeRegister index value =>
      { resident with registers := resident.registers.setIfInBounds index value }
  | _ => resident

end Resident

structure PrivateSystem (geometry : Geometry) where
  current : Option (Resident geometry) := none
  ready : List (Resident geometry) := []
  nextPid : Nat := 1

namespace PrivateSystem

variable {geometry : Geometry}

open Scheduler (Command Failure Answer)

/-- An answer, where the system decides it. -/
abbrev Expectation : Type := Option (Except Failure Answer)

def live (system : PrivateSystem geometry) : List (Resident geometry) :=
  system.current.toList ++ system.ready

/-- The number that the next process gets. -/
def freshPid (system : PrivateSystem geometry) : Pid := ⟨system.nextPid⟩

/-- A new process runs at once if no other does, and waits otherwise. -/
def receive (system : PrivateSystem geometry) (resident : Resident geometry) :
    PrivateSystem geometry :=
  match system.current with
  | none => { system with current := some resident, nextPid := system.nextPid + 1 }
  | some _ =>
      { system with ready := system.ready ++ [resident], nextPid := system.nextPid + 1 }

/-- The running process joins the queue, and the first of the queue runs. -/
def rotate (system : PrivateSystem geometry) : PrivateSystem geometry :=
  match system.ready with
  | [] => system
  | next :: rest => { system with current := some next, ready := rest ++ system.current.toList }

/-- The running process ends, and the first of the queue runs, if there is one. -/
def leave (system : PrivateSystem geometry) : PrivateSystem geometry :=
  match system.ready with
  | [] => { system with current := none }
  | next :: rest => { system with current := some next, ready := rest }

/-- The system after a command, and the answer that it expects. -/
def step (system : PrivateSystem geometry) (granted : Bool) :
    Command → PrivateSystem geometry × Expectation
  | .exec _ file =>
      match Header.read file with
      | .error unreadable => (system, some (.error (.build (.image unreadable))))
      | .ok (header, _) =>
          if granted then
            (system.receive (.ofImage system.freshPid file header),
              some (.ok (.process system.freshPid)))
          else (system, none)
  | .fork =>
      match system.current with
      | none => (system, some (.ok .idle))
      | some parent =>
          if granted then
            (system.receive { parent with pid := system.freshPid },
              some (.ok (.process system.freshPid)))
          else (system, none)
  | .yield => (system.rotate, some (.ok .done))
  | .exit =>
      match system.current with
      | none => (system, some (.ok .idle))
      | some finished => (system.leave, some (.ok (.process finished.pid)))
  | .access request =>
      match system.current with
      | none => (system, request.address?.map fun _ => .error (.exception .addressError))
      | some running =>
          ({ system with current := some (running.after request) },
            (running.answer? request).map fun answer =>
              (answer.map .access).mapError .exception)

/-- The system after commands that were granted or not, and the answers that it expects. -/
def run (system : PrivateSystem geometry) :
    List (Command × Bool) → PrivateSystem geometry × List Expectation
  | [] => (system, [])
  | (command, granted) :: rest =>
      let (next, answer) := system.step granted command
      let (final, answers) := next.run rest
      (final, answer :: answers)

/-- The result is the expected one, where there is any. -/
def Meets (expected : Expectation) (result : Except Failure Answer) : Prop :=
  ∀ answer, expected = some answer → result = answer

/-! ### Privacy -/

variable {system : PrivateSystem geometry} {resident other : Resident geometry}

theorem mem_live_receive (member : other ∈ (system.receive resident).live) :
    other ∈ system.live ∨ other = resident := by
  cases current : system.current <;>
    simp only [receive, live, current, Option.toList_none, Option.toList_some, List.nil_append,
      List.cons_append, List.mem_cons, List.mem_append, List.not_mem_nil, or_false] at member ⊢
  · exact member.symm
  · exact or_assoc.mpr member

theorem mem_live_rotate (member : other ∈ system.rotate.live) : other ∈ system.live := by
  cases queue : system.ready with
  | nil => simpa only [rotate, queue] using member
  | cons next rest =>
      simp only [rotate, queue, live, Option.toList_some, List.mem_append, List.mem_cons,
        List.not_mem_nil, or_false] at member ⊢
      rcases member with first | behind | running
      · exact Or.inr (Or.inl first)
      · exact Or.inr (Or.inr behind)
      · exact Or.inl running

theorem mem_live_leave (member : other ∈ system.leave.live) : other ∈ system.live := by
  cases queue : system.ready with
  | nil => simp [leave, queue, live] at member
  | cons next rest =>
      simp only [leave, queue, live, Option.toList_some, List.singleton_append] at member ⊢
      exact List.mem_append_right _ member

/-- After a command a process is as it was before, or it is new, or it is the running one after
its own access. -/
def Private (system : PrivateSystem geometry) : Prop :=
  ∀ granted command, ∀ resident ∈ (system.step granted command).1.live,
    resident ∈ system.live ∨ resident.pid = system.freshPid ∨
      ∃ running request, system.current = some running ∧ command = .access request ∧
        resident = running.after request

theorem private_step (system : PrivateSystem geometry) : system.Private := by
  intro granted command resident member
  cases command with
  | exec name file =>
      simp only [step] at member
      split at member
      · exact Or.inl member
      · split at member
        · rcases mem_live_receive member with old | rfl
          · exact Or.inl old
          · exact Or.inr (Or.inl rfl)
        · exact Or.inl member
  | fork =>
      simp only [step] at member
      split at member
      · exact Or.inl member
      · split at member
        · rcases mem_live_receive member with old | rfl
          · exact Or.inl old
          · exact Or.inr (Or.inl rfl)
        · exact Or.inl member
  | yield => exact Or.inl (mem_live_rotate member)
  | exit =>
      simp only [step] at member
      split at member
      · exact Or.inl member
      · exact Or.inl (mem_live_leave member)
  | access request =>
      simp only [step] at member
      split at member
      · exact Or.inl member
      · rename_i running current
        rcases List.mem_append.mp member with accessed | waiting
        · refine Or.inr (Or.inr ⟨running, request, current, rfl, ?_⟩)
          simpa using accessed
        · exact Or.inl (List.mem_append_right _ waiting)

end PrivateSystem

end PagedKernel
