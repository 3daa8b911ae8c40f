import PagedKernel.Proofs.Isolation.PrivateSystem
import PagedKernel.Proofs.Scheduling.Runs

/-!
Contract: a process of the scheduler in the state of a private one.

Owns:
- the correspondence of number, size, bytes and registers (`Mirrors`), for a
  running process (`Runs`) and for a waiting one (`Waits`);
- its start from a file or as a copy, and its survival of every access and
  change of the kernel that leaves the bytes of the process alone.

Does not own: the queue and the other processes (`Isolation.Simulation`).
-/

namespace PagedKernel

variable {geometry : Geometry} {kernel before after : Kernel geometry} {process : Process}
  {resident : Resident geometry} {registers : Registers} {address : UInt32}

/-- A resident has the number, the size and the bytes of a process, and the given registers. -/
structure Mirrors (process : Process) (registers : Registers) (kernel : Kernel geometry)
    (resident : Resident geometry) : Prop where
  pid : resident.pid = process.pid
  pages : resident.pages = process.space.pages
  registers : resident.registers = registers
  bytes : ∀ offset < process.space.pages * geometry.pageSize,
    process.space.byteAt? kernel offset = resident.memory[offset]?

/-- The registers of the running process are those of the machine. -/
abbrev Runs (kernel : Kernel geometry) (process : Process) (resident : Resident geometry) : Prop :=
  Mirrors process kernel.machine.registers kernel resident

/-- The registers of a waiting process are those with which it will go on. -/
abbrev Waits (kernel : Kernel geometry) (process : Process) (resident : Resident geometry) : Prop :=
  Mirrors process (process.resumed geometry.pageSize) kernel resident

namespace Mirrors

theorem kept (mirrors : Mirrors process registers before resident)
    (same : ∀ offset < process.space.pages * geometry.pageSize,
      process.space.byteAt? after offset = process.space.byteAt? before offset) :
    Mirrors process registers after resident where
  pid := mirrors.pid
  pages := mirrors.pages
  registers := mirrors.registers
  bytes := by
    intro offset inside
    rw [same offset inside]
    exact mirrors.bytes offset inside

/-- The word that a space reaches is the one of the private memory. -/
theorem word?_of_reaches (mirrors : Mirrors process registers kernel resident)
    (active : process.space.Active kernel)
    (reached : process.space.Reaches geometry.pageSize address) :
    resident.word? address =
      kernel.machine.memory.word?
        (process.space.firstFrame * geometry.pageSize + address.toNat) := by
  have room := (Kernel.past_le_of_reaches active reached).1
  rw [Resident.word?, if_pos reached.1]
  apply Memory.word?_congr
  intro index inside
  have held := mirrors.bytes (address.toNat + index) (by omega)
  rw [← held, AddressSpace.byteAt?, Nat.add_assoc]

theorem word_exists (mirrors : Mirrors process registers kernel resident)
    (active : process.space.Active kernel)
    (reached : process.space.Reaches geometry.pageSize address) :
    ∃ value, resident.word? address = some value := by
  have inside := (Kernel.past_le_of_reaches active reached).2
  rw [mirrors.word?_of_reaches active reached, ← Option.isSome_iff_exists,
    Memory.word?_isSome_iff]
  exact inside

theorem word?_of_not_reaches (mirrors : Mirrors process registers kernel resident)
    (outside : ¬ process.space.Reaches geometry.pageSize address) :
    resident.word? address = none := by
  rw [Resident.word?]
  by_cases aligned : address.toNat % Word.size = 0
  · rw [if_pos aligned, ← Option.not_isSome_iff_eq_none, Memory.word?_isSome_iff, mirrors.pages]
    intro room
    apply outside
    refine ⟨aligned, ?_⟩
    simp only [Word.size] at room
    omega
  · rw [if_neg aligned]

/-- A word written through the space is the word written to the private memory. -/
theorem written (mirrors : Runs kernel process resident) (active : process.space.Active kernel)
    (value : UInt32) :
    Runs (kernel.written process.space address value) process
      { resident with memory := resident.memory.storeWord address.toNat value } where
  pid := by simp only [mirrors.pid]
  pages := by simp only [mirrors.pages]
  registers := by
    rw [Kernel.registers_written, ← mirrors.registers]
  bytes := by
    intro offset inside
    have framed := Geometry.run_add_le_bytes active.backed.inside
    have sized := Nat.le_of_eq (congrArg (· * geometry.pageSize) mirrors.pages.symm)
    exact Memory.getElem?_storeWord_congr (mirrors.bytes offset inside) inside framed sized

/-- An access of the running process answers, and changes the process, as its private access
does. -/
theorem accessed (mirrors : Runs kernel process resident) (active : process.space.Active kernel)
    {request : Access} {result : Except Exception Access.Answer}
    (outcome : Kernel.Outcome kernel process.space request result after) :
    (∀ answer, resident.answer? request = some answer → result = answer) ∧
      Runs after process (resident.after request) := by
  cases outcome with
  | faulted named outside =>
      have missing := mirrors.word?_of_not_reaches outside
      cases request with
      | translate address | readWord address | writeWord address =>
          cases named
          simp [Resident.answer?, Resident.after, missing, mirrors]
      | readRegister index => cases named
      | writeRegister index value => cases named
  | translated reached =>
      obtain ⟨value, held⟩ := mirrors.word_exists active reached
      refine ⟨by simp [Resident.answer?, held], ?_⟩
      exact mirrors.kept fun _ _ => rfl
  | wordRead reached found =>
      have held := mirrors.word?_of_reaches active reached
      rw [found] at held
      refine ⟨by simp [Resident.answer?, held], ?_⟩
      exact mirrors.kept fun _ _ => rfl
  | wordWritten reached =>
      obtain ⟨value, held⟩ := mirrors.word_exists active reached
      refine ⟨by simp [Resident.answer?, held], ?_⟩
      simp only [Resident.after, held]
      exact mirrors.written active _
  | registerRead found =>
      have held := mirrors.registers
      refine ⟨by simp [Resident.answer?, held, found], mirrors⟩
  | registerWritten =>
      refine ⟨by simp [Resident.answer?], ?_⟩
      exact {
        pid := mirrors.pid
        pages := mirrors.pages
        registers := by simp only [Resident.after, mirrors.registers]
        bytes := mirrors.bytes }

/-- A process of a space that was just built from a file is its program as it starts. -/
theorem ofImage {file : File} {header : Header} {space : AddressSpace} (pid : Pid) (name : String)
    (holds : AddressSpace.Holds before after file header space) :
    Waits after { pid, name, space } (Resident.ofImage pid file header) where
  pid := rfl
  pages := holds.pages.symm
  registers := by
    simp only [Process.resumed, AddressSpace.stackTop, holds.pages, Option.getD_none]
    rfl
  bytes := by
    intro offset (inside : offset < space.pages * geometry.pageSize)
    obtain ⟨byte, present⟩ := holds.backed.byte_exists inside
    have held := (holds.contents offset inside).symm.trans present
    rw [holds.pages] at inside
    rw [Resident.getElem?_ofImage inside, held]
    exact present

/-- A process of a copied space is a copy of the running process. -/
theorem copied {parent : Process} {space : AddressSpace} (pid : Pid) (name : String)
    (mirrors : Runs before parent resident) (pages : space.pages = parent.space.pages)
    (bytes : ∀ offset < space.pages * geometry.pageSize,
      space.byteAt? after offset = parent.space.byteAt? before offset) :
    Waits after { pid, name, space, saved := some before.machine.registers }
      { resident with pid } where
  pid := rfl
  pages := mirrors.pages.trans pages.symm
  registers := mirrors.registers
  bytes := by
    intro offset inside
    rw [bytes offset inside]
    rw [pages] at inside
    exact mirrors.bytes offset inside

theorem suspended (mirrors : Runs kernel process resident) :
    Waits kernel (Scheduler.suspend process kernel.machine.registers) resident where
  pid := mirrors.pid
  pages := mirrors.pages
  registers := mirrors.registers
  bytes := mirrors.bytes

end Mirrors

end PagedKernel
