import PagedKernel.Proofs.Scheduling.Progress

/-!
Contract: a program cannot tell where it was loaded, nor what was there before.

Owns:
- accesses that do not ask for a physical address (`Access.Virtual`);
- the start of a program on a machine of its own, and its accesses from there
  on (`AddressSpace.session`);
- spaces that look the same to a program (`AddressSpace.Alike`), kept by every
  access;
- the agreement of all sessions of a program, on machines of any size, memory,
  registers and taken frames.

Does not own: several programs on one machine (`Isolation.Refinement`).
-/

namespace PagedKernel

open PagedKernel.Action

/-- The access does not ask where in physical memory an address lies. -/
def Access.Virtual : Access → Prop
  | .translate _ => False
  | _ => True

instance (request : Access) : Decidable request.Virtual :=
  match request with
  | .translate _ => .isFalse id
  | .readWord _ | .writeWord _ _ | .readRegister _ | .writeRegister _ _ => .isTrue trivial

namespace AddressSpace

variable {geometry left right : Geometry} {kernel : Kernel geometry} {first : Kernel left}
  {second : Kernel right} {space other : AddressSpace} {ε : Type}

/-! ### Sessions -/

/-- Gives the machine to the program of the space as it starts. -/
def launch (space : AddressSpace) : Action (Kernel geometry) ε Unit := do
  space.activate
  space.initRegisters

/-- What the program of the space is answered when it starts and then makes the accesses. -/
def session (space : AddressSpace) (requests : List Access) (kernel : Kernel geometry) :
    Checked (List (Except Exception Access.Answer)) := do
  let started ← (space.launch : Action (Kernel geometry) Exception Unit).run kernel
  let (_, answers) ← runAll Kernel.access started.state requests
  return answers

/-- The kernel once the program of the space has been started. -/
def launched (kernel : Kernel geometry) (space : AddressSpace) : Kernel geometry :=
  { kernel with
    machine := {
      kernel.machine with
      registers := startRegisters (space.stackTop geometry.pageSize)
      installed := some ⟨space.table, space.pages⟩ } }

theorem run_launch (bounded : space.pages * geometry.pageSize < Size.limit) :
    (space.launch : Action (Kernel geometry) ε Unit).run kernel =
      .ok ⟨.ok (), launched kernel space, [.stackSet (space.stackTop geometry.pageSize)]⟩ := by
  simp [launch, activate, initRegisters, initialStack_of_lt bounded, Kernel.updateMachine,
    Machine.install, launched, run_bind, Except.map, Report.after]

theorem active_launched (backed : space.Backed kernel) : space.Active (launched kernel space) where
  backed := backed.congr rfl rfl
  installed := rfl

theorem session_eq (backed : space.Backed kernel) (requests : List Access) :
    space.session requests kernel =
      (runAll Kernel.access (launched kernel space) requests).map (·.2) := by
  have started : (space.launch : Action (Kernel geometry) Exception Unit).run kernel = _ :=
    run_launch (backed.bytes_lt_limit kernel.machine.usable)
  simp only [session, started, bind, Except.bind, pure, Except.pure]
  cases runAll Kernel.access (launched kernel space) requests <;> rfl

/-! ### Spaces that look the same -/

/-- The machines give two programs the same registers and the same bytes of their spaces, which may
lie anywhere. -/
structure Alike (space other : AddressSpace) (first : Kernel left) (second : Kernel right) :
    Prop where
  pageSize : left.pageSize = right.pageSize
  pages : space.pages = other.pages
  active : space.Active first
  otherActive : other.Active second
  registers : first.machine.registers = second.machine.registers
  bytes : ∀ offset < space.pages * left.pageSize,
    space.byteAt? first offset = other.byteAt? second offset

namespace Alike

variable (alike : space.Alike other first second) {address value : UInt32}
include alike

theorem reaches_iff :
    space.Reaches left.pageSize address ↔ other.Reaches right.pageSize address := by
  simp only [Reaches, alike.pages, alike.pageSize]

theorem word?_eq (reached : space.Reaches left.pageSize address) :
    first.machine.memory.word? (space.firstFrame * left.pageSize + address.toNat) =
      second.machine.memory.word? (other.firstFrame * right.pageSize + address.toNat) := by
  have room := (Kernel.past_le_of_reaches alike.active reached).1
  apply Memory.word?_congr
  intro index inside
  have held := alike.bytes (address.toNat + index) (by omega)
  simpa only [byteAt?, Nat.add_assoc] using held

/-- An access that leaves registers and memory alone keeps the spaces alike. -/
theorem touched (page : Nat) (active : space.Active (first.touched space page))
    (otherActive : other.Active (second.touched other page)) :
    space.Alike other (first.touched space page) (second.touched other page) :=
  ⟨alike.pageSize, alike.pages, active, otherActive, alike.registers, alike.bytes⟩

theorem written (active : space.Active (first.written space address value))
    (otherActive : other.Active (second.written other address value)) :
    space.Alike other (first.written space address value)
      (second.written other address value) where
  pageSize := alike.pageSize
  pages := alike.pages
  active := active
  otherActive := otherActive
  registers := by
    rw [Kernel.registers_written, Kernel.registers_written]
    exact alike.registers
  bytes := by
    intro offset inside
    have framed := Geometry.run_add_le_bytes alike.active.backed.inside
    have otherFramed := Geometry.run_add_le_bytes alike.otherActive.backed.inside
    have sized : other.pages * right.pageSize = space.pages * left.pageSize := by
      rw [alike.pages, alike.pageSize]
    rw [sized] at otherFramed
    exact Memory.getElem?_storeWord_shifted (alike.bytes offset inside) inside framed otherFramed

theorem registerWritten (index : Nat) (value : Int32) :
    space.Alike other
      { first with machine := {
          first.machine with
          registers := first.machine.registers.setIfInBounds index value } }
      { second with machine := {
          second.machine with
          registers := second.machine.registers.setIfInBounds index value } } where
  pageSize := alike.pageSize
  pages := alike.pages
  active := ⟨alike.active.backed.congr rfl rfl, alike.active.installed⟩
  otherActive := ⟨alike.otherActive.backed.congr rfl rfl, alike.otherActive.installed⟩
  registers := congrArg (·.setIfInBounds index value) alike.registers
  bytes := alike.bytes

/-- An access whose translation fails for one space fails for the other, and changes nothing. -/
theorem agree_of_not_reaches {request : Access} (named : request.address? = some address)
    (outside : ¬ space.Reaches left.pageSize address) :
    Agree (space.Alike other) ((Kernel.access request).run first)
      ((Kernel.access request).run second) := by
  obtain ⟨fault, ran⟩ := Kernel.run_translate_of_not_reaches alike.active outside
  obtain ⟨otherFault, otherRan⟩ := Kernel.run_translate_of_not_reaches alike.otherActive
    (mt alike.reaches_iff.mpr outside)
  rw [Kernel.run_access_of_fault named ran, Kernel.run_access_of_fault named otherRan]
  exact ⟨rfl, alike⟩

theorem agree_readWord :
    Agree (space.Alike other) ((Kernel.access (.readWord address)).run first)
      ((Kernel.access (.readWord address)).run second) := by
  by_cases reached : space.Reaches left.pageSize address
  · have otherReached := alike.reaches_iff.mp reached
    obtain ⟨value, held, ran⟩ := Kernel.run_readWord_of_reaches alike.active reached
    obtain ⟨otherValue, otherHeld, otherRan⟩ :=
      Kernel.run_readWord_of_reaches alike.otherActive otherReached
    have same : value = otherValue :=
      Option.some.inj (held.symm.trans ((alike.word?_eq reached).trans otherHeld))
    rw [Kernel.access, Kernel.access, run_map, run_map, ran, otherRan, same]
    have active := Kernel.active_of_outcome alike.active (.wordRead reached held)
    have otherActive :=
      Kernel.active_of_outcome alike.otherActive (.wordRead otherReached otherHeld)
    rw [← alike.pageSize] at otherActive ⊢
    exact ⟨rfl, alike.touched _ active otherActive⟩
  · exact alike.agree_of_not_reaches rfl reached

theorem agree_writeWord :
    Agree (space.Alike other) ((Kernel.access (.writeWord address value)).run first)
      ((Kernel.access (.writeWord address value)).run second) := by
  by_cases reached : space.Reaches left.pageSize address
  · have otherReached := alike.reaches_iff.mp reached
    rw [Kernel.access, Kernel.access, run_map, run_map,
      Kernel.run_writeWord_of_reaches alike.active reached,
      Kernel.run_writeWord_of_reaches alike.otherActive otherReached]
    exact ⟨rfl, alike.written (Kernel.active_of_outcome alike.active (.wordWritten reached))
      (Kernel.active_of_outcome alike.otherActive (.wordWritten otherReached))⟩
  · exact alike.agree_of_not_reaches rfl reached

theorem agree_readRegister (index : Nat) :
    Agree (space.Alike other) ((Kernel.access (.readRegister index)).run first)
      ((Kernel.access (.readRegister index)).run second) := by
  rw [Kernel.access, Kernel.access, run_map, run_map, Kernel.readRegister, Kernel.readRegister,
    run_bind, run_bind, run_view, run_view]
  simp only [← alike.registers]
  cases first.machine.registers[index]? with
  | none => rfl
  | some value => exact ⟨rfl, alike⟩

theorem agree_writeRegister (index : Nat) (value : Int32) :
    Agree (space.Alike other) ((Kernel.access (.writeRegister index value)).run first)
      ((Kernel.access (.writeRegister index value)).run second) := by
  rw [Kernel.access, Kernel.access, run_map, run_map, Kernel.writeRegister, Kernel.writeRegister]
  by_cases inside : index < registerCount
  · rw [require_of inside, require_of inside]
    exact ⟨rfl, alike.registerWritten index value⟩
  · rw [require_of_not inside, require_of_not inside]
    rfl

/-- No access shows a difference between spaces that look the same, or makes one. -/
theorem agree_access {request : Access} (virtual : request.Virtual) :
    Agree (space.Alike other) ((Kernel.access request).run first)
      ((Kernel.access request).run second) := by
  cases request with
  | translate => exact virtual.elim
  | readWord => exact alike.agree_readWord
  | writeWord => exact alike.agree_writeWord
  | readRegister index => exact alike.agree_readRegister index
  | writeRegister index value => exact alike.agree_writeRegister index value

end Alike

/-! ### Loads of one file -/

/-- A program that was loaded twice looks the same from both starts on, whatever the two kernels
held before. -/
theorem alike_launched {initial after : Kernel left} {otherInitial otherAfter : Kernel right}
    {file : File} {header : Header} (pageSize : left.pageSize = right.pageSize)
    (stackSize : left.stackSize = right.stackSize)
    (holds : Holds initial after file header space)
    (otherHolds : Holds otherInitial otherAfter file header other) :
    space.Alike other (launched after space) (launched otherAfter other) := by
  have pages : space.pages = other.pages := by
    rw [holds.pages, otherHolds.pages]
    simp only [Header.pageCount, Header.bytesNeeded, pageSize, stackSize]
  constructor
  case pageSize => exact pageSize
  case pages => exact pages
  case active => exact active_launched holds.backed
  case otherActive => exact active_launched otherHolds.backed
  case registers => simp only [launched, stackTop, pages, pageSize]
  case bytes =>
    intro offset inside
    have otherInside : offset < other.pages * right.pageSize := by rwa [← pages, ← pageSize]
    exact (holds.contents offset inside).trans (otherHolds.contents offset otherInside).symm

/-- Sessions under a space of its own end, if they name registers of the machine. -/
theorem exists_session (backed : space.Backed kernel) {requests : List Access}
    (inRange : ∀ request ∈ requests, request.InRange) :
    ∃ answers, space.session requests kernel = .ok answers := by
  obtain ⟨past, final, course, rfl⟩ := Course.exists_of_returns
    (fun _ _ active => Kernel.access_returns_of_active active)
    (fun _ _ _ active ran =>
      Kernel.active_of_outcome active (Kernel.outcome_of_access active ran))
    (active_launched backed) inRange
  refine ⟨past.map (·.report.result), ?_⟩
  rw [session_eq backed, course.runAll_eq]
  rfl

/-- A program that is loaded on two machines is answered the same on both, whatever else differs
in their memory, their registers and their frames. -/
theorem load_indistinguishable {initial after : Kernel left}
    {otherInitial otherAfter : Kernel right} {file : File} {events otherEvents : List Event}
    {requests : List Access}
    (pageSize : left.pageSize = right.pageSize) (stackSize : left.stackSize = right.stackSize)
    (loaded : (load file).run initial = .ok ⟨.ok space, after, events⟩)
    (otherLoaded : (load file).run otherInitial = .ok ⟨.ok other, otherAfter, otherEvents⟩)
    (virtual : ∀ request ∈ requests, request.Virtual) :
    space.session requests after = other.session requests otherAfter ∧
      ((∀ request ∈ requests, request.InRange) →
        ∃ answers, space.session requests after = .ok answers) := by
  rcases load_effect loaded with ⟨error, failed, -⟩ | ⟨header, order, built, read, made, holds⟩
  · cases failed
  rcases load_effect otherLoaded with
    ⟨error, failed, -⟩ | ⟨header, order, built, otherRead, otherMade, otherHolds⟩
  · cases failed
  cases made
  cases otherMade
  cases read.symm.trans otherRead
  refine ⟨?_, exists_session holds.backed⟩
  rw [session_eq holds.backed, session_eq otherHolds.backed]
  exact results_eq_of_agree (fun _ _ _ alike virtual => alike.agree_access virtual)
    (alike_launched pageSize stackSize holds otherHolds) virtual

/-- A larger machine than `smallKernel`, with other frames taken, no byte of memory zero and no
register zero. -/
def usedKernel : Kernel { pageSize := 4, frames := 9, stackSize := 4 } where
  machine :=
    { usable := ⟨by decide, by decide⟩
      memory := Vector.replicate 36 0xaa
      registers := Vector.replicate registerCount (-1) }
  frames := { total := 9, committed := 3 }

/-- Accesses to each of the three pages of a program, to registers, and to no word of the
program. -/
def probes : List Access :=
  [.readWord 0, .readWord 4, .readWord 8, .writeWord 8 7, .readWord 8, .readRegister 29,
    .readRegister 5, .writeRegister 5 1, .readWord 6, .readWord 12]

theorem load_indistinguishable_probes :
    ∃ space after events other otherAfter otherEvents answers,
      (load twoWordImage).run smallKernel = .ok ⟨.ok space, after, events⟩ ∧
      (load twoWordImage).run usedKernel = .ok ⟨.ok other, otherAfter, otherEvents⟩ ∧
      space.session probes after = .ok answers ∧ other.session probes otherAfter = .ok answers := by
  obtain ⟨space, after, events, loaded⟩ := run_load_of_accepted smallKernel twoWordImage
    (summable_of_room twoWordImage (by decide)) (by decide +kernel)
  obtain ⟨other, otherAfter, otherEvents, otherLoaded⟩ := run_load_of_accepted usedKernel
    twoWordImage (summable_of_room twoWordImage (by decide)) (by decide +kernel)
  have virtual : ∀ request ∈ probes, request.Virtual := by decide
  have inRange : ∀ request ∈ probes, request.InRange := by decide
  have pageSize : Geometry.pageSize ⟨4, 6, 4⟩ = Geometry.pageSize ⟨4, 9, 4⟩ := rfl
  have stackSize : Geometry.stackSize ⟨4, 6, 4⟩ = Geometry.stackSize ⟨4, 9, 4⟩ := rfl
  obtain ⟨same, ended⟩ :=
    load_indistinguishable pageSize stackSize loaded otherLoaded virtual
  obtain ⟨answers, answered⟩ := ended inRange
  exact ⟨space, after, events, other, otherAfter, otherEvents, answers, loaded, otherLoaded,
    answered, same.symm.trans answered⟩

end AddressSpace

end PagedKernel
