import PagedKernel.Kernel.Access
import PagedKernel.Proofs.Memory
import PagedKernel.Proofs.Ownership

/-!
Contract: the accesses of a running program, in terms of its own space.

Owns:
- the space through which a kernel translates (`AddressSpace.Active`);
- every outcome of an access under such a space (`Kernel.Outcome`), and the
  accesses without one;
- the confinement of every access to the bytes and the table of that space.

Does not own: what other programs could see of an access (`Isolation`).
-/

namespace PagedKernel

open PagedKernel.Action

variable {geometry : Geometry} {kernel : Kernel geometry} {space other : AddressSpace}
  {address value : UInt32}

/-- The address of the word that an access is about. -/
def Access.address? : Access → Option UInt32
  | .translate address => some address
  | .readWord address => some address
  | .writeWord address _ => some address
  | .readRegister _ => none
  | .writeRegister _ _ => none

namespace AddressSpace

/-- The kernel translates through the table of a space that has its frames. -/
structure Active (kernel : Kernel geometry) (space : AddressSpace) : Prop where
  backed : space.Backed kernel
  installed : kernel.machine.installed = some ⟨space.table, space.pages⟩

/-- The address is that of a word of the space. -/
def Reaches (space : AddressSpace) (pageSize : Nat) (address : UInt32) : Prop :=
  address.toNat % Word.size = 0 ∧ address.toNat < space.pages * pageSize

instance (space : AddressSpace) (pageSize : Nat) (address : UInt32) :
    Decidable (space.Reaches pageSize address) :=
  inferInstanceAs (Decidable (_ ∧ _))

/-- Since `before`, an access changed at most registers, the bytes of the space and its table,
and left every space its table. -/
structure Confined (space : AddressSpace) (before after : Kernel geometry) : Prop where
  frames : after.frames = before.frames
  installed : after.machine.installed = before.machine.installed
  backed : ∀ other, Backed before other → Backed after other
  byte : ∀ other, space.Apart other → ∀ offset < other.pages * geometry.pageSize,
    other.byteAt? after offset = other.byteAt? before offset

end AddressSpace

namespace Kernel

/-- The kernel after a translation marked a page of the space as used. -/
def touched (kernel : Kernel geometry) (space : AddressSpace) (page : Nat) : Kernel geometry :=
  { kernel with
    tables := kernel.tables.put space.table ((kernel.tables.table space.table).markUsed page) }

/-- The kernel after a write of a word at an address of the space. -/
def written (kernel : Kernel geometry) (space : AddressSpace) (address value : UInt32) :
    Kernel geometry :=
  { kernel.touched space (address.toNat / geometry.pageSize) with
    machine := {
      kernel.machine with
      memory := kernel.machine.memory.storeWord
        (space.firstFrame * geometry.pageSize + address.toNat) value
    } }

-- What a write leaves alone is stated field by field: without these lemmas a comparison of the
-- two kernels compares their memories first, byte by byte.

@[simp] theorem frames_written (kernel : Kernel geometry) (space : AddressSpace)
    (address value : UInt32) : (kernel.written space address value).frames = kernel.frames := by
  simp only [written, touched]

@[simp] theorem installed_written (kernel : Kernel geometry) (space : AddressSpace)
    (address value : UInt32) :
    (kernel.written space address value).machine.installed = kernel.machine.installed := by
  simp only [written]

@[simp] theorem registers_written (kernel : Kernel geometry) (space : AddressSpace)
    (address value : UInt32) :
    (kernel.written space address value).machine.registers = kernel.machine.registers := by
  simp only [written]

@[simp] theorem tables_written (kernel : Kernel geometry) (space : AddressSpace)
    (address value : UInt32) :
    (kernel.written space address value).tables =
      (kernel.touched space (address.toNat / geometry.pageSize)).tables := by
  simp only [written]

/-! ### Accesses one by one -/

/-- An access to a word ends with the exception of its translation. -/
theorem run_access_of_fault {request : Access} {exception : Exception} {events : List Event}
    (named : request.address? = some address)
    (faulted : (translate address).run kernel = .ok ⟨.error exception, kernel, events⟩) :
    (access request).run kernel = .ok ⟨.error exception, kernel, events⟩ := by
  cases request with
  | translate =>
      cases named
      rw [access, run_map, faulted]
      rfl
  | readWord =>
      cases named
      rw [access, run_map, readWord, run_bind_of_failure faulted]
      rfl
  | writeWord =>
      cases named
      rw [access, run_map, writeWord, run_bind_of_failure faulted]
      rfl
  | readRegister | writeRegister => cases named

variable {report : Report (Kernel geometry) Exception Access.Answer}

theorem readRegister_cases {index : Nat}
    (ran : (access (.readRegister index)).run kernel = .ok report) :
    ∃ value, kernel.machine.registers[index]? = some value ∧
      report = ⟨.ok (.register value), kernel, []⟩ := by
  rw [access, run_map, readRegister, run_bind, run_view] at ran
  cases held : kernel.machine.registers[index]? with
  | none => simp [held, Except.map] at ran
  | some value =>
      simp only [held, run_pure] at ran
      cases ran
      exact ⟨value, rfl, rfl⟩

theorem writeRegister_cases {index : Nat} {value : Int32}
    (ran : (access (.writeRegister index value)).run kernel = .ok report) :
    report = ⟨.ok .done, { kernel with machine := {
      kernel.machine with
      registers := kernel.machine.registers.setIfInBounds index value } }, []⟩ := by
  rw [access, run_map, writeRegister] at ran
  by_cases inside : index < registerCount
  · rw [require_of inside] at ran
    cases ran
    rfl
  · rw [require_of_not inside] at ran
    cases ran

/-! ### Without a table -/

theorem run_translate_of_idle (idle : kernel.machine.installed = none) :
    (translate address).run kernel =
      .ok ⟨.error .addressError, kernel, [.faulted (.nothingInstalled address)]⟩ := by
  simp [translate, run_bind, idle, Fault.exception, Except.map, Report.after]

/-- Without a table no word can be named, and no table is installed. -/
theorem access_of_idle (idle : kernel.machine.installed = none) {request : Access}
    (ran : (access request).run kernel = .ok report) :
    report.state.machine.installed = none ∧
      ∀ address, request.address? = some address → report.result = .error .addressError := by
  cases request with
  | translate address | readWord address | writeWord address =>
      rw [run_access_of_fault rfl (run_translate_of_idle idle)] at ran
      cases ran
      exact ⟨idle, fun _ _ => rfl⟩
  | readRegister index =>
      obtain ⟨value, -, rfl⟩ := readRegister_cases ran
      exact ⟨idle, fun _ named => nomatch named⟩
  | writeRegister index value =>
      cases writeRegister_cases ran
      exact ⟨idle, fun _ named => nomatch named⟩

/-! ### Under the table of a space -/

section Active

variable (active : space.Active kernel)
include active

theorem run_translate_of_active :
    (translate address).run kernel =
      ((PageTable.translate geometry address).run (kernel.tables.table space.table)).map
        fun report => { report with
          state := { kernel with tables := kernel.tables.put space.table report.state } } := by
  have size := active.backed.linear.size_eq
  simp only [translate, run_bind, run_view, active.installed, require_of size, run_pure, onTable,
    run_within]
  cases (PageTable.translate geometry address).run (kernel.tables.table space.table) <;> rfl

theorem run_translate_of_reaches (reached : space.Reaches geometry.pageSize address) :
    (translate address).run kernel =
      .ok ⟨.ok (space.firstFrame * geometry.pageSize + address.toNat),
        kernel.touched space (address.toNat / geometry.pageSize),
        [.translated address (space.firstFrame * geometry.pageSize + address.toNat)]⟩ := by
  rw [run_translate_of_active active, active.backed.linear.run_translate_inside
    kernel.machine.usable active.backed.inside reached.1 reached.2]
  rfl

theorem run_translate_of_not_reaches (outside : ¬ space.Reaches geometry.pageSize address) :
    ∃ fault, (translate address).run kernel =
      .ok ⟨.error .addressError, kernel, [.faulted fault]⟩ := by
  have outside : address.toNat % Word.size ≠ 0 ∨
      space.pages * geometry.pageSize ≤ address.toNat :=
    (Decidable.not_and_iff_or_not.mp outside).imp id Nat.le_of_not_lt
  obtain ⟨fault, ran⟩ :=
    active.backed.linear.run_translate_outside kernel.machine.usable.valid outside
  refine ⟨fault, ?_⟩
  rw [run_translate_of_active active, ran]
  simp only [Except.map, TableStore.put_self]

/-- A word that the space reaches ends inside the space, and so inside memory. -/
theorem past_le_of_reaches (reached : space.Reaches geometry.pageSize address) :
    address.toNat + Word.size ≤ space.pages * geometry.pageSize ∧
      space.firstFrame * geometry.pageSize + address.toNat + Word.size ≤ geometry.bytes := by
  have framed := Geometry.run_add_le_bytes active.backed.inside
  have room := kernel.machine.usable.valid.word_in_pages reached.2 reached.1
  omega

theorem run_readWord_of_reaches (reached : space.Reaches geometry.pageSize address) :
    ∃ value,
      kernel.machine.memory.word? (space.firstFrame * geometry.pageSize + address.toNat) =
        some value ∧
      (readWord address).run kernel =
        .ok ⟨.ok value, kernel.touched space (address.toNat / geometry.pageSize),
          [.translated address (space.firstFrame * geometry.pageSize + address.toNat)]⟩ := by
  have held := (past_le_of_reaches active reached).2
  have found := (Memory.word?_isSome_iff kernel.machine.memory _).mpr held
  obtain ⟨value, found⟩ := Option.isSome_iff_exists.mp found
  refine ⟨value, found, ?_⟩
  have translated := run_translate_of_reaches active reached
  simp [readWord, run_bind, translated, touched, found, Except.map, Report.after]

theorem run_writeWord_of_reaches (reached : space.Reaches geometry.pageSize address) :
    (writeWord address value).run kernel =
      .ok ⟨.ok (), kernel.written space address value,
        [.translated address (space.firstFrame * geometry.pageSize + address.toNat)]⟩ := by
  have held := (past_le_of_reaches active reached).2
  have translated := run_translate_of_reaches active reached
  simp [writeWord, run_bind, translated, require_of held, updateMachine, written, touched,
    Except.map, Report.after]

end Active

/-! ### Outcomes -/

/-- The ways in which an access can end under a space. -/
inductive Outcome (kernel : Kernel geometry) (space : AddressSpace) :
    Access → Except Exception Access.Answer → Kernel geometry → Prop where
  | faulted {request : Access} {address : UInt32} (named : request.address? = some address)
      (outside : ¬ space.Reaches geometry.pageSize address) :
      Outcome kernel space request (.error .addressError) kernel
  | translated {address : UInt32} (reached : space.Reaches geometry.pageSize address) :
      Outcome kernel space (.translate address)
        (.ok (.physical (space.firstFrame * geometry.pageSize + address.toNat)))
        (kernel.touched space (address.toNat / geometry.pageSize))
  | wordRead {address value : UInt32} (reached : space.Reaches geometry.pageSize address)
      (held : kernel.machine.memory.word?
        (space.firstFrame * geometry.pageSize + address.toNat) = some value) :
      Outcome kernel space (.readWord address) (.ok (.word value))
        (kernel.touched space (address.toNat / geometry.pageSize))
  | wordWritten {address value : UInt32} (reached : space.Reaches geometry.pageSize address) :
      Outcome kernel space (.writeWord address value) (.ok .done)
        (kernel.written space address value)
  | registerRead {index : Nat} {value : Int32}
      (held : kernel.machine.registers[index]? = some value) :
      Outcome kernel space (.readRegister index) (.ok (.register value)) kernel
  | registerWritten {index : Nat} {value : Int32} :
      Outcome kernel space (.writeRegister index value) (.ok .done)
        { kernel with machine := {
            kernel.machine with
            registers := kernel.machine.registers.setIfInBounds index value } }

theorem outcome_of_access (active : space.Active kernel) {request : Access}
    (ran : (access request).run kernel = .ok report) :
    Outcome kernel space request report.result report.state := by
  have faulted : ∀ address, request.address? = some address →
      ¬ space.Reaches geometry.pageSize address →
        Outcome kernel space request report.result report.state := by
    intro address named outside
    obtain ⟨fault, course⟩ := run_translate_of_not_reaches active outside
    rw [run_access_of_fault named course] at ran
    cases ran
    exact .faulted named outside
  cases request with
  | translate address =>
      by_cases reached : space.Reaches geometry.pageSize address
      · rw [access, run_map, run_translate_of_reaches active reached] at ran
        cases ran
        exact .translated reached
      · exact faulted address rfl reached
  | readWord address =>
      by_cases reached : space.Reaches geometry.pageSize address
      · obtain ⟨value, held, course⟩ := run_readWord_of_reaches active reached
        rw [access, run_map, course] at ran
        cases ran
        exact .wordRead reached held
      · exact faulted address rfl reached
  | writeWord address value =>
      by_cases reached : space.Reaches geometry.pageSize address
      · rw [access, run_map, run_writeWord_of_reaches active reached] at ran
        cases ran
        exact .wordWritten reached
      · exact faulted address rfl reached
  | readRegister index =>
      obtain ⟨value, held, rfl⟩ := readRegister_cases ran
      exact .registerRead held
  | writeRegister index value =>
      cases writeRegister_cases ran
      exact .registerWritten

/-! ### Confinement -/

/-- A table with one more page marked as used still maps the pages of its space. -/
theorem backed_of_tables {after : Kernel geometry} (page : Nat) (owned : space.Backed kernel)
    (tables : after.tables = (kernel.touched space page).tables)
    (frames : after.frames = kernel.frames) (backed : other.Backed kernel) :
    other.Backed after where
  issued := by
    rw [tables]
    exact TableStore.issued_put.mpr backed.issued
  linear := by
    rw [tables, touched, TableStore.table_put _ _ _ _ owned.issued]
    by_cases same : other.table = space.table
    · rw [if_pos same, ← same]
      exact backed.linear.markUsed page
    · rw [if_neg same]
      exact backed.linear
  taken := by
    rw [frames]
    exact backed.taken
  inside := backed.inside

theorem confined_of_outcome (active : space.Active kernel) {request : Access}
    {result : Except Exception Access.Answer} {after : Kernel geometry}
    (outcome : Outcome kernel space request result after) : space.Confined kernel after := by
  have owned := active.backed
  cases outcome with
  | faulted | registerRead => exact ⟨rfl, rfl, fun _ backed => backed, fun _ _ _ _ => rfl⟩
  | registerWritten =>
      exact ⟨rfl, rfl, fun _ backed => backed.congr rfl rfl, fun _ _ _ _ => rfl⟩
  | translated | wordRead =>
      exact ⟨rfl, rfl, fun _ => backed_of_tables _ owned rfl rfl, fun _ _ _ _ => rfl⟩
  | @wordWritten address value reached =>
      have tables := tables_written kernel space address value
      have frames := frames_written kernel space address value
      refine ⟨frames, installed_written _ _ _ _,
        fun _ => backed_of_tables _ owned tables frames, ?_⟩
      intro other apart offset inside
      have past := (past_le_of_reaches active reached).1
      have disjoint := apart.bytes geometry.pageSize
      apply Memory.getElem?_storeWord_outside
      omega

theorem active_of_outcome (active : space.Active kernel) {request : Access}
    {result : Except Exception Access.Answer} {after : Kernel geometry}
    (outcome : Outcome kernel space request result after) : space.Active after := by
  have confined := confined_of_outcome active outcome
  exact ⟨confined.backed space active.backed, confined.installed.trans active.installed⟩

end Kernel

end PagedKernel
