import PagedKernel.Proofs.Access
import PagedKernel.Proofs.Course

/-!
Contract: translation through any installed table.

Owns:
- `PageTable.resolve` and `PageTable.referenced`, which say what a translation
  answers and what it leaves of the table, for entries of any kind;
- the fact that a mark on a page moves no address, and that every address that
  resolves is that of a whole word of memory;
- the table that a translation or an access used, if it came to an end;
- machines that translate through a table of the expected size
  (`Kernel.Through`), and what their accesses do.

Does not own: tables whose frames belong to one space (`Access`).
-/

namespace PagedKernel

open PagedKernel.Action

/-! ### Tables -/

namespace PageTable

variable {table : PageTable} {geometry : Geometry} {address other : UInt32}

/-- The physical address that the table gives an address, or the exception that it raises. -/
def resolve (table : PageTable) (geometry : Geometry) (address : UInt32) :
    Except Exception Nat :=
  match table.locate geometry address with
  | .error fault => .error fault.exception
  | .ok location => .ok (location.frame * geometry.pageSize + location.offset)

/-- The table after a translation, which marks the page of an address that has a place. -/
def referenced (table : PageTable) (geometry : Geometry) (address : UInt32) : PageTable :=
  match table.locate geometry address with
  | .error _ => table
  | .ok location => table.markUsed location.page

/-- Where memory has a machine size, a translation always ends, with what `resolve` and
`referenced` say. -/
theorem run_translate_of_valid (valid : geometry.Valid) (bounded : geometry.bytes < Size.limit)
    (table : PageTable) (address : UInt32) :
    ∃ events, (translate geometry address).run table =
      .ok ⟨table.resolve geometry address, table.referenced geometry address, events⟩ := by
  unfold resolve referenced
  cases located : table.locate geometry address with
  | error fault => exact ⟨_, run_translate_of_fault valid located⟩
  | ok location =>
      have physical := physical_of_located valid bounded located
      exact ⟨_, run_translate_of_location valid located physical⟩

theorem run_translate (usable : geometry.Usable) (table : PageTable) (address : UInt32) :
    ∃ events, (translate geometry address).run table =
      .ok ⟨table.resolve geometry address, table.referenced geometry address, events⟩ :=
  run_translate_of_valid usable.valid usable.bytes_lt_limit table address

@[simp] theorem size_referenced (table : PageTable) (geometry : Geometry) (address : UInt32) :
    (table.referenced geometry address).size = table.size := by
  unfold referenced
  split
  · rfl
  · exact size_markUsed table _

theorem Linear.referenced {firstFrame pages : Nat} (linear : table.Linear firstFrame pages)
    (geometry : Geometry) (address : UInt32) :
    (table.referenced geometry address).Linear firstFrame pages := by
  unfold PageTable.referenced
  split
  · exact linear
  · exact linear.markUsed _

/-- The mark of a page is not looked at. -/
theorem locate_markUsed (table : PageTable) (page : Nat) :
    (table.markUsed page).locate geometry address = table.locate geometry address := by
  unfold locate
  simp only [lookup_markUsed, size_markUsed]
  by_cases marked : page = address.toNat / geometry.pageSize
  · simp only [if_pos marked]
    cases table.lookup (address.toNat / geometry.pageSize) <;> rfl
  · simp only [if_neg marked]

theorem resolve_referenced (table : PageTable) :
    (table.referenced geometry other).resolve geometry address =
      table.resolve geometry address := by
  unfold referenced
  split
  · rfl
  · rw [resolve, locate_markUsed, resolve]

theorem referenced_of_fault {exception : Exception}
    (faulted : table.resolve geometry address = .error exception) :
    table.referenced geometry address = table := by
  unfold resolve at faulted
  unfold referenced
  cases located : table.locate geometry address with
  | error fault => rfl
  | ok location => simp [located] at faulted

/-- An address resolves to a multiple of the word size, behind which memory holds a whole word. -/
theorem word_of_resolve (valid : geometry.Valid) {physical : Nat}
    (resolved : table.resolve geometry address = .ok physical) :
    physical % Word.size = 0 ∧ physical + Word.size ≤ geometry.bytes := by
  unfold resolve at resolved
  cases located : table.locate geometry address with
  | error fault => simp [located] at resolved
  | ok location =>
      simp only [located, Except.ok.injEq] at resolved
      obtain ⟨aligned, -, offset, backed⟩ := locate_eq_ok located
      have framed : (location.frame + 1) * geometry.pageSize ≤ geometry.bytes :=
        Geometry.run_le_bytes backed
      have inside : location.offset < 1 * geometry.pageSize := by
        rw [offset, Nat.one_mul]
        exact Nat.mod_lt _ valid.pageSize_pos
      have whole : location.offset % Word.size = 0 := by
        rw [offset]
        exact valid.offset_aligned aligned
      have start : location.frame * geometry.pageSize % Word.size = 0 :=
        Nat.mod_eq_zero_of_dvd (Nat.dvd_mul_left_of_dvd valid.word_dvd_pageSize _)
      have room := valid.word_in_pages inside whole
      rw [Nat.add_mul] at framed
      simp only [Word.size] at *
      omega

/-- Two resolved addresses are of the same word or of words without a common byte. -/
theorem apart_of_resolve {otherTable : PageTable} (valid : geometry.Valid) {first second : Nat}
    (resolved : table.resolve geometry address = .ok first)
    (otherResolved : otherTable.resolve geometry other = .ok second) :
    first = second ∨ first + Word.size ≤ second ∨ second + Word.size ≤ first := by
  have aligned := (word_of_resolve valid resolved).1
  have otherAligned := (word_of_resolve valid otherResolved).1
  simp only [Word.size] at *
  omega

end PageTable

/-! ### Machines -/

namespace Kernel

variable {geometry : Geometry} {kernel : Kernel geometry} {mapping : Mapping}
  {address value : UInt32}

/-- The machine translates through a table of the kernel that has the expected size. -/
structure Through (kernel : Kernel geometry) (mapping : Mapping) : Prop where
  installed : kernel.machine.installed = some mapping
  issued : kernel.tables.Issued mapping.table
  size : (kernel.tables.table mapping.table).size = mapping.pages

/-- The kernel after the table of a handle was used for an address. -/
def referenced (kernel : Kernel geometry) (id : TableId) (address : UInt32) : Kernel geometry :=
  { kernel with
    tables := kernel.tables.put id ((kernel.tables.table id).referenced geometry address) }

/-- The kernel after a word was written at the physical place of an address. -/
def storedAt (kernel : Kernel geometry) (id : TableId) (address : UInt32) (physical : Nat)
    (value : UInt32) : Kernel geometry :=
  { kernel.referenced id address with
    machine := {
      kernel.machine with memory := kernel.machine.memory.storeWord physical value } }

-- As for writes under a space, each part is read by a lemma, so that no memories are compared.

@[simp] theorem installed_storedAt (kernel : Kernel geometry) (id : TableId) (address : UInt32)
    (physical : Nat) (value : UInt32) :
    (kernel.storedAt id address physical value).machine.installed = kernel.machine.installed := by
  simp only [storedAt]

@[simp] theorem registers_storedAt (kernel : Kernel geometry) (id : TableId) (address : UInt32)
    (physical : Nat) (value : UInt32) :
    (kernel.storedAt id address physical value).machine.registers = kernel.machine.registers := by
  simp only [storedAt]

@[simp] theorem memory_storedAt (kernel : Kernel geometry) (id : TableId) (address : UInt32)
    (physical : Nat) (value : UInt32) :
    (kernel.storedAt id address physical value).machine.memory =
      kernel.machine.memory.storeWord physical value := by
  simp only [storedAt]

@[simp] theorem tables_storedAt (kernel : Kernel geometry) (id : TableId) (address : UInt32)
    (physical : Nat) (value : UInt32) :
    (kernel.storedAt id address physical value).tables = (kernel.referenced id address).tables := by
  simp only [storedAt]

theorem referenced_of_fault {id : TableId} {exception : Exception}
    (faulted : (kernel.tables.table id).resolve geometry address = .error exception) :
    kernel.referenced id address = kernel := by
  rw [referenced, PageTable.referenced_of_fault faulted, TableStore.put_self]

theorem run_translate_of_installed (installed : kernel.machine.installed = some mapping)
    (size : (kernel.tables.table mapping.table).size = mapping.pages) (address : UInt32) :
    ∃ events, (translate address).run kernel =
      .ok ⟨(kernel.tables.table mapping.table).resolve geometry address,
        kernel.referenced mapping.table address, events⟩ := by
  obtain ⟨events, ran⟩ := PageTable.run_translate kernel.machine.usable
    (kernel.tables.table mapping.table) address
  refine ⟨events, ?_⟩
  simp [translate, run_bind, installed, require_of size, onTable, run_within, ran, referenced,
    Except.map, Report.after]

/-- A translation that ends found no table, or one of the expected size, which it used. -/
theorem translate_cases {report : Report (Kernel geometry) Exception Nat}
    (ran : (translate address).run kernel = .ok report) :
    (kernel.machine.installed = none ∧ report.state = kernel) ∨
      ∃ mapping, kernel.machine.installed = some mapping ∧
        report.state = kernel.referenced mapping.table address := by
  cases installed : kernel.machine.installed with
  | none =>
      rw [run_translate_of_idle installed] at ran
      cases ran
      exact Or.inl ⟨rfl, rfl⟩
  | some mapping =>
      by_cases size : (kernel.tables.table mapping.table).size = mapping.pages
      · obtain ⟨events, course⟩ := run_translate_of_installed installed size address
        rw [course] at ran
        cases ran
        exact Or.inr ⟨mapping, rfl, rfl⟩
      · simp [translate, run_bind, installed, require_of_not size, Except.map] at ran

/-- Beyond its translation, an access to a word changes at most memory. -/
theorem translate_of_access {request : Access}
    {report : Report (Kernel geometry) Exception Access.Answer}
    (named : request.address? = some address)
    (ran : (access request).run kernel = .ok report) :
    ∃ translated, (translate address).run kernel = .ok translated ∧
      report.state.tables = translated.state.tables ∧
      report.state.machine.installed = translated.state.machine.installed := by
  cases request with
  | translate =>
      cases named
      obtain ⟨translated, course, rfl⟩ := run_map_eq_ok ran
      exact ⟨translated, course, rfl, rfl⟩
  | readWord =>
      cases named
      obtain ⟨inner, word, rfl⟩ := run_map_eq_ok ran
      obtain ⟨translated, course, ⟨_, _, _, same⟩ | ⟨physical, closing, _, looked, _, same⟩⟩ :=
        run_bind_eq_ok word
      · exact ⟨translated, course, by rw [same], by rw [same]⟩
      · refine ⟨translated, course, ?_⟩
        rw [run_bind, run_view] at looked
        cases held : translated.state.machine.memory.word? physical with
        | none => simp [held, Except.map] at looked
        | some value =>
            rw [held] at looked
            cases looked
            show inner.state.tables = _ ∧ inner.state.machine.installed = _
            rw [same]
            exact ⟨rfl, rfl⟩
  | writeWord address value =>
      cases named
      obtain ⟨inner, word, rfl⟩ := run_map_eq_ok ran
      obtain ⟨translated, course, ⟨_, _, _, same⟩ | ⟨physical, closing, _, stored, _, same⟩⟩ :=
        run_bind_eq_ok word
      · exact ⟨translated, course, by rw [same], by rw [same]⟩
      · refine ⟨translated, course, ?_⟩
        by_cases held : physical + Word.size ≤ geometry.bytes
        · rw [require_of held] at stored
          cases stored
          simp only [same, Report.after, and_self]
        · rw [require_of_not held] at stored
          cases stored
  | readRegister | writeRegister => cases named

namespace Through

variable (through : kernel.Through mapping)
include through

theorem run_translate (address : UInt32) :
    ∃ events, (translate address).run kernel =
      .ok ⟨(kernel.tables.table mapping.table).resolve geometry address,
        kernel.referenced mapping.table address, events⟩ :=
  run_translate_of_installed through.installed through.size address

theorem result_translate (address : UInt32) :
    (translate address).result kernel =
      .ok ((kernel.tables.table mapping.table).resolve geometry address) := by
  obtain ⟨events, ran⟩ := through.run_translate address
  rw [result, ran]
  rfl

/-- An access to an address that does not resolve changes nothing. -/
theorem run_access_of_fault {request : Access} (named : request.address? = some address)
    {exception : Exception}
    (faulted : (kernel.tables.table mapping.table).resolve geometry address =
      .error exception) :
    ∃ events, (access request).run kernel = .ok ⟨.error exception, kernel, events⟩ := by
  obtain ⟨events, ran⟩ := through.run_translate address
  rw [faulted, Kernel.referenced_of_fault faulted] at ran
  exact ⟨events, Kernel.run_access_of_fault named ran⟩

section Resolved

variable {physical : Nat}
  (resolved : (kernel.tables.table mapping.table).resolve geometry address = .ok physical)
include resolved

theorem run_readWord_of_resolve :
    ∃ value events, kernel.machine.memory.word? physical = some value ∧
      (readWord address).run kernel =
        .ok ⟨.ok value, kernel.referenced mapping.table address, events⟩ := by
  have held := (PageTable.word_of_resolve kernel.machine.usable.valid resolved).2
  obtain ⟨value, found⟩ := Option.isSome_iff_exists.mp
    ((Memory.word?_isSome_iff kernel.machine.memory physical).mpr held)
  obtain ⟨events, ran⟩ := through.run_translate address
  rw [resolved] at ran
  refine ⟨value, events, found, ?_⟩
  simp [readWord, run_bind, ran, referenced, found, Except.map, Report.after]

theorem run_writeWord_of_resolve (value : UInt32) :
    ∃ events, (writeWord address value).run kernel =
      .ok ⟨.ok (), kernel.storedAt mapping.table address physical value, events⟩ := by
  have held := (PageTable.word_of_resolve kernel.machine.usable.valid resolved).2
  obtain ⟨events, ran⟩ := through.run_translate address
  rw [resolved] at ran
  refine ⟨events, ?_⟩
  simp [writeWord, run_bind, ran, require_of held, updateMachine, storedAt, referenced, Except.map,
    Report.after]

end Resolved

end Through

end Kernel

end PagedKernel
