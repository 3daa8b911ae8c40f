import PagedKernel.Action
import PagedKernel.PageTable.Basic

/-!
Contract: the physical addresses of virtual ones under a page table.

Owns:
- `locate`, which finds the frame and the offset of an address, or the fault,
  without touching anything;
- `translate`, which also marks the page as used and records what happened;
- what `translate` does in each case of `locate`.

Does not own: which table a machine translates through (`Kernel.Access`).
-/

namespace PagedKernel

/-- Where in physical memory an address lies. -/
structure Location where
  page : Nat
  frame : Nat
  offset : Nat
deriving DecidableEq, Repr

/-- The physical address, provided that a whole word lies in memory there. -/
def Location.physical (location : Location) (geometry : Geometry) : Checked Nat := do
  let start ← Size.mul location.frame geometry.pageSize
  let physical ← Size.add start location.offset
  let past ← Size.add physical Word.size
  let size ← geometry.memorySize
  if past ≤ size then return physical else throw .brokenPromise

namespace PageTable

open PagedKernel.Action

/-- The place of an aligned address whose page is valid and has a frame of the machine. -/
def locate (table : PageTable) (geometry : Geometry) (address : UInt32) :
    Except Fault Location :=
  if address.toNat % Word.size ≠ 0 then .error (.misaligned address)
  else
    let page := address.toNat / geometry.pageSize
    match table.lookup page with
    | none => .error (.beyondTable page table.size)
    | some entry =>
        if entry.flags.valid = false then .error (.notValid page)
        else if geometry.frames ≤ entry.frame then
          .error (.noSuchFrame entry.frame geometry.frames page)
        else .ok ⟨page, entry.frame, address.toNat % geometry.pageSize⟩

/-- Answers with the physical address and marks its page as used. -/
def translate (geometry : Geometry) (address : UInt32) : Action PageTable Exception Nat := do
  require geometry.Valid .brokenPromise
  match ← view (·.locate geometry address) with
  | .error fault =>
      emit (.faulted fault)
      fail fault.exception
  | .ok location =>
      update (·.markUsed location.page)
      let physical ← check (location.physical geometry)
      emit (.translated address physical)
      return physical

/-! ### Faults and locations -/

variable {table : PageTable} {geometry : Geometry} {address : UInt32}

theorem run_translate_of_fault {fault : Fault} (valid : geometry.Valid)
    (located : table.locate geometry address = .error fault) :
    (translate geometry address).run table =
      .ok ⟨.error fault.exception, table, [.faulted fault]⟩ := by
  simp [translate, require_of valid, run_bind, located, Except.map, Report.after]

theorem run_translate_of_location {location : Location} {physical : Nat}
    (valid : geometry.Valid) (located : table.locate geometry address = .ok location)
    (fits : location.physical geometry = .ok physical) :
    (translate geometry address).run table =
      .ok ⟨.ok physical, table.markUsed location.page, [.translated address physical]⟩ := by
  simp [translate, require_of valid, run_bind, run_map, located, fits, Except.map, Report.after]

end PageTable

end PagedKernel
