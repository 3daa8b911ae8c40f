/-!
Contract: why an address does not translate.

Owns: the faults that an address can have, with what was found, and the
exception that a fault raises in the user program. Several faults raise one
exception; the fault itself is only recorded.

Does not own: when a fault arises (`PageTable.Translate`, `Kernel`).
-/

namespace PagedKernel

/-- What a user program sees of a failed memory reference. -/
inductive Exception where
  /-- A misaligned address, or one outside the address space. -/
  | addressError
  /-- A page that nothing backs. -/
  | pageFault
  /-- A frame that the machine does not have. -/
  | busError
deriving DecidableEq, Repr

def Exception.message : Exception → String
  | .addressError => "address error"
  | .pageFault => "page fault"
  | .busError => "bus error"

/-- What is wrong with an address, in the order in which the checks are made. -/
inductive Fault where
  | nothingInstalled (address : UInt32)
  | misaligned (address : UInt32)
  | beyondTable (page size : Nat)
  | notValid (page : Nat)
  | noSuchFrame (frame frames page : Nat)
deriving DecidableEq, Repr

def Fault.exception : Fault → Exception
  | .nothingInstalled _ => .addressError
  | .misaligned _ => .addressError
  | .beyondTable _ _ => .addressError
  | .notValid _ => .pageFault
  | .noSuchFrame _ _ _ => .busError

end PagedKernel
