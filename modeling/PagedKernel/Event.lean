import PagedKernel.Image.Header
import PagedKernel.Memory
import PagedKernel.Space.Error

/-!
Contract: the kernel's log.

Owns: the events that the kernel records, and for each its severity, the part
of the kernel that speaks, and its text, with the numbers that processes have in
it. Everything else refers to events by what happened, never by their text.

Does not own: when an event is recorded, or where the log goes.
-/

namespace PagedKernel

/-- A process, by its place in the count of all processes of the kernel. -/
structure Pid where
  serial : Nat
deriving DecidableEq, Repr

/-- The number of the process, which is what the kernel keeps and shows of the count: it counts in
64 bits, and starts again at 0 where they do not suffice. -/
def Pid.number (pid : Pid) : Nat := pid.serial % UInt64.size

def Pid.text (pid : Pid) : String := s!"Pid#{pid.number}"

inductive Severity where
  | error
  | info
  | debug
  | trace
deriving DecidableEq, Repr

def Severity.label : Severity → String
  | .error => "ERROR"
  | .info => "INFO"
  | .debug => "DEBUG"
  | .trace => "TRACE"

/-- The parts of the kernel that record events. -/
inductive Subsystem where
  | frames
  | addressing
  | spaces
  | scheduling
deriving DecidableEq, Repr

def Subsystem.label : Subsystem → String
  | .frames => "frames"
  | .addressing => "translate"
  | .spaces => "addrspace"
  | .scheduling => "sched"

inductive Event where
  | framesReserved (first past : Nat)
  | framesRefused (shortage : FrameShortage)
  | faulted (fault : Fault)
  | translated (address : UInt32) (physical : Nat)
  | headerRead (header : Header) (order : ByteOrder)
  | spaceLaidOut (pages bytes firstFrame : Nat)
  | segmentPlaced (kind : SegmentKind) (physical : Nat) (size : UInt32)
  | parentCopied (parent child : ByteRange)
  | stackSet (value : Int32)
  | spaceReleased (firstFrame pages : Nat)
  | buildRefused (error : BuildError)
  | executed (name : String) (pid : Pid) (pages : Nat)
  | forked (parent child : Pid)
  | exited (pid : Pid) (name : String)
  | switched (pid : Pid) (name : String)
deriving DecidableEq, Repr

namespace Event

def severity : Event → Severity
  | .framesRefused _ => .error
  | .buildRefused _ => .error
  | .executed _ _ _ => .info
  | .forked _ _ => .info
  | .exited _ _ => .info
  | .translated _ _ => .trace
  | _ => .debug

def subsystem : Event → Subsystem
  | .framesReserved _ _ => .frames
  | .framesRefused _ => .frames
  | .faulted _ => .addressing
  | .translated _ _ => .addressing
  | .executed _ _ _ => .scheduling
  | .forked _ _ => .scheduling
  | .exited _ _ => .scheduling
  | .switched _ _ => .scheduling
  | _ => .spaces

end Event

/-! ### Texts -/

def Fault.text : Fault → String
  | .nothingInstalled address => s!"no page table installed for {Hex.text address.toNat}"
  | .misaligned address => s!"alignment problem at {Hex.text address.toNat}"
  | .beyondTable page size => s!"virtual page {page} too large for page table size {size}"
  | .notValid page => s!"virtual page {page} is not valid"
  | .noSuchFrame frame frames page => s!"frame {frame} >= {frames} for virtual page {page}"

def Segment.text (segment : Segment) : String :=
  s!"Segment \x7b size: {segment.size}, virtual_addr: {segment.address}, " ++
    s!"in_file_addr: {segment.offset} \x7d"

def Header.text (header : Header) : String :=
  s!"NoffHeader \x7b noff_magic: {header.magic}, code: {header.code.text}, " ++
    s!"init_data: {header.initialized.text}, uninit_data: {header.uninitialized.text} \x7d"

def ByteOrder.text : ByteOrder → String
  | .native => "Native"
  | .swapped => "Swapped"

def ByteRange.text (range : ByteRange) : String :=
  s!"{Hex.text range.first}..{Hex.text range.past}"

def Event.text : Event → String
  | .framesReserved first past => s!"reserved frames {first}..{past} ({past} committed)"
  | .framesRefused shortage =>
      s!"cannot reserve {shortage.requested} frames: " ++
        s!"{shortage.committed}/{shortage.total} already committed"
  | .faulted fault => fault.text
  | .translated address physical => s!"{Hex.text address.toNat} -> phys {Hex.text physical}"
  | .headerRead header order => s!"NOFF header ({order.text} byte order): {header.text}"
  | .spaceLaidOut pages bytes firstFrame =>
      s!"initializing address space, num pages {pages}, size {bytes}, " ++
        s!"frames {firstFrame}..{firstFrame + pages}"
  | .segmentPlaced kind physical size =>
      s!"initializing {kind.label} segment at {Hex.text physical}, size {size}"
  | .parentCopied parent child => s!"copying parent memory {parent.text} to {child.text}"
  | .stackSet value => s!"initializing stack register to {value}"
  | .spaceReleased firstFrame pages =>
      s!"dropping address space, frames {firstFrame}..{firstFrame + pages} stay committed"
  | .buildRefused error => s!"cannot build address space: {error.message}"
  | .executed name pid pages => s!"exec {name} ({pid.text}, {pages} pages)"
  | .forked parent child => s!"fork {parent.text} -> {child.text}"
  | .exited pid name => s!"{pid.text} ({name}) exited"
  | .switched pid name => s!"switched to {pid.text} ({name})"

end PagedKernel
