import PagedKernel.Fault
import PagedKernel.Hex

/-!
Contract: what can be wrong with an executable image.

Owns: the parts of a program that a message can speak of, and the causes for
which an image cannot be read or loaded, with their texts.
-/

namespace PagedKernel

inductive SegmentKind where
  | code
  | initialized
  | uninitialized
deriving DecidableEq, Repr

def SegmentKind.label : SegmentKind → String
  | .code => "code"
  | .initialized => "data"
  | .uninitialized => "bss"

/-- Bytes in the header of an image. -/
def headerSize : Nat := 40

inductive ImageError where
  /-- The file ends inside the header. -/
  | truncatedHeader (read : Nat)
  /-- The first word is the magic word in neither byte order. -/
  | badMagic (magic : UInt32)
  /-- The segment does not fit where it has to go. -/
  | segmentOutOfRange (kind : SegmentKind)
  /-- The start of the segment does not translate. -/
  | segmentFault (kind : SegmentKind) (exception : Exception)
  /-- The file ends inside the segment. -/
  | truncatedSegment (kind : SegmentKind) (expected read : Nat)
deriving DecidableEq, Repr

def ImageError.message : ImageError → String
  | .truncatedHeader read => s!"truncated header ({read} of {headerSize} bytes)"
  | .badMagic magic => s!"bad magic {Hex.padded 8 magic.toNat}"
  | .segmentOutOfRange kind => s!"{kind.label} segment outside address space"
  | .segmentFault kind exception => s!"{kind.label} segment start: {exception.message}"
  | .truncatedSegment kind expected read =>
      s!"truncated {kind.label} segment ({read} of {expected} bytes)"

end PagedKernel
