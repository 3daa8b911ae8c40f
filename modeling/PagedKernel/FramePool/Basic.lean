import PagedKernel.Geometry

/-!
Contract: which physical frames are taken.

Owns: the pool of frames, taken from the bottom up and never given back, and
the report of a request that does not fit.

Does not own: the request itself (`FramePool.Reserve`), or what a frame holds.
-/

namespace PagedKernel

/-- The frames below `committed` are taken, those from there to `total` are free. -/
structure FramePool where
  total : Nat
  committed : Nat := 0
deriving DecidableEq, Repr

/-- A request for frames that did not fit, and the count it had to fit into. -/
structure FrameShortage where
  requested : Nat
  committed : Nat
  total : Nat
deriving DecidableEq, Repr

def FrameShortage.message (shortage : FrameShortage) : String :=
  s!"out of physical frames ({shortage.requested} requested, " ++
    s!"{shortage.committed}/{shortage.total} committed)"

namespace FramePool

def ofTotal (total : Nat) : FramePool := { total }

def ofGeometry (geometry : Geometry) : FramePool := ofTotal geometry.frames

/-- The pool of a kernel that runs on the standard machine. -/
def standard : FramePool := ofGeometry .standard

/-- Free frames; the kernel stops if more than all are taken. -/
def remaining (pool : FramePool) : Checked Nat := Size.sub pool.total pool.committed

end FramePool

end PagedKernel
