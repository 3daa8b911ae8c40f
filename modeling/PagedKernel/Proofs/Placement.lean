import PagedKernel.Image.Place
import PagedKernel.Proofs.Memory
import PagedKernel.Proofs.Translation

/-!
Contract: copying of segments through a table with consecutive frames.

Owns:
- `refusal?`, which lists the causes that keep a segment out of a space in the
  order in which they are found;
- `copied`, the target after a segment, and what it leaves alone;
- the end of `place` in these words, which shows that no copy
  crashes or faults on a page;
- the events that a copy records (`Event.Placing`).

Does not own: where the table comes from.
-/

namespace PagedKernel

/-- An event of the copying of segments. -/
def Event.Placing : Event → Prop
  | .faulted _ | .translated _ _ | .segmentPlaced _ _ _ => True
  | _ => False

namespace Segment

open PagedKernel.Action

variable {geometry : Geometry} {firstFrame pages : Nat}

/-! ### Refusals -/

/-- The bytes of the segment that the file yields. -/
def content (segment : Segment) (file : File) : List UInt8 :=
  file.readAt segment.size.toNat segment.offset.toNat

/-- The first cause that keeps the segment from being copied whole into `spaceBytes` bytes. -/
def refusal? (segment : Segment) (kind : SegmentKind) (file : File) (spaceBytes : Nat) :
    Option ImageError :=
  if segment.size = 0 then none
  else if spaceBytes < segment.past then some (.segmentOutOfRange kind)
  else if segment.address.toNat % Word.size ≠ 0 then some (.segmentFault kind .addressError)
  else if (segment.content file).length ≠ segment.size.toNat then
    some (.truncatedSegment kind segment.size.toNat (segment.content file).length)
  else none

/-- The first refusal among several segments. -/
def refusalAmong? (file : File) (spaceBytes : Nat) (segments : List (SegmentKind × Segment)) :
    Option ImageError :=
  segments.findSome? fun entry => entry.2.refusal? entry.1 file spaceBytes

/-- How a copy ends that a refusal, if there is one, stops. -/
def ending : Option ImageError → Except ImageError Unit
  | none => .ok ()
  | some error => .error error

/-! ### The target of a copy -/

/-- Some bytes of the segment are written: it is not empty and its start has a place. -/
def Starts (segment : Segment) (spaceBytes : Nat) : Prop :=
  segment.size ≠ 0 ∧ segment.past ≤ spaceBytes ∧ segment.address.toNat % Word.size = 0

instance (segment : Segment) (spaceBytes : Nat) : Decidable (segment.Starts spaceBytes) :=
  inferInstanceAs (Decidable (_ ∧ _ ∧ _))

/-- The target with the bytes of the segment that can be read, if it starts. -/
def copied (segment : Segment) (file : File) (geometry : Geometry) (firstFrame pages : Nat)
    (target : Target geometry.bytes) : Target geometry.bytes :=
  if segment.Starts (pages * geometry.pageSize) then
    { table := target.table.markUsed (segment.address.toNat / geometry.pageSize)
      memory := target.memory.store (firstFrame * geometry.pageSize + segment.address.toNat)
        (segment.content file) }
  else target

/-- The target after the segments up to the first that is refused. -/
def copiedAll (file : File) (geometry : Geometry) (firstFrame pages : Nat) :
    List (SegmentKind × Segment) → Target geometry.bytes → Target geometry.bytes
  | [], target => target
  | (kind, segment) :: rest, target =>
      match segment.refusal? kind file (pages * geometry.pageSize) with
      | some _ => segment.copied file geometry firstFrame pages target
      | none =>
          copiedAll file geometry firstFrame pages rest
            (segment.copied file geometry firstFrame pages target)

theorem copied_of_starts {segment : Segment} {file : File} {target : Target geometry.bytes}
    (starts : segment.Starts (pages * geometry.pageSize)) :
    segment.copied file geometry firstFrame pages target =
      { table := target.table.markUsed (segment.address.toNat / geometry.pageSize)
        memory := target.memory.store (firstFrame * geometry.pageSize + segment.address.toNat)
          (segment.content file) } :=
  if_pos starts

theorem copied_of_not_starts {segment : Segment} {file : File} {target : Target geometry.bytes}
    (refused : ¬ segment.Starts (pages * geometry.pageSize)) :
    segment.copied file geometry firstFrame pages target = target :=
  if_neg refused

theorem length_content_le (segment : Segment) (file : File) :
    (segment.content file).length ≤ segment.size.toNat :=
  file.length_readAt_le _ _

theorem getElem?_content {segment : Segment} {file : File} {index : Nat}
    (inside : index < (segment.content file).length) :
    (segment.content file)[index]? = file.contents[segment.offset.toNat + index]? := by
  have limited : index < file.readLimit segment.size.toNat := by
    rw [content, File.length_readAt] at inside
    omega
  rw [content, File.readAt, List.getElem?_take_of_lt limited, List.getElem?_drop]

theorem copied_linear (segment : Segment) (file : File) {target : Target geometry.bytes}
    (linear : target.table.Linear firstFrame pages) :
    (segment.copied file geometry firstFrame pages target).table.Linear firstFrame pages := by
  unfold copied
  split
  · exact linear.markUsed _
  · exact linear

/-- A copy writes no byte outside the frames of the table. -/
theorem copied_outside {segment : Segment} {file : File} {target : Target geometry.bytes}
    {position : Nat} (outside : position < firstFrame * geometry.pageSize ∨
      (firstFrame + pages) * geometry.pageSize ≤ position) :
    (segment.copied file geometry firstFrame pages target).memory[position]? =
      target.memory[position]? := by
  unfold copied
  split
  · rename_i starts
    have inside := starts.2.1
    have available := segment.length_content_le file
    apply Memory.getElem?_store_outside
    simp only [past, Nat.add_mul] at *
    omega
  · rfl

theorem copiedAll_linear {file : File} {segments : List (SegmentKind × Segment)}
    {target : Target geometry.bytes} (linear : target.table.Linear firstFrame pages) :
    (copiedAll file geometry firstFrame pages segments target).table.Linear firstFrame pages := by
  induction segments generalizing target with
  | nil => exact linear
  | cons entry rest inductionHypothesis =>
      unfold copiedAll
      split
      · exact copied_linear _ file linear
      · exact inductionHypothesis (copied_linear _ file linear)

theorem copiedAll_outside {file : File} {segments : List (SegmentKind × Segment)}
    {target : Target geometry.bytes} {position : Nat}
    (outside : position < firstFrame * geometry.pageSize ∨
      (firstFrame + pages) * geometry.pageSize ≤ position) :
    (copiedAll file geometry firstFrame pages segments target).memory[position]? =
      target.memory[position]? := by
  induction segments generalizing target with
  | nil => rfl
  | cons entry rest inductionHypothesis =>
      unfold copiedAll
      split
      · exact copied_outside outside
      · rw [inductionHypothesis, copied_outside outside]

/-! ### How a copy ends -/

theorem run_fill {size : Nat} {target : Target size} {segment : Segment} {kind : SegmentKind}
    {file : File} {physical : Nat} (room : physical + segment.size.toNat ≤ size)
    (bounded : physical + segment.size.toNat < Size.limit) :
    (segment.fill kind file physical).run target =
      .ok ⟨if (segment.content file).length = segment.size.toNat then .ok ()
          else .error (.truncatedSegment kind segment.size.toNat (segment.content file).length),
        { target with memory := target.memory.store physical (segment.content file) }, []⟩ := by
  have sum : Size.add physical segment.size.toNat = .ok (physical + segment.size.toNat) :=
    Size.add_of_lt bounded
  by_cases whole : (segment.content file).length = segment.size.toNat
  · rw [if_pos whole]
    simp only [content] at whole
    simp [fill, run_bind, sum, ensure_of room, ensure_of whole, content, Except.map, Report.after]
  · rw [if_neg whole]
    simp only [content] at whole
    simp [fill, run_bind, sum, ensure_of room, ensure_of_not whole, content, Except.map,
      Report.after]

theorem size_pos {segment : Segment} (nonempty : segment.size ≠ 0) : 0 < segment.size.toNat := by
  have nonzero : segment.size.toNat ≠ 0 := fun zero => nonempty (UInt32.toNat_inj.mp zero)
  exact Nat.pos_of_ne_zero nonzero

section Place

variable {segment : Segment} {kind : SegmentKind} {file : File} {target : Target geometry.bytes}

theorem run_place_of_empty (empty : segment.size = 0) :
    (segment.place kind file geometry).run target = .ok ⟨.ok (), target, []⟩ := by
  simp [place, empty]

/-- The checks of a segment that is not empty start with its range. -/
theorem run_place_of_nonempty {size : Nat} {target : Target size}
    (sized : target.table.size * geometry.pageSize < Size.limit) (nonempty : segment.size ≠ 0) :
    (segment.place kind file geometry).run target =
      (do
        ensure (segment.past ≤ target.table.size * geometry.pageSize) (.segmentOutOfRange kind)
        let physical ← segment.locateStart kind geometry
        emit (.segmentPlaced kind physical segment.size)
        segment.fill kind file physical : Action (Target size) ImageError Unit).run target := by
  have product : Size.mul target.table.size geometry.pageSize =
      .ok (target.table.size * geometry.pageSize) :=
    Size.mul_of_lt sized
  unfold place
  rw [if_neg nonempty, run_bind_of_ok (run_view _ target)]
  simp only [product]
  rw [run_bind_of_ok (run_check_ok _ target), map_after_nil, map_after_nil]

theorem run_locateStart_inside (usable : geometry.Usable)
    (linear : target.table.Linear firstFrame pages)
    (frames : firstFrame + pages ≤ geometry.frames)
    (starts : segment.Starts (pages * geometry.pageSize)) :
    (segment.locateStart kind geometry).run target =
      .ok ⟨.ok (firstFrame * geometry.pageSize + segment.address.toNat),
        { target with table := target.table.markUsed (segment.address.toNat / geometry.pageSize) },
        [.translated segment.address
          (firstFrame * geometry.pageSize + segment.address.toNat)]⟩ := by
  obtain ⟨nonempty, room, aligned⟩ := starts
  have inside : segment.address.toNat < pages * geometry.pageSize := by
    have positive := size_pos nonempty
    simp only [past] at room
    omega
  simp only [locateStart, run_within, run_mapError,
    linear.run_translate_inside usable frames aligned inside, Except.map, mapError_ok]

theorem run_locateStart_misaligned (kind : SegmentKind) (valid : geometry.Valid)
    (linear : target.table.Linear firstFrame pages)
    (misaligned : segment.address.toNat % Word.size ≠ 0) :
    ∃ fault, (segment.locateStart kind geometry).run target =
      .ok ⟨.error (.segmentFault kind .addressError), target, [.faulted fault]⟩ := by
  obtain ⟨fault, ran⟩ := linear.run_translate_outside valid (Or.inl misaligned)
  refine ⟨fault, ?_⟩
  simp only [locateStart, run_within, run_mapError, ran, Except.map, mapError_error]

/-- A copy ends with the first refusal of its segment, or with the segment in place. -/
theorem run_place (segment : Segment) (kind : SegmentKind) (file : File)
    (usable : geometry.Usable) (linear : target.table.Linear firstFrame pages)
    (frames : firstFrame + pages ≤ geometry.frames) :
    ∃ events, (∀ event ∈ events, event.Placing) ∧
      (segment.place kind file geometry).run target =
        .ok ⟨ending (segment.refusal? kind file (pages * geometry.pageSize)),
          segment.copied file geometry firstFrame pages target, events⟩ := by
  by_cases empty : segment.size = 0
  · refine ⟨[], by simp, ?_⟩
    rw [run_place_of_empty empty, copied_of_not_starts (fun starts => starts.1 empty)]
    simp [refusal?, empty, ending]
  have sized : target.table.size * geometry.pageSize < Size.limit := by
    rw [linear.size_eq]
    exact usable.run_lt_limit (by omega)
  rw [run_place_of_nonempty sized empty, linear.size_eq]
  by_cases room : segment.past ≤ pages * geometry.pageSize
  · rw [ensure_of room]
    by_cases aligned : segment.address.toNat % Word.size = 0
    · have starts : segment.Starts (pages * geometry.pageSize) := ⟨empty, room, aligned⟩
      have written : firstFrame * geometry.pageSize + segment.address.toNat +
          segment.size.toNat ≤ geometry.bytes := by
        have framed := Geometry.run_le_bytes frames
        simp only [past, Nat.add_mul] at *
        omega
      refine ⟨[.translated segment.address
          (firstFrame * geometry.pageSize + segment.address.toNat),
        .segmentPlaced kind (firstFrame * geometry.pageSize + segment.address.toNat)
          segment.size], by simp [Event.Placing], ?_⟩
      rw [copied_of_starts starts]
      simp only [pure_bind, run_bind, run_locateStart_inside usable linear frames starts,
        run_emit, run_fill written (Nat.lt_of_le_of_lt written usable.bytes_lt_limit)]
      simp only [refusal?, if_neg empty, if_neg (Nat.not_lt.mpr room),
        if_neg (not_not_intro aligned)]
      by_cases whole : (segment.content file).length = segment.size.toNat <;>
        simp [whole, ending, Except.map, Report.after]
    · obtain ⟨fault, ran⟩ := run_locateStart_misaligned kind usable.valid linear aligned
      refine ⟨[.faulted fault], by simp [Event.Placing], ?_⟩
      rw [copied_of_not_starts (fun starts => aligned starts.2.2), pure_bind,
        run_bind_of_failure ran]
      simp [refusal?, empty, Nat.not_lt.mpr room, aligned, ending]
  · refine ⟨[], by simp, ?_⟩
    rw [copied_of_not_starts (fun starts => room starts.2.1), ensure_of_not room,
      run_bind_of_failure (run_fail _ target)]
    simp [refusal?, empty, Nat.lt_of_not_le room, ending]

end Place

end Segment

end PagedKernel
