import PagedKernel.Proofs.Loading.Contents

/-!
Contract: images written in the other byte order.

Owns:
- the reversal of the bytes of each of the first words of a file;
- the twin of a file, whose header words are those of the file in the other
  byte order;
- refusals and copies of segments as they depend on the file, of which they
  see only the bytes of segments that are not empty;
- the load of a twin, which answers and leaves what the load of the file does.

Does not own: what a load leaves (`Loading.Contents`). The byte order stands in
the record of a load, and nowhere else.
-/

namespace PagedKernel

open PagedKernel.Action

/-! ### Reversed words -/

namespace Word

/-- Reverses the bytes of each of the first words of a list. -/
def reverseEach : Nat → List UInt8 → List UInt8
  | count + 1, lowest :: low :: high :: highest :: rest =>
      highest :: high :: low :: lowest :: reverseEach count rest
  | _, bytes => bytes

theorem reverse_ofBytes (lowest low high highest : UInt8) :
    reverse (ofBytes lowest low high highest) = ofBytes highest high low lowest := by
  have listed := byte_ofBytes lowest low high highest
  simp only [bytes, List.cons.injEq, and_true] at listed
  obtain ⟨first, second, third, fourth⟩ := listed
  rw [reverse, first, second, third, fourth]

@[simp] theorem length_reverseEach (count : Nat) (bytes : List UInt8) :
    (reverseEach count bytes).length = bytes.length := by
  fun_induction reverseEach count bytes with
  | case1 count lowest low high highest rest inductionHypothesis =>
      simp only [List.length_cons, inductionHypothesis]
  | case2 => rfl

/-- What stands behind the reversed words stays. -/
theorem drop_reverseEach {count position : Nat} (bytes : List UInt8)
    (behind : 4 * count ≤ position) :
    (reverseEach count bytes).drop position = bytes.drop position := by
  fun_induction reverseEach count bytes generalizing position with
  | case1 count lowest low high highest rest inductionHypothesis =>
      obtain ⟨further, rfl⟩ : ∃ further, position = further + 4 := ⟨position - 4, by omega⟩
      simp only [List.drop_succ_cons]
      exact inductionHypothesis (by omega)
  | case2 => rfl

theorem wordAt_reverseEach {count index : Nat} {bytes : List UInt8}
    (enough : 4 * count ≤ bytes.length) (inside : index < count) :
    wordAt (reverseEach count bytes) index = reverse (wordAt bytes index) := by
  induction count generalizing bytes index with
  | zero => omega
  | succ count inductionHypothesis =>
      rcases bytes with _ | ⟨lowest, _ | ⟨low, _ | ⟨high, _ | ⟨highest, rest⟩⟩⟩⟩
      case cons.cons.cons.cons =>
        cases index with
        | zero => exact (reverse_ofBytes lowest low high highest).symm
        | succ index =>
            have remaining : 4 * count ≤ rest.length := by
              simp only [List.length_cons] at enough
              omega
            show wordAt (reverseEach count rest) index = reverse (wordAt rest index)
            exact inductionHypothesis remaining (by omega)
      all_goals
        simp only [List.length_cons, List.length_nil] at enough
        omega

end Word

def ByteOrder.other : ByteOrder → ByteOrder
  | .native => .swapped
  | .swapped => .native

/-- A reversed word has in the other order the value that the word has in the one. -/
theorem ByteOrder.convert_other_reverse (order : ByteOrder) (word : UInt32) :
    order.other.convert (Word.reverse word) = order.convert word := by
  cases order with
  | native => exact Word.reverse_reverse word
  | swapped => rfl

theorem Header.map_map (header : Header) (first second : UInt32 → UInt32) :
    (header.map first).map second = header.map (second ∘ first) := rfl

/-! ### Twins -/

namespace File

variable {file : File} {order : ByteOrder}

/-- The same bytes, except that each word of the header has its four in the opposite order. -/
def twin (file : File) : File :=
  { file with contents := Word.reverseEach 10 file.contents }

/-- The file has a header under the magic word in the given byte order, and its segments do not
reach back into the header. -/
structure Swappable (file : File) (order : ByteOrder) : Prop where
  whole : headerSize ≤ file.length
  magic : order.convert (file.word 0) = imageMagic
  behind : ∀ entry ∈ (file.header order).fileSegments, entry.2.size ≠ 0 →
    headerSize ≤ entry.2.offset.toNat

theorem reach_twin (file : File) : file.twin.reach = file.reach := by
  simp only [reach, readLimit, length, twin, Word.length_reverseEach]

theorem readAt_twin (file : File) (count : Nat) {position : Nat}
    (behind : headerSize ≤ position) :
    file.twin.readAt count position = file.readAt count position := by
  unfold readAt
  rw [twin, Word.drop_reverseEach file.contents behind]
  rfl

section Whole

variable (whole : headerSize ≤ file.length)
include whole

theorem word_twin {index : Nat} (inside : index < 10) :
    file.twin.word index = Word.reverse (file.word index) :=
  Word.wordAt_reverseEach whole inside

/-- A twin holds, in the other byte order, the header of its file. -/
theorem header_twin (order : ByteOrder) : file.twin.header order.other = file.header order := by
  have stored : file.twin.storedHeader = file.storedHeader.map Word.reverse := by
    simp [storedHeader, word_twin whole, Header.map, Segment.map]
  have converted : order.other.convert ∘ Word.reverse = order.convert :=
    funext order.convert_other_reverse
  rw [header, stored, Header.map_map, converted]
  rfl

end Whole

theorem Swappable.read_twin (swappable : file.Swappable order) :
    Header.read file.twin =
      (Header.read file).map fun found => (found.1, found.2.other) := by
  by_cases reached : headerSize ≤ file.reach
  · have read : Header.read file = .ok (file.header order, order) :=
      Header.read_eq_ok_iff.mpr ⟨reached, swappable.magic, rfl⟩
    have twinRead : Header.read file.twin = .ok (file.header order, order.other) := by
      apply Header.read_eq_ok_iff.mpr
      refine ⟨?_, ?_, (header_twin swappable.whole order).symm⟩
      · rw [reach_twin]
        exact reached
      · rw [word_twin swappable.whole (by decide), ByteOrder.convert_other_reverse]
        exact swappable.magic
    rw [read, twinRead]
    rfl
  · have short := Nat.lt_of_not_le reached
    have twinShort : file.twin.reach < headerSize := by
      rw [reach_twin]
      exact short
    rw [Header.read_of_short short, Header.read_of_short twinShort, reach_twin]
    rfl

end File

/-! ### Segments of two files -/

namespace Segment

variable {geometry : Geometry} {firstFrame pages : Nat} {file other : File}

/-- A segment has the same bytes in both files, unless it is empty. -/
def SameContent (file other : File) (segment : Segment) : Prop :=
  segment.size ≠ 0 → segment.content file = segment.content other

theorem refusal?_congr {segment : Segment} (kind : SegmentKind) (spaceBytes : Nat)
    (same : segment.SameContent file other) :
    segment.refusal? kind file spaceBytes = segment.refusal? kind other spaceBytes := by
  unfold refusal?
  by_cases empty : segment.size = 0
  · rw [if_pos empty, if_pos empty]
  · rw [same empty]

theorem copied_congr {segment : Segment} (target : Target geometry.bytes)
    (same : segment.SameContent file other) :
    segment.copied file geometry firstFrame pages target =
      segment.copied other geometry firstFrame pages target := by
  by_cases starts : segment.Starts (pages * geometry.pageSize)
  · rw [copied_of_starts starts, copied_of_starts starts, same starts.1]
  · rw [copied_of_not_starts starts, copied_of_not_starts starts]

variable {segments : List (SegmentKind × Segment)}

theorem refusalAmong?_congr (spaceBytes : Nat)
    (same : ∀ entry ∈ segments, entry.2.SameContent file other) :
    refusalAmong? file spaceBytes segments = refusalAmong? other spaceBytes segments := by
  induction segments with
  | nil => rfl
  | cons entry rest inductionHypothesis =>
      obtain ⟨first, later⟩ := List.forall_mem_cons.mp same
      have remaining := inductionHypothesis later
      unfold refusalAmong? at remaining ⊢
      rw [List.findSome?_cons, List.findSome?_cons, refusal?_congr entry.1 spaceBytes first,
        remaining]

theorem copiedAll_congr (target : Target geometry.bytes)
    (same : ∀ entry ∈ segments, entry.2.SameContent file other) :
    copiedAll file geometry firstFrame pages segments target =
      copiedAll other geometry firstFrame pages segments target := by
  induction segments generalizing target with
  | nil => rfl
  | cons entry rest inductionHypothesis =>
      obtain ⟨first, later⟩ := List.forall_mem_cons.mp same
      unfold copiedAll
      rw [refusal?_congr entry.1 _ first, copied_congr target first, inductionHypothesis _ later]

end Segment

/-! ### Loads of a file and of its twin -/

/-- What an action answers and the state that it leaves, without its record. -/
def Report.outcome {σ ε α : Type} (report : Report σ ε α) : Except ε α × σ :=
  (report.result, report.state)

namespace AddressSpace

variable {geometry : Geometry} {kernel : Kernel geometry} {file other : File} {header : Header}

section SameContent

variable (same : ∀ entry ∈ header.fileSegments, entry.2.SameContent file other)
include same

theorem segmentRefusal?_congr (geometry : Geometry) :
    segmentRefusal? file header geometry = segmentRefusal? other header geometry :=
  Segment.refusalAmong?_congr _ same

theorem loadedTarget_congr (kernel : Kernel geometry) :
    loadedTarget kernel file header = loadedTarget kernel other header :=
  Segment.copiedAll_congr _ same

theorem loadedKernel_congr (kernel : Kernel geometry) :
    loadedKernel kernel file header = loadedKernel kernel other header := by
  rw [loadedKernel, loadedKernel, loadedTarget_congr same]

/-- Files with one header and the same bytes in its segments are loaded alike, whichever byte order
each header is written in. -/
theorem outcome_load_congr (kernel : Kernel geometry) {order otherOrder : ByteOrder}
    (read : Header.read file = .ok (header, order))
    (otherRead : Header.read other = .ok (header, otherOrder)) :
    ((load file).run kernel).map (·.outcome) = ((load other).run kernel).map (·.outcome) := by
  have usable := kernel.machine.usable
  by_cases bounded : header.bytesNeeded geometry < Size.limit
  · by_cases small : header.pageCount geometry ≤ geometry.frames
    · by_cases free : kernel.frames.committed + header.pageCount geometry ≤
          kernel.frames.bound geometry.frames
      · obtain ⟨events, -, ran⟩ := run_load_of_free usable read bounded small free
        obtain ⟨otherEvents, -, otherRan⟩ := run_load_of_free usable otherRead bounded small free
        rw [ran, otherRan, segmentRefusal?_congr same, loadedTarget_congr same,
          loadedKernel_congr same]
        cases segmentRefusal? other header geometry <;> rfl
      · have short := Nat.lt_of_not_le free
        rw [run_load_of_shortage usable.valid read bounded small short,
          run_load_of_shortage usable.valid otherRead bounded small short]
        rfl
    · have large := Nat.lt_of_not_le small
      rw [run_load_of_tooLarge usable.valid read bounded large,
        run_load_of_tooLarge usable.valid otherRead bounded large]
      rfl
  · have large := Nat.le_of_not_lt bounded
    rw [run_load_of_overflow read large, run_load_of_overflow otherRead large]

end SameContent

/-- A file and its twin are loaded to the same end, whatever it is: the same space or error, the
same memory, tables and taken frames. Both return if the sizes in the header are summable. -/
theorem load_twin (kernel : Kernel geometry) {order : ByteOrder}
    (swappable : file.Swappable order) :
    ((load file.twin).run kernel).map (·.outcome) = ((load file).run kernel).map (·.outcome) ∧
      (Summable file geometry → ∃ report, (load file).run kernel = .ok report) := by
  constructor
  · have twinRead := swappable.read_twin
    cases read : Header.read file with
    | error error =>
        rw [read] at twinRead
        rw [run_load_of_unreadable read, run_load_of_unreadable twinRead]
    | ok found =>
        obtain ⟨header, found⟩ := found
        rw [read] at twinRead
        have same : ∀ entry ∈ header.fileSegments, entry.2.SameContent file.twin file := by
          obtain ⟨whole, magic, rfl⟩ := Header.read_eq_ok_iff.mp read
          have unique : found = order := by
            rw [← ByteOrder.ofMagic?_eq_some_iff] at magic
            exact Option.some.inj
              (magic.symm.trans (ByteOrder.ofMagic?_eq_some_iff.mpr swappable.magic))
          subst unique
          intro entry member nonempty
          exact file.readAt_twin _ (swappable.behind entry member nonempty)
        exact outcome_load_congr same kernel twinRead read
  · intro summable
    obtain ⟨report, ran, -⟩ := run_load_of_summable kernel file summable
    exact ⟨report, ran⟩

theorem load_twin_twoWordImage :
    twoWordImage.Swappable .swapped ∧
      Header.read twoWordImage.twin = .ok (twoWordImage.header .swapped, .native) ∧
      ∃ space after events twinEvents,
        (load twoWordImage).run smallKernel = .ok ⟨.ok space, after, events⟩ ∧
        (load twoWordImage.twin).run smallKernel = .ok ⟨.ok space, after, twinEvents⟩ := by
  have swappable : twoWordImage.Swappable .swapped :=
    ⟨by decide +kernel, by decide +kernel, by decide +kernel⟩
  have read : Header.read twoWordImage.twin = .ok (twoWordImage.header .swapped, .native) :=
    Header.read_eq_ok_iff.mpr ⟨by decide +kernel, by decide +kernel, by decide +kernel⟩
  obtain ⟨space, after, events, ran⟩ := run_load_of_accepted smallKernel twoWordImage
    (summable_of_room twoWordImage (by decide)) (by decide +kernel)
  have same := (load_twin smallKernel swappable).1
  rw [ran] at same
  cases twinRan : (load twoWordImage.twin).run smallKernel with
  | error cause =>
      rw [twinRan] at same
      cases same
  | ok report =>
      obtain ⟨result, twinAfter, twinEvents⟩ := report
      rw [twinRan] at same
      cases same
      exact ⟨swappable, read, space, after, events, twinEvents, ran, rfl⟩

end AddressSpace

end PagedKernel
