import Workshop.Document.Shelf
import Workshop.Sorting
import Workshop.Text.Basic
import Workshop.Text.Integer

/-!
# Ranges of bytes

The head of a call may ask for ranges of the bytes of a file: `bytes=0-9, -5` asks for the first ten
bytes and the last five.  `ByteRange.read` reads which ranges those are, and `ByteRange.merge` makes
one range of those that touch.  Main statement: the ranges that are read lie in the file.
-/

namespace Workshop.Api

/-- Some bytes of a file that follow each other. -/
structure ByteRange where
  /-- How many bytes are in front of the range. -/
  start : Nat
  /-- How many bytes are in front of the range or in it. -/
  stop : Nat
deriving DecidableEq, Repr, Inhabited

namespace ByteRange

/-- Why no range can be served. -/
inductive Defect where
  | malformed
  /-- The ranges are counted in something else than bytes. -/
  | notBytes
  | noRange
  /-- A range ends where it starts, or before. -/
  | backward
  /-- A range starts behind the file. -/
  | outside
deriving DecidableEq, Repr, Inhabited

/-- The status of a reply that tells of a defect. -/
def Defect.status : Defect → Nat
  | outside => 416
  | _ => 400

/-- What is said of a defect. -/
def Defect.message : Defect → String
  | malformed => "Malformed range header."
  | notBytes => "Only support bytes range"
  | noRange => "Range header: range must be requested"
  | backward => "Range header: start must be less than end"
  | outside => ""

/-- The text without separators at its ends. -/
def trim (cs : List Char) : List Char :=
  Text.trimChars Text.isSeparator cs

/-- Reads where a range starts and where it stops, in a file of `size` bytes.  A number behind the
dash is that of the last byte, or, with no number in front of the dash, the count of bytes.  What is
no range is disregarded. -/
def bounds? (size : Nat) (piece : List Char) : Option (Int × Int) :=
  let first := trim (piece.takeWhile (· ≠ '-'))
  match piece.dropWhile (· ≠ '-') with
  | [] => none
  | _ :: rest =>
    let last := trim rest
    if first = [] then
      (Text.Integer.read? last).map fun (count : Int) => (max (size - count) 0, (size : Int))
    else
      (Text.Integer.read? first).bind fun start =>
        if last = [] then some (start, (size : Int))
        else
          (Text.Integer.read? last).map fun (last : Int) =>
            (start, if last < size then last + 1 else (size : Int))

/-- One range of any two that touch, for ranges in the order in which they start. -/
def merge : List ByteRange → List ByteRange
  | r :: q :: rest =>
    if q.start ≤ r.stop then merge (⟨r.start, max r.stop q.stop⟩ :: rest)
    else r :: merge (q :: rest)
  | rs => rs
termination_by rs => rs.length

/-- The ranges with the given bounds in a file of `size` bytes. -/
def ofBounds (size : Nat) (bounds : List (Int × Int)) : Except Defect (List ByteRange) :=
  if bounds.isEmpty then .error .noRange
  else if bounds.any fun b => b.1 < 0 ∨ size ≤ b.1 then .error .outside
  else if bounds.any fun b => b.2 ≤ b.1 then .error .backward
  else
    let ranges := bounds.map fun b => (⟨b.1.toNat, b.2.toNat⟩ : ByteRange)
    .ok (merge (sortBy (fun r q => r.start ≤ q.start) ranges))

/-- The most ranges that a header may ask for. -/
abbrev limit : Nat :=
  100

/-- Reads the ranges that a header asks for of a file of `size` bytes.  A header that asks for too
many of them asks for nothing. -/
def read (size : Nat) (header : String) : Except Defect (Option (List ByteRange)) :=
  let cs := header.toList
  match cs.dropWhile (· ≠ '=') with
  | [] => .error .malformed
  | _ :: rest =>
    if Text.lower (String.ofList (trim (cs.takeWhile (· ≠ '=')))) ≠ "bytes" then .error .notBytes
    else
      let pieces := Text.split ',' rest
      if limit < pieces.length then .ok none
      else (ofBounds size (pieces.filterMap fun piece => bounds? size (trim piece))).map some

/-- Whether a range lies in a file of `size` bytes and holds some of them. -/
def Fits (size : Nat) (r : ByteRange) : Prop :=
  r.start < r.stop ∧ r.stop ≤ size

/-- No range stops behind the file. -/
theorem le_of_bounds? {size : Nat} {piece : List Char} {b : Int × Int}
    (h : bounds? size piece = some b) :
  b.2 ≤ size
  := by
  simp only [bounds?] at h
  split at h
  · simp at h
  · split at h
    · simp only [Option.map_eq_some_iff] at h
      obtain ⟨_, _, rfl⟩ := h
      exact Int.le_refl _
    · simp only [Option.bind_eq_some_iff] at h
      obtain ⟨_, _, h⟩ := h
      split at h
      · cases h
        exact Int.le_refl _
      · simp only [Option.map_eq_some_iff] at h
        obtain ⟨_, _, rfl⟩ := h
        simp only
        split <;> omega

/-- Ranges that touch make ranges in the same file. -/
theorem fits_of_mem_merge {size : Nat} {ranges : List ByteRange} (h : ∀ r ∈ ranges, r.Fits size)
    {r : ByteRange} (hr : r ∈ merge ranges) :
  r.Fits size
  := by
  fun_induction merge ranges with
  | case1 p q rest _ ih =>
    refine ih ?_ hr
    intro s hs
    have hp := h p (by simp)
    have hq := h q (by simp)
    rcases List.mem_cons.1 hs with rfl | hs
    · simp only [Fits] at *
      omega
    · exact h s (by simp [hs])
  | case2 p q rest _ ih =>
    rcases List.mem_cons.1 hr with rfl | hr
    · exact h r (by simp)
    · exact ih (fun s hs => h s (List.mem_cons_of_mem p hs)) hr
  | case3 rs => exact h r hr

/-- The ranges that are read lie in the file. -/
theorem fits_of_mem_read {size : Nat} {header : String} {ranges : List ByteRange}
    (h : read size header = .ok (some ranges)) {r : ByteRange} (hr : r ∈ ranges) :
  r.Fits size
  := by
  simp only [read] at h
  split at h
  · simp at h
  split at h
  · simp at h
  split at h
  · simp at h
  rename_i rest _ _ _
  generalize hb : (Text.split ',' rest).filterMap (fun piece => bounds? size (trim piece)) = bounds
    at h
  have hle : ∀ b ∈ bounds, b.2 ≤ size := by
    intro b hm
    rw [← hb, List.mem_filterMap] at hm
    obtain ⟨_, _, hm⟩ := hm
    exact le_of_bounds? hm
  simp only [ofBounds] at h
  split at h
  · simp [Except.map] at h
  split at h
  · simp [Except.map] at h
  rename_i ho
  split at h
  · simp [Except.map] at h
  rename_i hd
  simp only [Except.map, Except.ok.injEq, Option.some.injEq] at h
  subst h
  refine fits_of_mem_merge (fun q hq => ?_) hr
  rw [mem_sortBy, List.mem_map] at hq
  obtain ⟨b, hm, rfl⟩ := hq
  simp only [List.any_eq_true, decide_eq_true_eq, not_exists, not_and] at ho hd
  have h1 := ho b hm
  have h2 := hd b hm
  have h3 := hle b hm
  simp only [Fits]
  omega

/-- The bytes of a file that are in the range. -/
def select (r : ByteRange) (bytes : Bytes) : Bytes :=
  (bytes.take r.stop).drop r.start

/-- As many bytes are selected as the range is long. -/
theorem length_select {r : ByteRange} {bytes : Bytes} (h : r.Fits bytes.length) :
  (r.select bytes).length = r.stop - r.start
  := by
  simp [select, Nat.min_eq_left h.2]

end ByteRange

end Workshop.Api
