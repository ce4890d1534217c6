import Workshop.Text.Charset.HostName.Kept
import Workshop.Text.Charset.Punycode
import Workshop.Text.Split

/-!
# Names of hosts

A name of a host consists of labels with dots between them.  A label of ASCII stands for itself, and
one behind a sign is written in Punycode: it must be what its characters are written as.  Main
statement: what is read behind a sign does not belong to ASCII.
-/

namespace Workshop.Text.Charset

namespace HostName

/-- The sign of labels in Punycode. -/
def sign : List UInt8 :=
  [0x78, 0x6E, 0x2D, 0x2D]

/-- The most bytes of a label that is read, and the most of one in Punycode. -/
abbrev labelLimit : Nat :=
  1024

abbrev codedLimit : Nat :=
  63

/-- The number of the small letter of ASCII in the place of a capital. -/
def small (n : Nat) : Nat :=
  if 0x41 ≤ n ∧ n ≤ 0x5A then n + 0x20 else n

/-- Whether the characters, of which those of ASCII are `before?`, are written as a label in
Punycode. -/
def isWritten (before? : Option (List UInt8)) (chars : List Nat) : Bool :=
  before? ≠ some [] && chars.any (0x80 ≤ ·) && chars.all isKept
    && !(sign.map UInt8.toNat).isPrefixOf (chars.map small)

/-- Reads a label behind the sign. -/
def decodeCoded (bytes : List UInt8) : Except Misreading (List Nat) := do
  let chars ← Punycode.decode bytes
  if sign.length + bytes.length ≤ codedLimit ∧ isWritten (Punycode.split bytes).1 chars then
    return chars
  else .error .refused

/-- What is written in Punycode does not belong to ASCII. -/
theorem exists_of_decodeCoded {bytes : List UInt8} {chars : List Nat}
    (h : decodeCoded bytes = .ok chars) :
  ∃ n ∈ chars, 0x80 ≤ n
  := by
  simp only [decodeCoded, bind, Except.bind] at h
  split at h
  · simp at h
  · split at h
    · rename_i hw
      obtain rfl := Except.ok.inj h
      simp only [isWritten, Bool.and_eq_true, List.any_eq_true, decide_eq_true_eq] at hw
      exact hw.2.1.1.2
    · simp at h

/-- Reads a label. -/
def decodeLabel (bytes : List UInt8) : Except Misreading (List Nat) :=
  if labelLimit < bytes.length then .error .refused
  else if sign.isPrefixOf bytes then decodeCoded (bytes.drop sign.length)
  else if bytes.any (0x80 ≤ ·) then .error .unreadable
  else .ok (bytes.map UInt8.toNat)

/-- Reads a name.  One of ASCII without the sign stands for itself, however long its labels are. -/
def decode (bytes : List UInt8) : Except Misreading (List Nat) :=
  if !occursIn sign bytes && bytes.all (· < 0x80) then .ok (bytes.map UInt8.toNat)
  else do
    let labels ← (split 0x2E bytes).mapM decodeLabel
    return join 0x2E labels

end HostName

end Workshop.Text.Charset
