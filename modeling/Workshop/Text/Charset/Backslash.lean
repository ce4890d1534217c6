import Workshop.Text.Percent

/-!
# Characters behind backslashes

A text of bytes in which a backslash and a number stand for the character with the number
(`Backslash.numbered?`), or in which marks behind a backslash stand for other characters as well
(`Backslash.marked?`).  Every other byte stands for the character with its number.  Main statement:
without backslashes, each byte stands for the character with its number.
-/

namespace Workshop.Text.Charset

namespace Backslash

/-- The number that so many hexadecimal digits denote, and the bytes behind them. -/
def hexadecimal? : Nat → Nat → List UInt8 → Option (Nat × List UInt8)
  | 0, n, bytes => some (n, bytes)
  | k + 1, n, b :: bytes => (Percent.digit? b).bind fun d => hexadecimal? k (n * 16 + d) bytes
  | _ + 1, _, [] => none

/-- The number that octal digits denote, so many at most, and the bytes behind them. -/
def octal : Nat → Nat → List UInt8 → Nat × List UInt8
  | k + 1, n, b :: bytes =>
    if 0x30 ≤ b ∧ b ≤ 0x37 then octal k (n * 8 + (b.toNat - 0x30)) bytes else (n, b :: bytes)
  | _, n, bytes => (n, bytes)

/-- How many hexadecimal digits follow a letter behind a backslash. -/
def digits? (b : UInt8) : Option Nat :=
  if b = 0x75 then some 4 else if b = 0x55 then some 8 else none

/-- The number of a character that so many digits denote, and the bytes behind them. -/
def character? (digits : Nat) (bytes : List UInt8) : Option (Nat × List UInt8) :=
  (hexadecimal? digits 0 bytes).filter fun (n, _) => n < 0x110000

/-- The characters that a letter behind a backslash stands for. -/
def marks : List (UInt8 × Nat) :=
  [ (0x5C, 0x5C), (0x27, 0x27), (0x22, 0x22), (0x61, 0x07), (0x62, 0x08), (0x66, 0x0C),
    (0x6E, 0x0A), (0x72, 0x0D), (0x74, 0x09), (0x76, 0x0B) ]

/-- What the mark `b` stands for behind a backslash, and the bytes behind that.  The end of a line
is left out, and a mark that stands for nothing keeps its backslash. -/
def mark? (b : UInt8) (bytes : List UInt8) : Option (List Nat × List UInt8) :=
  if b = 0x0A then some ([], bytes)
  else if b = 0x4E then none
  else if 0x30 ≤ b ∧ b ≤ 0x37 then
    let (n, rest) := octal 3 0 (b :: bytes)
    some ([n], rest)
  else
    match (digits? b).or (if b = 0x78 then some 2 else none), marks.lookup b with
    | some digits, _ => (character? digits bytes).map fun (n, rest) => ([n], rest)
    | none, some n => some ([n], bytes)
    | none, none => some ([0x5C, b.toNat], bytes)

/-- What the letter `b` stands for behind a backslash if only numbers count, and the bytes behind
that. -/
def number? (b : UInt8) (bytes : List UInt8) : Option (List Nat × List UInt8) :=
  match digits? b with
  | some digits => (character? digits bytes).map fun (n, rest) => ([n], rest)
  | none => some ([0x5C, b.toNat], bytes)

/-- Reads bytes, given what may stand behind a backslash and what the last byte stands for if it is
one.  So many bytes are read at most. -/
def decode? (behind? : UInt8 → List UInt8 → Option (List Nat × List UInt8))
    (last? : Option (List Nat)) : Nat → List UInt8 → Option (List Nat)
  | _, [] => some []
  | 0, _ :: _ => none
  | _ + 1, [0x5C] => last?
  | k + 1, 0x5C :: b :: bytes => do
    let (ns, rest) ← behind? b bytes
    return ns ++ (← decode? behind? last? k rest)
  | k + 1, b :: bytes => (decode? behind? last? k bytes).map (b.toNat :: ·)

/-- Reads bytes in which marks and numbers follow backslashes. -/
def marked? (bytes : List UInt8) : Option (List Nat) :=
  decode? mark? none bytes.length bytes

/-- Reads bytes in which numbers follow backslashes. -/
def numbered? (bytes : List UInt8) : Option (List Nat) :=
  decode? number? (some [0x5C]) bytes.length bytes

/-- Bytes without backslashes stand for the characters with their numbers. -/
theorem decode?_of_not_mem (behind? : UInt8 → List UInt8 → Option (List Nat × List UInt8))
    (last? : Option (List Nat)) {bytes : List UInt8} (h : 0x5C ∉ bytes) :
  decode? behind? last? bytes.length bytes = some (bytes.map UInt8.toNat)
  := by
  induction bytes with
  | nil => rfl
  | cons b bytes ih =>
    simp only [List.mem_cons, not_or] at h
    rw [List.length_cons, decode?, ih h.2]
    · rfl
    · exact fun hb _ => h.1 hb.symm
    · exact fun _ _ hb _ => h.1 hb.symm

end Backslash

end Workshop.Text.Charset
