import Workshop.Text.Utf8

/-!
# Percent encoding

`Percent.encode` writes the UTF-8 bytes of a text, keeping the ASCII letters, the digits and the
five marks `_ . - ~ /` and writing every other byte as `%` and two capital hexadecimal digits.
`Percent.escapeChars` writes only some characters of ASCII in that way, and `Percent.decode` reads
any text, where a `%` that no two digits follow stands for itself.  Main statements: decoding the
encoding of a text gives the text, and decoding a text without `%` changes nothing.
-/

namespace Workshop.Text.Percent

/-- The characters that stand for themselves. -/
def isKept (c : Char) : Bool :=
  c.isAlphanum || c == '_' || c == '.' || c == '-' || c == '~' || c == '/'

/-- The capital hexadecimal digit of `n < 16`. -/
def hexDigit (n : Nat) : Char :=
  if n < 10 then Char.ofNat (0x30 + n) else Char.ofNat (0x37 + n)

/-- The sign `%` and the two digits of a byte. -/
def escape (b : UInt8) : List Char :=
  ['%', hexDigit (b.toNat / 16), hexDigit (b.toNat % 16)]

/-- The encoding of one byte. -/
def encodeByte (b : UInt8) : List Char :=
  let c := Char.ofNat b.toNat
  if isKept c then [c] else escape b

/-- The characters with those of ASCII that belong to the class `p` escaped. -/
def escapeChars (p : Char → Bool) (cs : List Char) : List Char :=
  cs.flatMap fun c => if p c && c.toNat < 128 then escape (UInt8.ofNat c.toNat) else [c]

/-- The encoding of a text. -/
def encode (s : String) : String :=
  String.ofList (s.toUTF8.toList.flatMap encodeByte)

/-- The number that a hexadecimal digit writes. -/
def digit? (b : UInt8) : Option Nat :=
  let n := b.toNat
  if 0x30 ≤ n ∧ n ≤ 0x39 then some (n - 0x30)
  else if 0x41 ≤ n ∧ n ≤ 0x46 then some (n - 0x37)
  else if 0x61 ≤ n ∧ n ≤ 0x66 then some (n - 0x57)
  else none

/-- The byte that two hexadecimal digits write. -/
def byte? (a b : UInt8) : Option UInt8 := do
  let m ← digit? a
  let n ← digit? b
  return UInt8.ofNat (m * 16 + n)

/-- The bytes with the one that they write in the place of every `%` and two digits. -/
def unescape : List UInt8 → List UInt8
  | p :: a :: b :: bs =>
    match byte? a b with
    | some c => if p = 0x25 then c :: unescape bs else p :: unescape (a :: b :: bs)
    | none => p :: unescape (a :: b :: bs)
  | bs => bs

/-- The text that a text encodes. -/
def decode (s : String) : String :=
  Utf8.decode (unescape s.toUTF8.toList)

/-- A byte that is no sign of an escape stands for itself. -/
theorem unescape_cons {p : UInt8} (h : p ≠ 0x25) (bs : List UInt8) :
  unescape (p :: bs) = p :: unescape bs
  := by
  match bs with
  | [] => rfl
  | [_] => rfl
  | a :: b :: bs =>
    simp only [unescape]
    split <;> simp [h]

/-- The bytes of any other character are no sign of an escape. -/
theorem ne_sign_of_mem_utf8EncodeChar {c : Char} (hc : c ≠ '%') {b : UInt8}
    (hb : b ∈ String.utf8EncodeChar c) :
  b ≠ 0x25
  := by
  have hn : c.val.toNat ≠ 0x25 := fun h => hc (Char.ext (UInt32.toNat_inj.1 h))
  rintro rfl
  simp only [String.utf8EncodeChar] at hb
  generalize c.val.toNat = v at hb hn
  have hm {n : Nat} (h : (0x25 : UInt8) = UInt8.ofNat n) : n % 256 = 0x25 := by
    have := congrArg UInt8.toNat h
    simp at this
    omega
  split at hb
  · simp only [List.mem_singleton] at hb
    have := hm hb
    omega
  split at hb
  · simp only [List.mem_cons, List.not_mem_nil, or_false] at hb
    rcases hb with h | h <;> have := hm h <;> omega
  split at hb
  · simp only [List.mem_cons, List.not_mem_nil, or_false] at hb
    rcases hb with h | h | h <;> have := hm h <;> omega
  · simp only [List.mem_cons, List.not_mem_nil, or_false] at hb
    rcases hb with h | h | h | h <;> have := hm h <;> omega

/-- Bytes without the sign of an escape stand for themselves. -/
theorem unescape_of_not_mem {bs : List UInt8} (h : 0x25 ∉ bs) :
  unescape bs = bs
  := by
  induction bs with
  | nil => rfl
  | cons b bs ih =>
    simp only [List.mem_cons, not_or] at h
    rw [unescape_cons (Ne.symm h.1), ih h.2]

/-- A text without the sign of an escape stands for itself. -/
theorem decode_of_not_mem {s : String} (h : '%' ∉ s.toList) :
  decode s = s
  := by
  rw [decode, unescape_of_not_mem, Utf8.decode_toUTF8]
  rw [Utf8.toList_toUTF8, List.mem_flatMap]
  rintro ⟨c, hc, hb⟩
  exact ne_sign_of_mem_utf8EncodeChar (fun h' => h (h' ▸ hc)) hb rfl

/-- Whether bytes write the byte `b`: either it stands for itself, or its digits follow the sign. -/
def writes (b : UInt8) : List UInt8 → Bool
  | [c] => c = b ∧ c ≠ 0x25
  | [p, x, y] => p = 0x25 ∧ byte? x y = some b
  | _ => false

/-- The encoding of a byte writes it. -/
theorem writes_encodeByte (b : UInt8) :
  writes b ((encodeByte b).flatMap String.utf8EncodeChar)
  := by
  have h : ∀ n < 256, writes (UInt8.ofNat n)
      ((encodeByte (UInt8.ofNat n)).flatMap String.utf8EncodeChar) := by decide +kernel
  simpa using h b.toNat b.toNat_lt

/-- What writes a byte is read as it. -/
theorem unescape_of_writes {b : UInt8} {w : List UInt8} (h : writes b w) (bs : List UInt8) :
  unescape (w ++ bs) = b :: unescape bs
  := by
  match w with
  | [] => simp [writes] at h
  | [c] =>
    simp only [writes, decide_eq_true_eq] at h
    obtain ⟨rfl, h⟩ := h
    exact unescape_cons h bs
  | [_, _] => simp [writes] at h
  | [p, x, y] =>
    simp only [writes, decide_eq_true_eq] at h
    simp [unescape, h]
  | _ :: _ :: _ :: _ :: _ => simp [writes] at h

/-- Decoding the encoding of a text gives the text. -/
theorem decode_encode (s : String) :
  decode (encode s) = s
  := by
  have hb : ∀ bs : List UInt8,
      unescape ((bs.flatMap encodeByte).flatMap String.utf8EncodeChar) = bs := by
    intro bs
    induction bs with
    | nil => rfl
    | cons b bs ih =>
      rw [List.flatMap_cons, List.flatMap_append, unescape_of_writes (writes_encodeByte b), ih]
  rw [decode, encode, Utf8.toList_toUTF8, String.toList_ofList, hb, Utf8.decode_toUTF8]

end Workshop.Text.Percent
