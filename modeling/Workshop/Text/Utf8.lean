/-!
# Reading UTF-8

`Utf8.decode` reads any bytes as UTF-8.  Where bytes make no character, the longest beginning of one
that stands there is shown as one replacement character.  `Utf8.decode?` reads only the bytes of a
text.  Main statement: reading the bytes of a text gives the text.
-/

namespace Workshop.Text.Utf8

/-- A character of which some bytes are still to come. -/
structure Begun where
  /-- The number of bytes to come after the next one. -/
  later : Nat
  /-- The number that the bytes give up to now. -/
  number : Nat
  /-- The least value of the next byte. -/
  least : Nat := 0x80
  /-- The greatest value of the next byte. -/
  greatest : Nat := 0xBF
deriving DecidableEq, Repr, Inhabited

/-- The character that stands for bytes that make none. -/
def replacement : Char :=
  '\ufffd'

/-- The first byte of a character.  The range of the byte after it leaves out what could be written
with fewer bytes, the surrogates, and what is no character. -/
def first (b : Nat) : List Char × Option Begun :=
  if b < 0x80 then ([Char.ofNat b], none)
  else if b < 0xC2 then ([replacement], none)
  else if b < 0xE0 then ([], some ⟨0, b - 0xC0, 0x80, 0xBF⟩)
  else if b = 0xE0 then ([], some ⟨1, 0, 0xA0, 0xBF⟩)
  else if b = 0xED then ([], some ⟨1, 0xD, 0x80, 0x9F⟩)
  else if b < 0xF0 then ([], some ⟨1, b - 0xE0, 0x80, 0xBF⟩)
  else if b = 0xF0 then ([], some ⟨2, 0, 0x90, 0xBF⟩)
  else if b < 0xF4 then ([], some ⟨2, b - 0xF0, 0x80, 0xBF⟩)
  else if b = 0xF4 then ([], some ⟨2, 4, 0x80, 0x8F⟩)
  else ([replacement], none)

/-- The next byte: the characters that are complete with it, and what it leaves begun. -/
def next (p : Option Begun) (b : Nat) : List Char × Option Begun :=
  match p with
  | none => first b
  | some p =>
    if p.least ≤ b ∧ b ≤ p.greatest then
      let n := p.number * 0x40 + (b - 0x80)
      match p.later with
      | 0 => ([Char.ofNat n], none)
      | k + 1 => ([], some ⟨k, n, 0x80, 0xBF⟩)
    else (replacement :: (first b).1, (first b).2)

/-- Reads bytes after what is begun. -/
def decodeFrom (p : Option Begun) : List UInt8 → List Char
  | [] => if p.isNone then [] else [replacement]
  | b :: bs => (next p b.toNat).1 ++ decodeFrom (next p b.toNat).2 bs

/-- Reads bytes. -/
def decode (bytes : List UInt8) : String :=
  String.ofList (decodeFrom none bytes)

/-- The text that the bytes are those of, if there is one. -/
def decode? (bytes : List UInt8) : Option String :=
  if (decode bytes).toUTF8.toList = bytes then some (decode bytes) else none

theorem decodeFrom_cons (p : Option Begun) (b : UInt8) (bs : List UInt8) :
  decodeFrom p (b :: bs) = (next p b.toNat).1 ++ decodeFrom (next p b.toNat).2 bs
  := rfl

theorem next_last {n low high b : Nat} (hl : low ≤ b) (hh : b ≤ high) :
  next (some ⟨0, n, low, high⟩) b = ([Char.ofNat (n * 0x40 + (b - 0x80))], none)
  := by
  simp [next, hl, hh]

theorem next_later {k n low high b : Nat} (hl : low ≤ b) (hh : b ≤ high) :
  next (some ⟨k + 1, n, low, high⟩) b = ([], some ⟨k, n * 0x40 + (b - 0x80), 0x80, 0xBF⟩)
  := by
  simp [next, hl, hh]

theorem first_two {n : Nat} (hl : 2 ≤ n) (hh : n < 0x20) :
  first (n + 0xC0) = ([], some ⟨0, n, 0x80, 0xBF⟩)
  := by
  rw [first, if_neg (by omega), if_neg (by omega), if_pos (by omega), Nat.add_sub_cancel]

theorem first_three {n : Nat} (h : n < 0x10) :
  first (n + 0xE0)
    = ([], some ⟨1, n, if n = 0 then 0xA0 else 0x80, if n = 0xD then 0x9F else 0xBF⟩)
  := by
  rw [first, if_neg (by omega), if_neg (by omega), if_neg (by omega)]
  by_cases h0 : n = 0
  · subst h0; rfl
  by_cases hd : n = 0xD
  · subst hd; rfl
  rw [if_neg (by omega), if_neg (by omega), if_pos (by omega), if_neg h0, if_neg hd,
    Nat.add_sub_cancel]

theorem first_four {n : Nat} (h : n < 5) :
  first (n + 0xF0)
    = ([], some ⟨2, n, if n = 0 then 0x90 else 0x80, if n = 4 then 0x8F else 0xBF⟩)
  := by
  rcases (by omega : n = 0 ∨ n = 1 ∨ n = 2 ∨ n = 3 ∨ n = 4) with rfl | rfl | rfl | rfl | rfl <;> rfl

/-- The bytes of a character are read as it. -/
theorem decodeFrom_utf8EncodeChar (c : Char) (bs : List UInt8) :
  decodeFrom none (String.utf8EncodeChar c ++ bs) = c :: decodeFrom none bs
  := by
  have hc : Char.ofNat c.toNat = c := Char.ofNat_toNat c
  have hv : c.toNat < 0xD800 ∨ (0xDFFF < c.toNat ∧ c.toNat < 0x110000) := c.valid
  generalize hn : c.toNat = v at hc hv
  have hn : c.val.toNat = v := hn
  have hb {n : Nat} (h : n < 0x100) : (UInt8.ofNat n).toNat = n := UInt8.toNat_ofNat_of_lt' h
  simp only [String.utf8EncodeChar, hn]
  split
  · rw [List.cons_append, List.nil_append, decodeFrom_cons, hb (by omega)]
    simp only [next, first]
    rw [if_pos (by omega), hc]
    rfl
  split
  · simp only [List.cons_append, List.nil_append, decodeFrom_cons]
    rw [hb (by omega), hb (by omega)]
    simp only [show ∀ b, next none b = first b from fun _ => rfl,
      first_two (n := v / 64 % 32) (by omega) (by omega)]
    rw [next_last (by omega) (by omega), show v / 64 % 32 * 64 + (v % 64 + 128 - 128) = v by omega,
      hc]
    rfl
  split
  · simp only [List.cons_append, List.nil_append, decodeFrom_cons]
    rw [hb (by omega), hb (by omega), hb (by omega)]
    simp only [show ∀ b, next none b = first b from fun _ => rfl,
      first_three (n := v / 4096 % 16) (by omega)]
    rw [next_later (by split <;> omega) (by split <;> omega), next_last (by omega) (by omega),
      show (v / 4096 % 16 * 64 + (v / 64 % 64 + 128 - 128)) * 64 + (v % 64 + 128 - 128) = v by
        omega,
      hc]
    rfl
  · simp only [List.cons_append, List.nil_append, decodeFrom_cons]
    rw [hb (by omega), hb (by omega), hb (by omega), hb (by omega)]
    simp only [show ∀ b, next none b = first b from fun _ => rfl,
      first_four (n := v / 262144 % 8) (by omega)]
    rw [next_later (by split <;> omega) (by split <;> omega), next_later (by omega) (by omega),
      next_last (by omega) (by omega),
      show ((v / 262144 % 8 * 64 + (v / 4096 % 64 + 128 - 128)) * 64 + (v / 64 % 64 + 128 - 128))
        * 64 + (v % 64 + 128 - 128) = v by omega,
      hc]
    rfl

theorem toList_loop (bytes : ByteArray) (i : Nat) (r : List UInt8) :
  ByteArray.toList.loop bytes i r = r.reverse ++ bytes.data.toList.drop i
  := by
  fun_induction ByteArray.toList.loop bytes i r with
  | case1 i r h ih =>
    have hlen : i < bytes.data.toList.length := by simpa using h
    rw [ih, List.drop_eq_getElem_cons hlen]
    simp [ByteArray.get!, h]
  | case2 i r h =>
    rw [List.drop_eq_nil_of_le (by simpa using Nat.le_of_not_lt h)]
    simp

/-- The bytes of a text are those of its characters. -/
theorem toList_toUTF8 (s : String) :
  s.toUTF8.toList = s.toList.flatMap String.utf8EncodeChar
  := by
  obtain ⟨cs, rfl⟩ : ∃ cs, s = String.ofList cs := ⟨s.toList, String.ofList_toList.symm⟩
  rw [ByteArray.toList, toList_loop, List.reverse_nil, List.nil_append, List.drop_zero,
    String.toUTF8_eq_toByteArray, String.toByteArray_ofList, List.utf8Encode,
    List.data_toByteArray, String.toList_ofList]

/-- Reading the bytes of a text gives the text. -/
theorem decode_toUTF8 (s : String) :
  decode s.toUTF8.toList = s
  := by
  have hc : ∀ cs : List Char, decodeFrom none (cs.flatMap String.utf8EncodeChar) = cs := by
    intro cs
    induction cs with
    | nil => rfl
    | cons c cs ih => rw [List.flatMap_cons, decodeFrom_utf8EncodeChar, ih]
  rw [decode, toList_toUTF8, hc, String.ofList_toList]

/-- Bytes are read as a text exactly if they are those of the text. -/
theorem decode?_eq_some_iff {bytes : List UInt8} {s : String} :
  decode? bytes = some s ↔ bytes = s.toUTF8.toList
  := by
  rw [decode?]
  constructor
  · intro h
    split at h
    · rename_i hb
      rw [← hb, Option.some.inj h]
    · simp at h
  · rintro rfl
    simp only [decode_toUTF8, if_true]

end Workshop.Text.Utf8
