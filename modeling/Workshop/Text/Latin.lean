/-!
# Characters as bytes

The heads of calls and replies carry bytes, each of which stands for the character with its number:
`Latin.decode` is the text of bytes, and `Latin.encode?` writes a text unless one of its characters
has too great a number.  Main statement: reading what was written gives the text again.
-/

namespace Workshop.Text.Latin

/-- The text whose characters have the numbers of the bytes. -/
def decode (bytes : List UInt8) : String :=
  String.ofList (bytes.map fun b => Char.ofNat b.toNat)

/-- The byte with the number of a character, if there is one. -/
def byte? (c : Char) : Option UInt8 :=
  if c.toNat < 256 then some (UInt8.ofNat c.toNat) else none

/-- The bytes with the numbers of the characters, if there are such bytes. -/
def encode? (s : String) : Option (List UInt8) :=
  s.toList.mapM byte?

theorem ofNat_of_byte? {c : Char} {b : UInt8} (h : byte? c = some b) :
  Char.ofNat b.toNat = c
  := by
  simp only [byte?] at h
  split at h
  · simp only [Option.some.injEq] at h
    subst h
    rw [UInt8.toNat_ofNat_of_lt' (by assumption), Char.ofNat_toNat]
  · simp at h

/-- Reading the bytes of a text gives the text. -/
theorem decode_of_encode? {s : String} {bytes : List UInt8} (h : encode? s = some bytes) :
  decode bytes = s
  := by
  have hc : ∀ (cs : List Char) (bs : List UInt8), cs.mapM byte? = some bs →
      bs.map (fun b => Char.ofNat b.toNat) = cs := by
    intro cs
    induction cs with
    | nil => simp
    | cons c cs ih =>
      intro bs h
      simp only [List.mapM_cons, Option.bind_eq_bind, Option.bind_eq_some_iff] at h
      obtain ⟨b, hb, rest, hr, heq⟩ := h
      obtain rfl := Option.some.inj heq
      simp [ofNat_of_byte? hb, ih rest hr]
  rw [decode, hc s.toList bytes h, String.ofList_toList]

end Workshop.Text.Latin
