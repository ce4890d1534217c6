import Workshop.Text.Charset.Page

/-!
# Reading step by step

Where characters have different numbers of bytes, a `Step` reads one of them at the front of bytes,
and `Step.decode?` takes steps up to the end.  Main statement: a step that reads nothing but the
bytes of ASCII reads a text of ASCII.
-/

namespace Workshop.Text.Charset

/-- A way to read the character at the front of bytes, with the marks on it.  It returns the bytes
behind as well. -/
abbrev Step : Type :=
  List UInt8 → Option (List Char × List UInt8)

namespace Step

/-- Takes so many steps at most, up to the end. -/
def take (step : Step) : Nat → List UInt8 → Option (List Char)
  | _, [] => some []
  | 0, _ :: _ => none
  | n + 1, b :: bytes => do
    let (cs, rest) ← step (b :: bytes)
    return cs ++ (← take step n rest)

/-- Reads bytes.  There are no more characters than bytes. -/
def decode? (step : Step) (bytes : List UInt8) : Option (List Char) :=
  step.take bytes.length bytes

/-- The step that reads bytes of ASCII as they are, and other characters of two bytes. -/
def pair (char? : Nat → Nat → Option (List Char)) : Step
  | a :: b :: rest =>
    if a.toNat < 0x80 then some ([Char.ofNat a.toNat], b :: rest)
    else (char? a.toNat b.toNat).map fun cs => (cs, rest)
  | [a] => if a.toNat < 0x80 then some ([Char.ofNat a.toNat], []) else none
  | [] => none

/-- Bytes of ASCII are read as they are. -/
theorem decode?_pair (char? : Nat → Nat → Option (List Char)) {bytes : List UInt8}
    (h : ∀ b ∈ bytes, b.toNat < 0x80) :
  decode? (pair char?) bytes = some (bytes.map fun b => Char.ofNat b.toNat)
  := by
  rw [decode?]
  induction bytes with
  | nil => rfl
  | cons a bytes ih =>
    have ha := h a List.mem_cons_self
    have hs : pair char? (a :: bytes) = some ([Char.ofNat a.toNat], bytes) := by
      cases bytes <;> simp [pair, ha]
    simp [take, hs, ih fun b hb => h b (List.mem_cons_of_mem a hb)]

end Step

end Workshop.Text.Charset
