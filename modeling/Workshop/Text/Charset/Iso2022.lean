import Workshop.Text.Charset.Grid.Gb2312
import Workshop.Text.Charset.Grid.Ksx1001
import Workshop.Text.Charset.Japanese
import Workshop.Text.Charset.Page

/-!
# ISO 2022

A text of ASCII in which sequences behind an escape call for other sets of characters: for the main
place, for a second place that is shifted to, or for a third place from which single characters are
taken.  A `Variant` says which sets may be called for, and `Variant.decode` reads bytes.  Main
statement: a text of ASCII without controls is read as it is.
-/

namespace Workshop.Text.Charset

namespace Iso2022

/-- The sets of characters that a sequence may call for. -/
inductive Called where
  | ascii
  /-- The letters of JIS X 0201 that stand in the place of ASCII, and those of half width. -/
  | roman
  | kana
  /-- The second half of Latin-1, and that of its Greek counterpart. -/
  | latin
  | greek
  /-- JIS X 0208, in its first edition and in the later ones. -/
  | oldJisx0208
  | jisx0208
  | jisx0212
  /-- The planes of JIS X 0213, the first one by its editions. -/
  | firstPlane (e : Japanese.Edition)
  | secondPlane
  | gb2312
  | ksx1001
deriving DecidableEq, Repr, Inhabited

namespace Called

/-- Whether the characters of the set have two bytes. -/
def isDouble : Called → Bool
  | ascii | roman | kana | latin | greek => false
  | _ => true

/-- The last byte of the sequence that calls for the set. -/
def final : Called → UInt8
  | ascii => 0x42
  | roman => 0x4A
  | kana => 0x49
  | latin => 0x41
  | greek => 0x46
  | oldJisx0208 => 0x40
  | jisx0208 => 0x42
  | jisx0212 => 0x44
  | firstPlane .first => 0x4F
  | firstPlane .second => 0x51
  | secondPlane => 0x50
  | gb2312 => 0x41
  | ksx1001 => 0x43

/-- The character that a byte stands for in the main place. -/
def single? (s : Called) (b : Nat) : Option Char :=
  match s with
  | ascii => some (Char.ofNat b)
  | roman => some (Japanese.roman b)
  | kana => Japanese.kana? (b + 0x80)
  | _ => none

/-- The character in a cell, with the mark on it. -/
def cell? (s : Called) (row cell : Nat) : Option (List Char) :=
  match s with
  | oldJisx0208 | jisx0208 => (Grid.jisx0208.char? row cell).map ([·])
  | jisx0212 => (Grid.jisx0212.char? row cell).map ([·])
  | firstPlane e => if (row, cell) = (2, 18) then some ['~'] else Japanese.firstPlane? e row cell
  | secondPlane => (Japanese.secondPlane? .second row cell).map ([·])
  | gb2312 => (Grid.gb2312.char? row cell).map ([·])
  | ksx1001 => (Grid.ksx1001.char? row cell).map ([·])
  | _ => none

/-- Reads the characters at the front of bytes. -/
def step? (s : Called) : Step
  | a :: rest =>
    if s.isDouble then
      match rest with
      | b :: rest => (s.cell? (a.toNat - 0x20) (b.toNat - 0x20)).map fun cs => (cs, rest)
      | [] => none
    else (s.single? a.toNat).map fun c => ([c], rest)
  | [] => none

/-- The second half of the Greek counterpart of Latin-1. -/
def greekHalf : String :=
  "\xa0‘’£��¦§¨©�«¬\xad�―°±²³΄΅Ά·ΈΉΊ»Ό½ΎΏΐΑΒΓΔΕΖΗΘΙΚΛΜΝΞΟΠΡ�ΣΤΥΦΧΨΩΪΫάέήίΰαβγδεζηθικλμνξοπρςστυφ" ++
    "χψωϊϋόύώ�"

/-- The character that a byte stands for where it is taken from the third place. -/
def taken (s : Called) (b : UInt8) : Except Misreading Char :=
  match s with
  | ascii => Misreading.ofOption (if b < 0x80 then some (Char.ofNat b.toNat) else none)
  | latin => Misreading.ofOption (if b < 0x80 then some (Char.ofNat (b.toNat + 0x80)) else none)
  | greek =>
    let n := (b ^^^ 0x80).toNat
    if n < 0xA0 then .ok (Char.ofNat n)
    else Misreading.ofOption ((greekHalf.toList[n - 0xA0]?).filter (· ≠ hole))
  | _ => .error .refused

end Called

/-- A way of writing that is based on calls for sets. -/
structure Variant where
  /-- The sets that may be called for, ASCII aside. -/
  sets : List Called
  /-- Whether there is a second place to shift to. -/
  shifts : Bool := false
  /-- Whether there is a third place to take characters from. -/
  takes : Bool := false
deriving DecidableEq, Repr, Inhabited

/-- The sets in the places. -/
structure Places where
  first : Called := .ascii
  second : Called := .ascii
  third : Called := .ascii
  /-- Whether characters are read by the second place. -/
  isShifted : Bool := false
  /-- Whether an unknown sequence is read, which is kept as it is. -/
  isUnknown : Bool := false
deriving DecidableEq, Repr, Inhabited

/-- Whether the byte ends a sequence. -/
def isFinal (b : UInt8) : Bool :=
  0x40 ≤ b && b ≤ 0x5A

/-- Whether the byte stands behind the escape that begins a call. -/
def isCall (b : UInt8) : Bool :=
  b = 0x28 || b = 0x29 || b = 0x24 || b = 0x2E || b = 0x26

namespace Variant

/-- The set with a final byte. -/
def set? (v : Variant) (isDouble : Bool) (final : UInt8) : Option Called :=
  (Called.ascii :: v.sets).find? fun s => s.isDouble == isDouble && s.final == final

/-- Carries out the call behind an escape, and returns the bytes behind the call. -/
def call? (v : Variant) (p : Places) : List UInt8 → Option (Places × List UInt8)
  | 0x24 :: 0x28 :: b :: rest => (v.set? true b).map fun s => ({ p with first := s }, rest)
  | 0x24 :: 0x29 :: b :: rest => (v.set? true b).map fun s => ({ p with second := s }, rest)
  | 0x24 :: b :: rest => (v.set? true b).map fun s => ({ p with first := s }, rest)
  | 0x28 :: b :: rest => (v.set? false b).map fun s => ({ p with first := s }, rest)
  | 0x29 :: b :: rest => (v.set? false b).map fun s => ({ p with second := s }, rest)
  | 0x2E :: b :: rest =>
    if v.takes then (v.set? false b).map fun s => ({ p with third := s }, rest) else none
  | _ => none

/-- Carries out a call for a later edition of JIS X 0208, which is the usual one behind two bytes
and another escape. -/
def revision? (v : Variant) (p : Places) : List UInt8 → Option (Places × List UInt8)
  | a :: b :: 0x1B :: 0x24 :: 0x42 :: rest =>
    if v.shifts = false ∧ (isFinal b = false ∨ (a = 0x26 ∧ b = 0x40)) then
      some ({ p with first := .jisx0208 }, rest)
    else none
  | _ => none

/-- Reads what stands at the front of bytes. -/
def step (v : Variant) (p : Places) : List UInt8 →
    Except Misreading (List Char × Places × List UInt8)
  | [] => .error .unreadable
  | b :: rest =>
    let kept : List Char := [Char.ofNat b.toNat]
    if p.isUnknown then .ok (kept, { p with isUnknown := !isFinal b }, rest)
    else if b = 0x1B then
      match rest with
      | [] => .error .unreadable
      | c :: behind =>
        if isCall c then
          let called := (v.call? p rest).or (v.revision? p rest)
          Misreading.ofOption (called.map fun (p, rest) => ([], p, rest))
        else if v.takes ∧ c = 0x4E then
          match behind with
          | [] => .error .unreadable
          | d :: rest => (p.third.taken d).map fun c => ([c], p, rest)
        else .ok (kept, { p with isUnknown := true }, rest)
    else if v.shifts ∧ (b = 0x0F ∨ b = 0x0E) then .ok ([], { p with isShifted := b = 0x0E }, rest)
    else if b = 0x0A then .ok (kept, { p with isShifted := false }, rest)
    else if b < 0x20 then .ok (kept, p, rest)
    else if 0x80 ≤ b then .error .unreadable
    else
      let set := if p.isShifted then p.second else p.first
      Misreading.ofOption ((set.step? (b :: rest)).map fun (cs, rest) => (cs, p, rest))

/-- Reads so many characters and calls at most, up to the end. -/
def read (v : Variant) (p : Places) : Nat → List UInt8 → Except Misreading (List Char)
  | _, [] => .ok []
  | 0, _ :: _ => .error .unreadable
  | n + 1, b :: bytes => do
    let (cs, p, rest) ← v.step p (b :: bytes)
    return cs ++ (← v.read p n rest)

/-- Reads bytes. -/
def decode (v : Variant) (bytes : List UInt8) : Except Misreading (List Char) :=
  v.read {} bytes.length bytes

/-- Bytes of ASCII are read as they are, if none of them is a control. -/
theorem decode_of_ascii (v : Variant) {bytes : List UInt8}
    (h : ∀ b ∈ bytes, 0x20 ≤ b ∧ b < 0x80) :
  v.decode bytes = .ok (bytes.map fun b => Char.ofNat b.toNat)
  := by
  rw [decode]
  induction bytes with
  | nil => rfl
  | cons b bytes ih =>
    obtain ⟨hl, hh⟩ := h b List.mem_cons_self
    have hs : v.step {} (b :: bytes) = .ok ([Char.ofNat b.toNat], {}, bytes) := by
      have hn {n : UInt8} (h : n < 0x20) : b ≠ n := fun he => by
        subst he
        exact UInt8.not_le.2 h hl
      simp [step, hn, UInt8.not_lt.2 hl, UInt8.not_le.2 hh, Called.step?, Called.isDouble,
        Called.single?, Misreading.ofOption]
    simp only [List.length_cons, read, hs, List.map_cons]
    simp [bind, Except.bind, ih fun c hc => h c (List.mem_cons_of_mem b hc), pure, Except.pure]

end Variant

/-! ## The variants -/

/-- Japanese, and its extensions. -/
def jp : Variant where
  sets := [.jisx0208, .roman, .oldJisx0208]

def jp1 : Variant where
  sets := .jisx0212 :: jp.sets

def jp2 : Variant where
  sets := [.ksx1001, .gb2312, .latin, .greek] ++ jp1.sets
  takes := true

def jp3 : Variant where
  sets := [.jisx0208, .firstPlane .first, .secondPlane]

def jp2004 : Variant where
  sets := [.jisx0208, .firstPlane .second, .secondPlane]

def jpExtended : Variant where
  sets := .kana :: jp1.sets

/-- Korean. -/
def kr : Variant where
  sets := [.ksx1001]
  shifts := true

end Iso2022

end Workshop.Text.Charset
