/-!
# Wide units

Texts may be written in units of two or four bytes, which denote numbers: `Wide.pairs?` and
`Wide.quadruples?` read the numbers.  `Wide.points?` puts the two halves together that stand for
one character, and `Wide.text` shows numbers as a text.  Main statement: what is put together holds
no halves.
-/

namespace Workshop.Text.Wide

/-- The number that bytes denote, the greatest of which comes first. -/
def number (bytes : List UInt8) : Nat :=
  bytes.foldl (fun n b => n * 256 + b.toNat) 0

/-- The numbers that pairs of bytes denote. -/
def pairs? (bigEndian : Bool) : List UInt8 → Option (List Nat)
  | [] => some []
  | a :: b :: bytes =>
    (pairs? bigEndian bytes).map ((if bigEndian then number [a, b] else number [b, a]) :: ·)
  | _ => none

/-- The numbers that groups of four bytes denote. -/
def quadruples? (bigEndian : Bool) : List UInt8 → Option (List Nat)
  | [] => some []
  | a :: b :: c :: d :: bytes =>
    (quadruples? bigEndian bytes).map
      ((if bigEndian then number [a, b, c, d] else number [d, c, b, a]) :: ·)
  | _ => none

/-- Whether the number is that of half of a pair. -/
def isHalf (n : Nat) : Bool :=
  0xD800 ≤ n && n < 0xE000

/-- The text of the characters with such numbers.  Halves are replaced. -/
def text (ns : List Nat) : String :=
  String.ofList (ns.map fun n => if isHalf n then '\ufffd' else Char.ofNat n)

/-- The numbers of the characters that units of two bytes denote.  Each half of a pair must stand in
its place. -/
def points? : List Nat → Option (List Nat)
  | [] => some []
  | [n] => if isHalf n then none else some [n]
  | m :: n :: ns =>
    if isHalf m then
      if m < 0xDC00 ∧ 0xDC00 ≤ n ∧ n < 0xE000 then
        (points? ns).map ((0x10000 + (m - 0xD800) * 0x400 + (n - 0xDC00)) :: ·)
      else none
    else (points? (n :: ns)).map (m :: ·)

/-- No half is left. -/
theorem isHalf_of_points? {ns ps : List Nat} (h : points? ns = some ps) :
  ∀ p ∈ ps, isHalf p = false
  := by
  fun_induction points? ns generalizing ps with
  | case1 => simp_all
  | case2 => simp_all
  | case3 n hn =>
    simp only [Option.some.injEq] at h
    subst h
    simpa using hn
  | case4 m n ns _ hp ih =>
    obtain ⟨qs, hq, rfl⟩ := Option.map_eq_some_iff.1 h
    intro p hm
    rcases List.mem_cons.1 hm with he | hm
    · simp only [isHalf, Bool.and_eq_false_iff, decide_eq_false_iff_not]
      omega
    · exact ih hq p hm
  | case5 => simp_all
  | case6 m n ns hm ih =>
    obtain ⟨qs, hq, rfl⟩ := Option.map_eq_some_iff.1 h
    intro p hp
    rcases List.mem_cons.1 hp with rfl | hp
    · simpa using hm
    · exact ih hq p hp

end Workshop.Text.Wide
