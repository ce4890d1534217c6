/-!
# Decimal digits

`Digits.write k n` is the last `k` decimal digits of `n`, with leading zeros, and `Digits.read k`
reads exactly `k` digits from the front of a list of characters.  Main statement: reading `k`
digits back gives the number that was written, when it has no more than `k` digits.
-/

namespace Workshop.Text.Digits

/-- The digit of `n < 10`. -/
def digit (n : Nat) : Char :=
  Char.ofNat (0x30 + n)

/-- The value of a digit. -/
def value (c : Char) : Nat :=
  c.toNat - 0x30

/-- The last `k` decimal digits of `n`. -/
def write : Nat → Nat → List Char
  | 0, _ => []
  | k + 1, n => write k (n / 10) ++ [digit (n % 10)]

/-- Reads `k` digits as the continuation of a number whose digits so far have the value `acc`. -/
def readFrom : Nat → Nat → List Char → Option (Nat × List Char)
  | 0, acc, cs => some (acc, cs)
  | k + 1, acc, c :: cs => if c.isDigit then readFrom k (acc * 10 + value c) cs else none
  | _ + 1, _, [] => none

/-- Reads exactly `k` digits and returns their value and the characters that follow them. -/
def read (k : Nat) (cs : List Char) : Option (Nat × List Char) :=
  readFrom k 0 cs

/-- The value of a list of digits read as the continuation of `acc`. -/
def valueFrom (acc : Nat) (cs : List Char) : Nat :=
  cs.foldl (fun n c => n * 10 + value c) acc

theorem isDigit_digit {n : Nat} (h : n < 10) :
  (digit n).isDigit = true
  := by
  revert n
  decide

theorem value_digit {n : Nat} (h : n < 10) :
  value (digit n) = n
  := by
  revert n
  decide

theorem length_write (k n : Nat) :
  (write k n).length = k
  := by
  induction k generalizing n with
  | zero => rfl
  | succ k ih => simp [write, ih]

theorem isDigit_of_mem_write {k n : Nat} {c : Char} (h : c ∈ write k n) :
  c.isDigit = true
  := by
  induction k generalizing n with
  | zero => simp [write] at h
  | succ k ih =>
    simp only [write, List.mem_append, List.mem_singleton] at h
    rcases h with h | rfl
    · exact ih h
    · exact isDigit_digit (Nat.mod_lt _ (by decide))

theorem valueFrom_write (k acc : Nat) {n : Nat} (h : n < Nat.pow 10 k) :
  valueFrom acc (write k n) = acc * Nat.pow 10 k + n
  := by
  induction k generalizing n with
  | zero =>
    have : n = 0 := Nat.lt_one_iff.1 h
    subst this
    exact (Nat.mul_one acc).symm
  | succ k ih =>
    have hs : Nat.pow 10 (k + 1) = Nat.pow 10 k * 10 := rfl
    have hd : n / 10 < Nat.pow 10 k := by omega
    have hv := ih hd
    simp only [valueFrom] at hv
    simp only [write, valueFrom, List.foldl_append, List.foldl_cons, List.foldl_nil, hv,
      value_digit (Nat.mod_lt n (by decide : 0 < 10)), hs, ← Nat.mul_assoc, Nat.add_mul]
    omega

/-- Reading as many characters as there are digits in front reads those digits. -/
theorem readFrom_append {cs : List Char} (h : ∀ c ∈ cs, c.isDigit = true) (acc : Nat)
    (rest : List Char) :
  readFrom cs.length acc (cs ++ rest) = some (valueFrom acc cs, rest)
  := by
  induction cs generalizing acc with
  | nil => rfl
  | cons c cs ih =>
    have hc := h c List.mem_cons_self
    simp only [List.length_cons, List.cons_append, readFrom, hc, if_true]
    exact ih (fun x hx => h x (List.mem_cons_of_mem c hx)) _

/-- Reading back what was written. -/
theorem read_write (k : Nat) {n : Nat} (h : n < Nat.pow 10 k) (rest : List Char) :
  read k (write k n ++ rest) = some (n, rest)
  := by
  have hr := readFrom_append (fun _ hc => isDigit_of_mem_write (k := k) (n := n) hc) 0 rest
  rw [length_write, valueFrom_write k 0 h] at hr
  simpa [read] using hr

end Workshop.Text.Digits
