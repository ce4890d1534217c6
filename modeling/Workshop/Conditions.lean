import Workshop.Failure

/-!
# The conditions of a request

`Conditions` are what a request meets besides the stored state: what the clock shows, which kind
of statement fails, how and at which stage, which operations on files fail and for which file,
whether the check for conflicts is left out, and whether another client empties the tables of
events and comments as soon as the request commits.
-/

namespace Workshop

open Storage

/-- The contents of a file. -/
abbrev Bytes : Type :=
  List UInt8

/-- The kinds of statements that can be made to fail. -/
inductive Statement where
  /-- Any reading of machines, workstations or operations by themselves. -/
  | catalogSelect
  | eventInsert
  | eventUpdate
  /-- Any reading of events. -/
  | eventSelect
  | commentInsert
  /-- Any reading of comments. -/
  | commentSelect
  | documentInsert
  /-- Any reading of documents. -/
  | documentSelect
  | linkInsert
  | auditInsert
  | commit
deriving DecidableEq, Repr, Inhabited

/-- The stages at which a request can come to statements of one kind. -/
inductive Stage where
  /-- The event is read that is to be changed. -/
  | lock
  /-- The events in the way are read. -/
  | check
  /-- The file with this number in its batch, counted from 0, is entered and linked. -/
  | file (number : Nat)
  /-- A constraint was violated, and the events in the way are read to be reported. -/
  | report
  /-- The event is read again after the commit. -/
  | reload
deriving DecidableEq, Repr, Inhabited

/-- How a statement fails. -/
inductive Fault where
  | violation (report : Violation)
  /-- The storage fails for a reason other than a constraint. -/
  | outage
  /-- The program fails. -/
  | crash
deriving DecidableEq, Repr, Inhabited

/-- The failure that a fault leads to. -/
def Fault.failure : Fault → Failure
  | violation v => .violated v
  | outage => .unavailable
  | crash => .internal

/-- The operations on files that fail. -/
structure FileFaults where
  rename : Bool := false
  copy : Bool := false
  /-- What a failing copy has written by then; the text `half` if nothing else is said. -/
  remnant : Bytes := [104, 97, 108, 102]
  unlink : Bool := false
deriving DecidableEq, Repr, Inhabited

/-- Whether no operation on files fails. -/
def FileFaults.AreAbsent (f : FileFaults) : Prop :=
  f.rename = false ∧ f.copy = false ∧ f.unlink = false

instance (f : FileFaults) : Decidable f.AreAbsent :=
  inferInstanceAs (Decidable (_ ∧ _ ∧ _))

/-- What a request meets besides the stored state. -/
structure Conditions where
  /-- What the clock shows. -/
  now : Instant
  /-- The kind of statement that fails, and how. -/
  fault : Option (Statement × Fault) := none
  /-- Where a request comes to statements of this kind at several stages, the only stage at which
  they fail; they fail at each stage if none is named. -/
  stage : Option Stage := none
  fileFaults : FileFaults := {}
  /-- The number of the only file in a batch on which these operations fail, counted from 0; they
  fail on each file if there is no number. -/
  faultyFile : Option Nat := none
  /-- Whether the check for conflicts before a booking is left out. -/
  skipsCheck : Bool := false
  /-- Whether another client deletes all events and comments right after the commit. -/
  vanishes : Bool := false
deriving DecidableEq, Repr, Inhabited

namespace Conditions

/-- The conditions that the statements at the given stage meet. -/
def during (c : Conditions) (s : Stage) : Conditions :=
  { c with fault := if c.stage.all (· = s) then c.fault else none }

/-- The operations that fail on the file with the given number in its batch. -/
def fileFaultsOf (c : Conditions) (number : Nat) : FileFaults :=
  if c.faultyFile.all (· = number) then c.fileFaults else {}

/-- Whether a statement of the given kind goes through. -/
def attempt (c : Conditions) (s : Statement) : Except Failure Unit :=
  match c.fault with
  | some (t, f) => if t = s then .error f.failure else .ok ()
  | none => .ok ()

/-- Whether no failure is injected: no statement and no operation on files fails, the check for
conflicts takes place, and no other client interferes. -/
def IsCalm (c : Conditions) : Prop :=
  c.fault = none ∧ c.fileFaults.AreAbsent ∧ c.skipsCheck = false ∧ c.vanishes = false

instance (c : Conditions) : Decidable c.IsCalm :=
  inferInstanceAs (Decidable (_ ∧ _ ∧ _ ∧ _))

/-- Without faults every statement goes through. -/
theorem attempt_of_fault_none {c : Conditions} (h : c.fault = none) (s : Statement) :
  c.attempt s = .ok ()
  := by
  simp [attempt, h]

section

variable {c : Conditions} (stage : Stage)

/-- Without faults there are none at any stage. -/
theorem fault_during (h : c.fault = none) :
  (c.during stage).fault = none
  := by
  simp [during, h]

/-- Without faults every statement goes through at every stage. -/
theorem attempt_during_of_fault_none (h : c.fault = none) (s : Statement) :
  (c.during stage).attempt s = .ok ()
  := attempt_of_fault_none (fault_during stage h) s

/-- What goes through at every stage goes through at each of them. -/
theorem attempt_during {s : Statement} (h : c.attempt s = .ok ()) :
  (c.during stage).attempt s = .ok ()
  := by
  rw [during]
  split
  · apply h
  · apply attempt_of_fault_none rfl

end

/-- Where the operations on files go through, they do so on each file. -/
theorem unlink_fileFaultsOf {c : Conditions} (h : c.fileFaults.unlink = false) (number : Nat) :
  (c.fileFaultsOf number).unlink = false
  := by
  rw [fileFaultsOf]
  split
  · apply h
  · rfl

end Conditions

end Workshop
