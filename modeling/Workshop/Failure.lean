import Workshop.Refusal
import Workshop.Schema.Issue
import Workshop.Storage.Violation

/-!
# Failures

A `Failure` is any way in which an operation can end without its result: a refusal, or a fault
below it in the storage of tables, in the storage of files, or in the range of numbers and
instants.  `Failure.ofViolation` is how a request that books a resource reports a violated
constraint.
-/

namespace Workshop

open Storage

/-- A way to end without a result. -/
inductive Failure where
  | refused (refusal : Refusal)
  /-- The storage reports a violated constraint. -/
  | violated (violation : Violation)
  /-- The storage failed for a reason other than a constraint. -/
  | unavailable
  /-- A fault that is neither a refusal nor a report of the storage. -/
  | internal
  /-- An instant outside the years 1 to 9999, or an integer that the storage cannot hold. -/
  | outOfRange
  /-- The result does not fit what answers can show. -/
  | unshowable (issues : List Schema.Issue)
  /-- A text cannot be written into the head of a call or a reply. -/
  | unwritable
  /-- A number cannot be written into the body of a call, because it is not finite. -/
  | notFinite
  /-- An operation on files failed. -/
  | fileSystem
  /-- An operation on files found no file or no directory. -/
  | noSuchFile
  /-- An operation on files found a directory in the place of a file. -/
  | isDirectory
  /-- An operation on files found a file in the place of a directory. -/
  | notDirectory
  /-- A path contains the character NUL. -/
  | invalidPath
deriving DecidableEq, Repr, Inhabited

namespace Failure

/-- The failure of a request on a violated constraint, where `clashes` are the events in the way
of what it wanted to book: an overlap reports them, a duplicate is a refusal of its own, and any
other violation is passed on. -/
def ofViolation (v : Violation) (clashes : Except Failure (List Clash)) : Failure :=
  match v.meaning? with
  | some .overlap =>
    match clashes with
    | .ok cs => refused (.conflict cs)
    | .error f => f
  | some .duplicate => refused .recordExists
  | none => violated v

/-- The failure that a request which books a resource reports if a statement of it fails, where
`clashes` are the events in the way of what it wanted to book. -/
def reported (f : Failure) (clashes : Except Failure (List Clash)) : Failure :=
  match f with
  | violated v => ofViolation v clashes
  | f => f

end Failure

/-- The refusal that a violated constraint amounts to by itself, if it amounts to one. -/
def Refusal.ofViolation? (v : Violation) : Option Refusal :=
  v.meaning?.map fun
    | .overlap => .conflict []
    | .duplicate => .recordExists

end Workshop
