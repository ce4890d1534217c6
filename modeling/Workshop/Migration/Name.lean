import Workshop.Migration.Revision
import Workshop.Text.Integer
import Workshop.Text.WordChar

/-!
# Names of revisions

A command names a revision by a `Name`: a symbol, in front of which a branch may stand, set off
by the sign `@`.  The symbol is a word for the beginning or the end of the line, or the beginning of
the id of the revision; the branch is the beginning of that id, too, for the revision is the only
branch there is.  `Name.single` and `Name.several?` find what a name stands for.  A `Route` counts
steps from a symbol, or from what a database records.
-/

namespace Workshop.Migration

/-- What names a revision. -/
structure Name where
  branch : Option (List Char) := none
  symbol : List Char
deriving DecidableEq, Repr, Inhabited

namespace Name

/-- The name that a text is: the branch ends at the first sign `@`. -/
def ofChars (cs : List Char) : Name :=
  match cs.dropWhile (· ≠ '@') with
  | _ :: symbol => ⟨some (cs.takeWhile (· ≠ '@')), symbol⟩
  | [] => ⟨none, cs⟩

/-- The symbol `symbol` on the branch `branch`, if there is a branch. -/
def on (branch : Option (List Char)) (symbol : List Char) : Name :=
  match branch with
  | some b => ofChars (b ++ '@' :: symbol)
  | none => ofChars symbol

/-- Succeeds if the id is the beginning of that of the revision. -/
def require (id : List Char) : Except Problem Unit :=
  if id = [] then .error .noRevision
  else if id.isPrefixOf revision.toList then .ok ()
  else .error .refused

/-- Succeeds if the branch, if one is named, is there. -/
def requireBranch (branch : Option (List Char)) : Except Problem Unit :=
  (branch.filter (· ≠ [])).toList.forM require

/-- Whether the symbol is a word for the end of the line. -/
def isLast (symbol : List Char) : Bool :=
  symbol == "head".toList || symbol == "heads".toList

/-- The id that a symbol stands for, if it is no word for the beginning of the line. -/
def idOf? (symbol : List Char) : Option (List Char) :=
  if isLast symbol then some revision.toList
  else if symbol = "base".toList then none
  else some symbol

/-- The id that the name stands for.  The end of a branch needs the branch. -/
def id? (n : Name) : Except Problem (Option (List Char)) := do
  if isLast n.symbol then requireBranch (n.branch.bind idOf?)
  return idOf? n.symbol

/-- Succeeds if the station is on the line that is named, as everything is on a line without a
branch and an id. -/
def requireMember (n : Name) (s : Station) : Except Problem Unit := do
  let id ← n.id?
  if (n.branch.filter (· ≠ [])).isSome ∨ id.isSome then
    match s with
    | .outside => .error .noRevision
    | .bottom => .error .refused
    | .revision =>
      requireBranch n.branch
      id.toList.forM require

/-- The station that an id on the branch of the name stands for. -/
def station (n : Name) (id : Option (List Char)) : Except Problem Station := do
  requireBranch n.branch
  match id with
  | none => return .outside
  | some id =>
    require id
    return .revision

/-- The station that the name stands for, if one is expected. -/
def single (n : Name) : Except Problem Station := do
  n.station (← n.id?)

/-- How far a negative number lies below zero, if that is what the text is. -/
def below? (id : List Char) : Option Nat :=
  ((Text.Integer.read? id).filter (· < 0)).map Int.natAbs

/-- The station that the name stands for, if any number of them is expected: a negative number
counts steps down from the end of the line, and on a branch it stands for none. -/
def several? (n : Name) : Except Problem (Option Station) := do
  match ← n.id? with
  | none => return none
  | some id =>
    match below? id with
    | some steps => return if n.branch.isSome then none else some (Station.revision.down steps)
    | none => return some (← n.station (some id))

end Name

/-- A number of steps up or down from a symbol, or from what is recorded. -/
structure Route where
  branch : Option (List Char) := none
  symbol : Option (List Char) := none
  goesDown : Bool
  /-- The digits of the number of steps. -/
  digits : List Char
deriving DecidableEq, Repr, Inhabited

namespace Route

/-- Reads a number of steps, which has a sign: whether it is a minus, and the digits.  Whatever
follows the digits is left alone. -/
def readSteps? (cs : List Char) : Option (Bool × List Char) :=
  let digits (rest : List Char) : Option (List Char) :=
    some (rest.takeWhile Text.DecimalDigit.isDecimal) |>.filter (· ≠ [])
  match cs with
  | '+' :: rest => (digits rest).map (false, ·)
  | '-' :: rest => (digits rest).map (true, ·)
  | _ => none

/-- Reads a route behind the branch. -/
def readOn? (branch : Option (List Char)) (cs : List Char) : Option Route :=
  let symbol := cs.takeWhile Text.isWordChar
  (readSteps? (cs.dropWhile Text.isWordChar)).map fun (goesDown, digits) =>
    { branch, symbol := if symbol.isEmpty then none else some symbol, goesDown, digits }

/-- Reads a route on a branch that begins with the characters `before`: the branch ends at the
first sign `@`, but for one at its beginning, behind which a route stands. -/
def readBranched? (before : List Char) : List Char → Option Route
  | [] => none
  | c :: cs =>
    if c = '\n' then none
    else
      let here := if c = '@' ∧ before ≠ [] then readOn? (some before) cs else none
      here.or (readBranched? (before ++ [c]) cs)

/-- Reads a route. -/
def read? (cs : List Char) : Option Route :=
  (readBranched? [] cs).or (readOn? none cs)

/-- The number of steps, without regard to the direction. -/
def steps (r : Route) : Except Problem Nat :=
  if Text.Integer.digitLimit < r.digits.length then .error .tooManyDigits
  else .ok (Text.DecimalDigit.valueOf r.digits)

/-- So many steps up from a station.  The first step onto the line must be on the branch of the
route. -/
def climb (r : Route) (steps : Nat) (start : Station) : Except Problem Station := do
  if start = .outside ∧ steps ≠ 0 then
    r.branch.toList.forM fun b => (Name.ofChars b).requireMember .revision
  return start.up steps

end Route

end Workshop.Migration
