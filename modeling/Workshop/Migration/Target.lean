import Workshop.Migration.Name

/-!
# Targets of commands

What a command has to do, given the names that a database records and what the command names:
`Target.applies` for a command that goes up, `Target.undoes` for one that goes down, and
`Target.marking` for one that only changes the record.  What is recorded is read like any other
name.
-/

namespace Workshop.Migration

/-- The names that a database records. -/
abbrev Recorded : Type :=
  List (List Char)

/-- The stations that the recorded names stand for. -/
def Recorded.stations (recorded : Recorded) : Except Problem (List Station) := do
  return (← recorded.mapM fun name => (Name.ofChars name).several?).filterMap id

/-- Whether a recorded name stands for the revision.  None may stand for another station. -/
def Recorded.hasRevision (recorded : Recorded) : Except Problem Bool := do
  let stations ← recorded.stations
  if stations.all (· = .revision) then return !stations.isEmpty else .error .noRevision

/-- Succeeds unless a station lies off the line. -/
def Station.requireOnLine (s : Station) : Except Problem Station :=
  if s = outside then .error .refused else .ok s

/-- Succeeds if a station is the revision. -/
def Station.requireRevision (s : Station) : Except Problem Unit :=
  if s = revision then .ok () else .error .noRevision

namespace Route

/-- The station from which a route without a symbol counts up: the only one that is recorded, or the
beginning of the line. -/
def startAbove (r : Route) (recorded : Recorded) : Except Problem Station := do
  match r.branch with
  | none =>
    match recorded with
    | [] => return .outside
    | [name] => (Name.ofChars name).single
    | _ => .error .refused
  | some b =>
    let stations ← recorded.stations
    stations.forM (Name.ofChars b).requireMember
    match stations with
    | [] => return .outside
    | [s] => return if s = .revision then s else .outside
    | _ => .error .refused

/-- Where a route leads to that a command which goes up names. -/
def above (r : Route) (recorded : Recorded) : Except Problem Station := do
  let steps ← r.steps
  match r.symbol with
  | none =>
    if r.goesDown ∨ steps = 0 then .error .refused
    else (← r.climb steps (← r.startAbove recorded)).requireOnLine
  | some symbol =>
    if r.goesDown ∨ steps = 0 then return (← (Name.on r.branch symbol).single).down steps
    else r.climb steps (← (Name.ofChars symbol).single)

/-- Succeeds if a recorded name by itself is on the line that is named. -/
def requireRecorded (line : Name) (name : List Char) : Except Problem Unit := do
  let id ← line.id?
  if (line.branch.filter (· ≠ [])).isSome ∨ id.isSome then
    Name.require name
    line.requireMember .revision

/-- The station from which a route counts down: its symbol, or what is recorded first. -/
def startBelow (r : Route) (recorded : Recorded) : Except Problem Station := do
  match r.symbol, r.branch with
  | some symbol, branch => (Name.on branch symbol).single
  | none, none =>
    match recorded with
    | [] => .error .refused
    | name :: _ => (Name.on (some name) name).single
  | none, some b =>
    let _ ← (Name.ofChars b).id?
    recorded.forM (requireRecorded (Name.ofChars b))
    match recorded with
    | [name] => (Name.on (some b) name).single
    | _ => .error .noRevision

/-- Where a route leads to that a command which goes down names. -/
def below (r : Route) (recorded : Recorded) : Except Problem Station := do
  let steps ← r.steps
  if r.goesDown ∧ steps ≠ 0 then
    let start ← r.startBelow recorded
    (start.down steps).requireOnLine
  else
    match r.symbol with
    | none => .error .refused
    | some symbol => (← r.climb steps (← (Name.ofChars symbol).single)).requireOnLine

end Route

/-- What a command that moves nothing does with the record. -/
inductive Marking where
  | keep
  | addRevision
  | eraseRevision
deriving DecidableEq, Repr, Inhabited

namespace Target

/-- The station that a command names that goes up, if it names one. -/
def stationAbove? (recorded : Recorded) (name : List Char) : Except Problem (Option Station) := do
  match Route.read? name with
  | some r => return some (← r.above recorded)
  | none => (Name.ofChars name).several?

/-- Whether a command that goes up applies the revision: it is named, and not recorded yet. -/
def applies (recorded : Recorded) (name : List Char) : Except Problem Bool := do
  let target ← stationAbove? recorded name
  target.toList.forM Station.requireRevision
  return target.isSome && !(← recorded.hasRevision)

/-- The symbol of a name for a command that goes down, which disregards the branch. -/
def symbolBelow (name : List Char) : List Char :=
  (name.reverse.takeWhile (· ≠ '@')).reverse

/-- The station that a command names that goes down. -/
def stationBelow (recorded : Recorded) (name : List Char) : Except Problem Station :=
  match Route.read? name with
  | some r => r.below recorded
  | none => (Name.ofChars (symbolBelow name)).single

/-- Whether a command that goes down undoes the revision: a station below it is named, and it is
recorded.  A revision that is not recorded cannot be gone down to. -/
def undoes (recorded : Recorded) (name : List Char) : Except Problem Bool := do
  let target ← stationBelow recorded name
  let applied ← recorded.hasRevision
  if target = .revision then
    if applied then return false else .error .refused
  else return applied

/-- What a command does with the record that moves nothing.  What is recorded already must be on the
line that is named. -/
def marking (recorded : Recorded) (name : List Char) : Except Problem Marking := do
  let n := Name.ofChars name
  let stations ← recorded.stations
  if name ≠ [] then stations.forM n.requireMember
  match ← n.several? with
  | some s =>
    if s ≠ .outside then
      s.requireRevision
      return if stations.contains .revision then .keep else .addRevision
  | none => pure ()
  if stations.all (· = .revision) then
    return if stations.isEmpty then .keep else .eraseRevision
  else .error .withoutId

end Target

end Workshop.Migration
