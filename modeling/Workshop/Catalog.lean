import Workshop.Instant

/-!
# The catalog

The `Catalog` holds what planning reads and never writes: machines and workstations, clients,
parts, manufacturing orders and their operations, and users.
-/

namespace Workshop

/-- A machine. -/
structure Machine where
  id : String
  code : String
  name : String
  machineType : String
  status : String
  isAvailable : Bool
  archivedAt : Option Instant
deriving DecidableEq, Repr, Inhabited

/-- A workstation, which may belong to a machine. -/
structure Workstation where
  id : String
  code : String
  label : String
  machineId : Option String
  isActive : Bool
  archivedAt : Option Instant
deriving DecidableEq, Repr, Inhabited

/-- A client. -/
structure Client where
  id : String
  companyName : String
deriving DecidableEq, Repr, Inhabited

/-- A part. -/
structure Part where
  id : String
  code : String
  designation : Option String
deriving DecidableEq, Repr, Inhabited

/-- A manufacturing order. -/
structure Order where
  id : Int
  number : String
  clientId : Option String
  partId : Option String
deriving DecidableEq, Repr, Inhabited

/-- What an operation of a manufacturing order offers to an event that is linked to it. -/
structure OperationDefaults where
  orderId : Int
  phase : Option Int
  designation : String
  machineId : Option String
  workstationId : Option String
deriving DecidableEq, Repr, Inhabited

/-- An operation of a manufacturing order. -/
structure Operation extends OperationDefaults where
  id : String
deriving DecidableEq, Repr, Inhabited

/-- A user. -/
structure User where
  id : String
  username : String
deriving DecidableEq, Repr, Inhabited

/-- What planning reads and never writes. -/
structure Catalog where
  machines : List Machine := []
  workstations : List Workstation := []
  clients : List Client := []
  parts : List Part := []
  orders : List Order := []
  operations : List Operation := []
  users : List User := []
deriving DecidableEq, Repr, Inhabited

namespace Catalog

/-- The machine with the given id. -/
def machine? (c : Catalog) (id : String) : Option Machine :=
  c.machines.find? (·.id == id)

/-- The workstation with the given id. -/
def workstation? (c : Catalog) (id : String) : Option Workstation :=
  c.workstations.find? (·.id == id)

/-- The client with the given id. -/
def client? (c : Catalog) (id : String) : Option Client :=
  c.clients.find? (·.id == id)

/-- The part with the given id. -/
def part? (c : Catalog) (id : String) : Option Part :=
  c.parts.find? (·.id == id)

/-- The manufacturing order with the given id. -/
def order? (c : Catalog) (id : Int) : Option Order :=
  c.orders.find? (·.id == id)

/-- The operation with the given id. -/
def operation? (c : Catalog) (id : String) : Option Operation :=
  c.operations.find? (·.id == id)

/-- The user with the given id. -/
def user? (c : Catalog) (id : String) : Option User :=
  c.users.find? (·.id == id)

end Catalog

/-- The title of an event that was given none. -/
def defaultTitle : String :=
  "Planning"

/-- The title that an event takes from its operation: the designation, behind the letter `P` and
the phase if the phase is positive. -/
def derivedTitle : Option OperationDefaults → String
  | none => defaultTitle
  | some op =>
    let phase := op.phase.getD 0
    if 0 < phase then "P" ++ toString phase ++ " - " ++ op.designation else op.designation

end Workshop
