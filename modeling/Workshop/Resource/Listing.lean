import Workshop.Instant.Printer
import Workshop.Json
import Workshop.Resource
import Workshop.Sorting

/-!
# The list of resources

`Catalog.resources` lists the machines and the workstations that can be booked, each in the order
of code and id.
-/

namespace Workshop

/-- A workstation with the code and the name of the machine it belongs to. -/
structure WorkstationView extends Workstation where
  machineCode : Option String
  machineName : Option String
deriving DecidableEq, Repr, Inhabited

/-- The record in which an answer shows a machine. -/
def Machine.toJson (m : Machine) : Json :=
  .obj
    [ ("resource_kind", .str ResourceKind.machine.name),
      ("machine_id", .str m.id),
      ("code", .str m.code),
      ("name", .str m.name),
      ("machine_type", .str m.machineType),
      ("status", .str m.status),
      ("is_available", .bool m.isAvailable),
      ("archived_at", .ofOption (fun i => .str i.toText) m.archivedAt) ]

/-- The record in which an answer shows a workstation. -/
def WorkstationView.toJson (w : WorkstationView) : Json :=
  .obj
    [ ("resource_kind", .str ResourceKind.workstation.name),
      ("workstation_id", .str w.id),
      ("code", .str w.code),
      ("label", .str w.label),
      ("machine_id", .optStr w.machineId),
      ("machine_code", .optStr w.machineCode),
      ("machine_name", .optStr w.machineName),
      ("is_active", .bool w.isActive),
      ("archived_at", .ofOption (fun i => .str i.toText) w.archivedAt) ]

/-- Machines and workstations. -/
structure ResourceList where
  machines : List Machine
  workstations : List WorkstationView
deriving DecidableEq, Repr, Inhabited

/-- The record in which an answer shows a list of resources. -/
def ResourceList.toJson (l : ResourceList) : Json :=
  .obj
    [ ("machines", .arr (l.machines.map Machine.toJson)),
      ("workstations", .arr (l.workstations.map WorkstationView.toJson)) ]

namespace Catalog

/-- The view of a workstation. -/
def viewWorkstation (c : Catalog) (w : Workstation) : WorkstationView :=
  let machine := w.machineId.bind c.machine?
  { w with machineCode := machine.map (·.code), machineName := machine.map (·.name) }

/-- The machines and the workstations, the archived ones only if they are asked for. -/
def resources (c : Catalog) (includeArchived : Bool) : ResourceList where
  machines :=
    sortBy (fun a b => a.code < b.code || (a.code = b.code && a.id ≤ b.id)) <|
      c.machines.filter fun m => includeArchived || m.archivedAt.isNone
  workstations :=
    (sortBy (fun a b => a.code < b.code || (a.code = b.code && a.id ≤ b.id)) <|
      c.workstations.filter fun w => includeArchived || w.archivedAt.isNone).map c.viewWorkstation

end Catalog

end Workshop
