import Workshop.Event
import Workshop.Resource

/-!
# Views of events

An `EventView` is an event together with what the catalog knows about its order, its operation,
its resource and its author.  `Catalog.view` is the view of an event, and `EventView.toJson` the
record in which answers show it.
-/

namespace Workshop

/-- An event with what the catalog knows about it; its order is its own or that of its
operation. -/
structure EventView extends Event where
  createdByUsername : Option String := none
  orderNumber : Option String := none
  clientId : Option String := none
  clientCompanyName : Option String := none
  partCode : Option String := none
  partDesignation : Option String := none
  operationPhase : Option Int := none
  operationDesignation : Option String := none
  machineCode : Option String := none
  machineName : Option String := none
  workstationCode : Option String := none
  workstationLabel : Option String := none
deriving DecidableEq, Repr, Inhabited

namespace Catalog

/-- The operation to which an event is linked. -/
def operationOf (c : Catalog) (e : Event) : Option Operation :=
  e.operationId.bind c.operation?

/-- The order of an event: its own, or else that of its operation. -/
def orderIdOf (c : Catalog) (e : Event) : Option Int :=
  e.orderId <|> (c.operationOf e).map (·.orderId)

/-- The order of an event, as the catalog lists it. -/
def orderOf (c : Catalog) (e : Event) : Option Order :=
  (c.orderIdOf e).bind c.order?

/-- The view of an event. -/
def view (c : Catalog) (e : Event) : EventView :=
  let operation := c.operationOf e
  let order := c.orderOf e
  let client := (order.bind (·.clientId)).bind c.client?
  let part := (order.bind (·.partId)).bind c.part?
  let machine := e.machineId.bind c.machine?
  let workstation := e.workstationId.bind c.workstation?
  { e with
    orderId := c.orderIdOf e
    createdByUsername := (e.createdBy.bind c.user?).map (·.username)
    orderNumber := order.map (·.number)
    clientId := order.bind (·.clientId)
    clientCompanyName := client.map (·.companyName)
    partCode := part.map (·.code)
    partDesignation := part.bind (·.designation)
    operationPhase := operation.bind (·.phase)
    operationDesignation := operation.map (·.designation)
    machineCode := machine.map (·.code)
    machineName := machine.map (·.name)
    workstationCode := workstation.map (·.code)
    workstationLabel := workstation.map (·.label) }

end Catalog

namespace EventView

/-- The kind of the resource that the event books. -/
def resourceKind (v : EventView) : Option ResourceKind :=
  if (given v.machineId).isSome then some .machine
  else if (given v.workstationId).isSome then some .workstation
  else none

/-- The record in which an answer shows a view. -/
def toJson (v : EventView) : Json :=
  .obj <| v.toEvent.entries Instant.toText ++
    [ ("created_by_username", .optStr v.createdByUsername),
      ("order_number", .optStr v.orderNumber),
      ("client_id", .optStr v.clientId),
      ("client_company_name", .optStr v.clientCompanyName),
      ("part_code", .optStr v.partCode),
      ("part_designation", .optStr v.partDesignation),
      ("operation_phase", .optInt v.operationPhase),
      ("operation_designation", .optStr v.operationDesignation),
      ("machine_code", .optStr v.machineCode),
      ("machine_name", .optStr v.machineName),
      ("workstation_code", .optStr v.workstationCode),
      ("workstation_label", .optStr v.workstationLabel),
      ("resource_kind", .ofOption (fun k => .str k.name) v.resourceKind) ]

end EventView

namespace Catalog

@[simp]
theorem id_view (c : Catalog) (e : Event) :
  (c.view e).id = e.id
  := rfl

@[simp]
theorem orderId_view (c : Catalog) (e : Event) :
  (c.view e).orderId = c.orderIdOf e
  := rfl

/-- But for the order, which it may take from the operation, a view shows the event as it is. -/
theorem toEvent_view (c : Catalog) (e : Event) :
  (c.view e).toEvent = { e with orderId := c.orderIdOf e }
  := rfl

end Catalog

end Workshop
