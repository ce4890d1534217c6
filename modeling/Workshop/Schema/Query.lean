import Workshop.Listing
import Workshop.Schema.Reader

/-!
# Parameters of calls

How the parameters of a call are read.  A parameter is a text, so a number, an instant or a truth
value is read from the text that denotes it, and an empty text denotes none of them.
-/

namespace Workshop.Schema

open Reader

/-- The parameters of a call as the fields of a record. -/
def parameters (query : List (String × String)) : Fields :=
  query.map fun (name, value) => (name, .str value)

/-- Reads the id of the user on whose behalf a call is made, which has 1 to 36 characters. -/
def readActor (query : Fields) : Checked String :=
  (required "actor_user_id" (textWithin 1 36) query).below "query"

/-- Reads a switch, which is off if it is not there. -/
def readSwitch (name : String) (query : Fields) : Checked Bool :=
  (optional name boolean false query).below "query"

/-- Reads what a listing asks for.  Nothing is answered if the range does not lie in the years 1 to
9999. -/
def readListing (query : Fields) : Checked (Option Listing.Query) :=
  let optText (name : String) : Checked (Option String) :=
    present? name text query
  Checked.below "query" <|
    (fun (start stop : Option Instant) machineId workstationId orderId operationId kind status
        priority includeArchived =>
      match start, stop with
      | some start, some stop =>
        some { range := ⟨start, stop⟩, machineId, workstationId, orderId, operationId, kind,
               status, priority, includeArchived }
      | _, _ => none)
      <$> required "range_start_utc" farInstant query
      <*> required "range_end_utc" farInstant query
      <*> optText "machine_id"
      <*> optText "workstation_id"
      <*> present? "order_id" positive query
      <*> optText "operation_id"
      <*> present? "kind" word query
      <*> present? "status" word query
      <*> present? "priority" word query
      <*> optional "include_archived" boolean false query

end Workshop.Schema
