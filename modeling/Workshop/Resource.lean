import Workshop.Catalog
import Workshop.Text.Basic

/-!
# Resources

A `Resource` is what an event books: one machine or one workstation.  `Resource.resolve` chooses
it from the ids that a request gives and from the defaults of the operation that the event is
linked to.
-/

namespace Workshop

/-- The two kinds of resources. -/
inductive ResourceKind where
  | machine
  | workstation
deriving DecidableEq, Repr, Inhabited

/-- The word for a kind of resource. -/
def ResourceKind.name : ResourceKind → String
  | machine => "machine"
  | workstation => "workstation"

/-- The word for a kind of resource, as it begins a sentence. -/
def ResourceKind.title : ResourceKind → String
  | machine => "Machine"
  | workstation => "Workstation"

/-- One machine or one workstation. -/
structure Resource where
  kind : ResourceKind
  id : String
deriving DecidableEq, Repr, Inhabited

/-- Why no resource can be chosen. -/
inductive Resource.Problem where
  /-- A machine and a workstation are both given. -/
  | ambiguous
  /-- Neither is given, and there is no operation to take one from. -/
  | missing
  /-- Neither is given, and the operation has neither. -/
  | unassigned
deriving DecidableEq, Repr, Inhabited

namespace Resource

/-- The id of the resource, if it is a machine. -/
def machineId? (r : Resource) : Option String :=
  match r.kind with
  | .machine => some r.id
  | .workstation => none

/-- The id of the resource, if it is a workstation. -/
def workstationId? (r : Resource) : Option String :=
  match r.kind with
  | .machine => none
  | .workstation => some r.id

/-- The resource that the operation offers: its workstation rather than its machine, as a
workstation is the finer unit. -/
def ofOperation (op : OperationDefaults) : Except Problem Resource :=
  match given op.workstationId with
  | some w => .ok ⟨.workstation, w⟩
  | none =>
    match given op.machineId with
    | some m => .ok ⟨.machine, m⟩
    | none => .error .unassigned

/-- The resource given by a machine id or a workstation id, or else the one that the operation
offers. -/
def resolve (machineId workstationId : Option String) (operation : Option OperationDefaults) :
    Except Problem Resource :=
  match given machineId, given workstationId with
  | some _, some _ => .error .ambiguous
  | some m, none => .ok ⟨.machine, m⟩
  | none, some w => .ok ⟨.workstation, w⟩
  | none, none =>
    match operation with
    | none => .error .missing
    | some op => ofOperation op

/-- Whether the catalog lists the resource. -/
def isListed (r : Resource) (c : Catalog) : Bool :=
  match r.kind with
  | .machine => (c.machine? r.id).isSome
  | .workstation => (c.workstation? r.id).isSome

/-- A chosen resource has a non-empty id. -/
theorem id_ne_of_resolve {m w : Option String} {op : Option OperationDefaults} {r : Resource}
    (h : resolve m w op = .ok r) :
  r.id ≠ ""
  := by
  simp only [resolve] at h
  split at h
  · simp at h
  · rename_i hm _
    cases h
    exact (given_eq_some.1 hm).2
  · rename_i _ hw
    cases h
    exact (given_eq_some.1 hw).2
  · split at h
    · simp at h
    · simp only [ofOperation] at h
      split at h
      · rename_i hw
        cases h
        exact (given_eq_some.1 hw).2
      · split at h
        · rename_i hm
          cases h
          exact (given_eq_some.1 hm).2
        · simp at h

end Resource

end Workshop
