import Workshop.Api.Call
import Workshop.Proofs.Replay

/-!
# Forms that are sent back

A form that shows an event sends what it shows back as a patch: the twelve fields, and what the
client remembers of the event.  `Api.formOf` is the body that it sends if nothing has been changed,
made of the record in which a reply shows the event.  If the texts and the numbers that are shown
are such as a patch may hold, then this body is read as the patch that sets every field to the value
which it has: `Schema.PatchBody.read_formFields`.
-/

namespace Workshop

open Schema

/-! ### Values that a patch may hold -/

/-- Whether the id is one that a patch may hold. -/
def FitsId (id : String) : Prop :=
  Text.trim id = id ∧ id.length ≤ 36

instance (id : String) : Decidable (FitsId id) :=
  inferInstanceAs (Decidable (_ ∧ _))

/-- Whether the fields of the view have values that a patch may hold: the texts have no blanks at
their ends, ids have at most 36 characters and the title has 1 to 500, and the number of the order
is positive. -/
structure EventView.FitsPatch (v : EventView) : Prop where
  order : ∀ n ∈ v.orderId, 0 < n
  operation : ∀ i ∈ v.operationId, FitsId i
  machine : ∀ i ∈ v.machineId, FitsId i
  workstation : ∀ i ∈ v.workstationId, FitsId i
  title : Text.trim v.title = v.title ∧ 1 ≤ v.title.length ∧ v.title.length ≤ 500
  description : ∀ t ∈ v.description, Text.trim t = t

namespace Schema.Reader

variable {s : String}

theorem positive_int {n : Int} (h : 0 < n) :
  positive (.int n) = .ok n
  := if_pos h

theorem trimmed_str {α : Type} (r : Reader α) (h : Text.trim s = s) :
  trimmed r (.str s) = r (.str s)
  := by
  rw [trimmed, h]

theorem textWithin_str {least most : Nat} (hleast : least ≤ s.length) (hmost : s.length ≤ most) :
  textWithin least most (.str s) = .ok s
  := by
  change (if s.length < least then _ else if most < s.length then _ else _) = _
  rw [if_neg (Nat.not_lt.mpr hleast), if_neg (Nat.not_lt.mpr hmost)]
  rfl

theorem instant_toText (i : Instant) :
  instant (.str i.toText) = .ok i
  := by
  rw [instant, i.read_toText]
  rfl

theorem nullable_of_ne_null {α : Type} {r : Reader α} {v : Json} {a : α} (hv : v ≠ .null)
    (h : r v = .ok a) :
  nullable r v = .ok (some a)
  := by
  have hnullable : nullable r v = (r v).map some := by
    cases v with
    | null => contradiction
    | _ => rfl
  rw [hnullable, h]
  rfl

theorem nullable_optInt {n : Option Int} (h : ∀ i ∈ n, 0 < i) :
  nullable positive (.optInt n) = .ok n
  := by
  cases n with
  | none => rfl
  | some i => exact nullable_of_ne_null Json.noConfusion (positive_int (h i rfl))

theorem nullable_optStr {r : Reader String} {t : Option String}
    (h : ∀ s ∈ t, r (.str s) = .ok s) :
  nullable r (.optStr t) = .ok t
  := by
  cases t with
  | none => rfl
  | some s => exact nullable_of_ne_null Json.noConfusion (h s rfl)

theorem idReader_optStr {id : Option String} (h : ∀ i ∈ id, FitsId i) :
  idReader (.optStr id) = .ok id
  := by
  apply nullable_optStr
  intro i hi
  rw [trimmed_str _ (h i hi).1]
  apply textWithin_str (Nat.zero_le _) (h i hi).2

theorem titleReader_str (h : Text.trim s = s ∧ 1 ≤ s.length ∧ s.length ≤ 500) :
  titleReader (.str s) = .ok s
  := by
  rw [titleReader, trimmed_str _ h.1]
  apply textWithin_str h.2.1 h.2.2

end Schema.Reader

/-! ### Bodies that show an event -/

/-- The names of the fields of a patch, each with the name under which a view shows what is sent
back in it. -/
def Api.formNames : List (String × String) :=
  (Worded.values : List Event.Field).map (fun f => (Worded.word f, Worded.word f))
    ++ [("expected_updated_at", "updated_at"), ("expected_version", "version")]

/-- The body that sends back what the record shows of an event, nothing being changed. -/
def Api.formOf (shown : Json) : Json :=
  .obj (formNames.filterMap fun n => (shown.field? n.2).map fun value => (n.1, value))

/-- The body that sets every field to the value that it has in the view, and remembers the view. -/
def Schema.PatchBody.ofView (v : EventView) : PatchBody where
  kind := some (some v.kind)
  status := some (some v.status)
  priority := some (some v.priority)
  orderId := some v.orderId
  operationId := some v.operationId
  machineId := some v.machineId
  workstationId := some v.workstationId
  title := some (some v.title)
  description := some v.description
  start := some (some v.start)
  stop := some (some v.stop)
  allowOverlap := some (some v.allowOverlap)
  expectedUpdatedAt := some (some v.updatedAt)
  expectedVersion := some (some v.version)

/-- The fields of the body that sends back what a view shows. -/
def Api.formFields (v : EventView) : Fields :=
  [ ("kind", .str (Worded.word v.kind)),
    ("status", .str (Worded.word v.status)),
    ("priority", .str (Worded.word v.priority)),
    ("order_id", .optInt v.orderId),
    ("operation_id", .optStr v.operationId),
    ("machine_id", .optStr v.machineId),
    ("workstation_id", .optStr v.workstationId),
    ("title", .str v.title),
    ("description", .optStr v.description),
    ("start_time_utc", .str v.start.toText),
    ("end_time_utc", .str v.stop.toText),
    ("allow_overlap", .bool v.allowOverlap),
    ("expected_updated_at", .str v.updatedAt.toText),
    ("expected_version", .int v.version) ]

theorem Api.formOf_toJson (v : EventView) :
  formOf v.toJson = .obj (formFields v)
  := rfl

namespace Schema

theorem present?_of_lookup {α : Type} {name : String} {r : Reader α} {fields : Fields} {v : Json}
    {a : α} (found : fields.lookup name = some v) (read : r v = .ok a) :
  present? name r fields = .valid (some a)
  := by
  simp only [present?, found, read]
  rfl

namespace PatchBody

variable {v : EventView}

theorem readFields_formFields (fits : v.FitsPatch) :
  readFields (Api.formFields v) = .valid (ofView v)
  := by
  have hword : ∀ {α : Type} [Worded α] [LawfulWorded α] (a : α),
      Reader.nullable Reader.word (.str (Worded.word a)) = .ok (some a) := fun a =>
    Reader.nullable_of_ne_null Json.noConfusion (Reader.word_word a)
  have hinstant : ∀ i : Instant, Reader.nullable Reader.instant (.str i.toText) = .ok (some i) :=
    fun i => Reader.nullable_of_ne_null Json.noConfusion (Reader.instant_toText i)
  have htitle : Reader.nullable titleReader (.str v.title) = .ok (some v.title) :=
    Reader.nullable_of_ne_null Json.noConfusion (Reader.titleReader_str fits.title)
  have hdescription : Reader.nullable (Reader.trimmed Reader.text) (.optStr v.description)
      = .ok v.description :=
    Reader.nullable_optStr fun s hs => Reader.trimmed_str _ (fits.description s hs)
  rw [readFields, present?_of_lookup rfl (hword v.kind), present?_of_lookup rfl (hword v.status),
    present?_of_lookup rfl (hword v.priority),
    present?_of_lookup rfl (Reader.nullable_optInt fits.order),
    present?_of_lookup rfl (Reader.idReader_optStr fits.operation),
    present?_of_lookup rfl (Reader.idReader_optStr fits.machine),
    present?_of_lookup rfl (Reader.idReader_optStr fits.workstation),
    present?_of_lookup rfl htitle, present?_of_lookup rfl hdescription,
    present?_of_lookup rfl (hinstant v.start), present?_of_lookup rfl (hinstant v.stop),
    present?_of_lookup rfl
      (Reader.nullable_of_ne_null Json.noConfusion (Reader.boolean_bool v.allowOverlap)),
    present?_of_lookup rfl (hinstant v.updatedAt),
    present?_of_lookup rfl (Reader.nullable_integer_optInt (some v.version))]
  rfl

/-- What a view shows is read from the body that sends it back, if a patch may hold it. -/
theorem read_formFields (fits : v.FitsPatch) :
  read (Api.formFields v) = .valid (ofView v)
  := by
  have hothers : noOthers fieldNames (Api.formFields v) = .valid () := rfl
  rw [read, readFields_formFields fits, hothers]
  rfl

end PatchBody

end Schema

end Workshop
