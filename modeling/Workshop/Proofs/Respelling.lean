import Mathlib.Data.List.Forall2
import Workshop.Proofs.Forms

/-!
# Instants that are spelt in another way

A call says the same whichever offsets its instants are written with.  `Schema.Respells` relates the
fields of two records that are the same but for the spellings of moments under given names.  What a
reader takes from a field under another name is then the same, and what it takes from a field under
one of the names is the same if the reader looks through spellings (`Reader.SeesMoments`), as the
readers of instants do.  So drafts, patches and listings are read alike, and two calls that differ
only in such spellings get the same reply and leave the same state: `Api.answer_respelt`.

`Api.instants_are_normalised` puts this together with what single texts are read as.
-/

namespace Workshop

namespace Schema

open Reader

variable {α : Type} {names : List String} {name : String} {fields fields' : Fields} {r : Reader α}

/-! ### Fields that are spelt in another way -/

/-- `RespellsField names f g` says that the second field is the first, or that both are called by
the same one of the names and spell the same moment. -/
inductive RespellsField (names : List String) : String × Json → String × Json → Prop where
  | same (f : String × Json) : RespellsField names f f
  | respelt {name : String} {v w : Spelling} (mem : name ∈ names) (moment : v.moment = w.moment) :
    RespellsField names (name, .str v.text) (name, .str w.text)

/-- Whether two records have the same fields, but for the spellings of moments under the names. -/
def Respells (names : List String) : Fields → Fields → Prop :=
  List.Forall₂ (RespellsField names)

/-- `RespellsBody names b b'` says that the second body is the first, or that both are records that
have the same fields but for the spellings of moments under the names. -/
inductive RespellsBody (names : List String) : Json → Json → Prop where
  | same (b : Json) : RespellsBody names b b
  | record {fields fields' : Fields} (respells : Respells names fields fields') :
    RespellsBody names (.obj fields) (.obj fields')

/-- Whether spellings of the same moment are read alike. -/
def Reader.SeesMoments (r : Reader α) : Prop :=
  ∀ v w : Spelling, v.moment = w.moment → r (.str v.text) = r (.str w.text)

theorem Reader.instant_seesMoments :
  SeesMoments instant
  := by
  intro v w h
  rw [instant, instant, Instant.read_text, Instant.read_text, h]

theorem Reader.SeesMoments.nullable (h : r.SeesMoments) :
  (nullable r).SeesMoments
  := by
  intro v w moment
  simp only [Reader.nullable, h v w moment]

theorem Reader.farInstant_seesMoments :
  SeesMoments farInstant
  := by
  intro v w h
  rw [farInstant, farInstant, instant_seesMoments v w h]

theorem Reader.instant_str_eq_ok_iff {s : String} {i : Instant} :
  instant (.str s) = .ok i ↔ Instant.read s = .ok i
  := by
  rw [instant]
  cases h : Instant.read s with
  | ok j => simp [ofInstant]
  | error defect => cases defect <;> simp [ofInstant, reject]

namespace Respells

/-- What is read under a name is the same, if there is nothing to be spelt or the reader looks
through spellings. -/
theorem map_lookup (h : Respells names fields fields') (hr : name ∉ names ∨ r.SeesMoments) :
  (fields'.lookup name).map r = (fields.lookup name).map r
  := by
  -- fields that stand in each other's place have one name, so that both lookups end at them
  induction h with
  | nil => rfl
  | @cons f f' rest rest' hfield hrest ih =>
    cases hfield with
    | same =>
      obtain ⟨other, v⟩ := f
      rw [List.lookup_cons, List.lookup_cons]
      cases name == other with
      | true => rfl
      | false => apply ih
    | @respelt other v w mem moment =>
      rw [List.lookup_cons, List.lookup_cons]
      cases heq : name == other with
      | false => apply ih
      | true =>
        rw [← eq_of_beq heq] at mem
        have hsees := hr.resolve_left (not_not_intro mem)
        exact congrArg some (hsees v w moment).symm

theorem required_eq (h : Respells names fields fields') (hr : name ∉ names ∨ r.SeesMoments) :
  required name r fields' = required name r fields
  := by
  have hfields : ∀ fields : Fields, required name r fields = ((fields.lookup name).map r).elim
      (.invalid [⟨[.name name], .missing⟩]) fun x => (Checked.ofReading x).below name := by
    intro fields
    rw [required]
    cases fields.lookup name <;> rfl
  rw [hfields, hfields, h.map_lookup hr]

theorem optional_eq (h : Respells names fields fields') (hr : name ∉ names ∨ r.SeesMoments)
    (default : α) :
  optional name r default fields' = optional name r default fields
  := by
  have hfields : ∀ fields : Fields, optional name r default fields
      = ((fields.lookup name).map r).elim (.valid default)
          fun x => (Checked.ofReading x).below name := by
    intro fields
    rw [optional]
    cases fields.lookup name <;> rfl
  rw [hfields, hfields, h.map_lookup hr]

theorem present?_eq (h : Respells names fields fields') (hr : name ∉ names ∨ r.SeesMoments) :
  present? name r fields' = present? name r fields
  := by
  have hfields : ∀ fields : Fields, present? name r fields = ((fields.lookup name).map r).elim
      (.valid none) fun x => ((Checked.ofReading x).below name).map some := by
    intro fields
    rw [present?]
    cases fields.lookup name <;> rfl
  rw [hfields, hfields, h.map_lookup hr]

/-- The fields have the same names. -/
theorem map_fst (h : Respells names fields fields') :
  fields'.map Prod.fst = fields.map Prod.fst
  := by
  induction h with
  | nil => rfl
  | cons hfield _ ih =>
    cases hfield <;> simp [ih]

theorem noOthers_eq (h : Respells names fields fields') (known : List String) :
  noOthers known fields' = noOthers known fields
  := by
  have hfields : ∀ fields : Fields, noOthers known fields
      = let others := (fields.map Prod.fst).filter fun n => !known.contains n
        if others.isEmpty then .valid ()
        else .invalid (others.map fun n => ⟨[.name n], .unknownField⟩) := by
    intro fields
    simp only [noOthers, List.filter_map, List.isEmpty_map, List.map_map, Function.comp_def]
  rw [hfields, hfields, h.map_fst]

end Respells

/-! ### What is read -/

/-- The names under which a draft holds instants. -/
def draftInstants : List String :=
  ["start_time_utc", "end_time_utc"]

/-- The names under which a patch holds instants. -/
def patchInstants : List String :=
  draftInstants ++ ["expected_updated_at"]

/-- The names under which a listing is asked for a range. -/
def rangeInstants : List String :=
  ["range_start_utc", "range_end_utc"]

/-- Drafts are read alike. -/
theorem Respells.readDraft_eq (h : Respells patchInstants fields fields') :
  readDraft fields' = readDraft fields
  := by
  have hinstant : ∀ name, required name instant fields' = required name instant fields :=
    fun _ => h.required_eq (.inr Reader.instant_seesMoments)
  have hother : ∀ {α : Type} {name : String} {r : Reader α} {d : α}, name ∉ patchInstants →
      optional name r d fields' = optional name r d fields :=
    fun hname => h.optional_eq (.inl hname) _
  simp (disch := decide) only [readDraft, hinstant, hother]

/-- Patches are read alike. -/
theorem Respells.readPatch_eq (h : Respells patchInstants fields fields') :
  PatchBody.read fields' = PatchBody.read fields
  := by
  have hinstant : ∀ name, present? name (nullable instant) fields'
      = present? name (nullable instant) fields :=
    fun _ => h.present?_eq (.inr Reader.instant_seesMoments.nullable)
  have hother : ∀ {α : Type} {name : String} {r : Reader α}, name ∉ patchInstants →
      present? name r fields' = present? name r fields :=
    fun hname => h.present?_eq (.inl hname)
  simp (disch := decide) only [PatchBody.read, PatchBody.readFields, hinstant, hother,
    h.noOthers_eq]

/-- Comments are read alike. -/
theorem Respells.readComment_eq (h : Respells patchInstants fields fields') :
  readComment fields' = readComment fields
  := h.required_eq (.inl (by decide))

/-- What a listing asks for is read alike. -/
theorem Respells.readListing_eq (h : Respells rangeInstants fields fields') :
  readListing fields' = readListing fields
  := by
  have hinstant : ∀ name, required name farInstant fields' = required name farInstant fields :=
    fun _ => h.required_eq (.inr Reader.farInstant_seesMoments)
  have hpresent : ∀ {α : Type} {name : String} {r : Reader α}, name ∉ rangeInstants →
      present? name r fields' = present? name r fields :=
    fun hname => h.present?_eq (.inl hname)
  have hoptional : ∀ {α : Type} {name : String} {r : Reader α} {d : α}, name ∉ rangeInstants →
      optional name r d fields' = optional name r d fields :=
    fun hname => h.optional_eq (.inl hname) _
  simp (disch := decide) only [readListing, hinstant, hpresent, hoptional]

/-- The user on whose behalf a call is made is read alike. -/
theorem Respells.readActor_eq (h : Respells rangeInstants fields fields') :
  readActor fields' = readActor fields
  := by
  rw [readActor, readActor, h.required_eq (.inl (by decide))]

/-- Switches are read alike. -/
theorem Respells.readSwitch_eq (h : Respells rangeInstants fields fields')
    (hname : name ∉ rangeInstants) :
  readSwitch name fields' = readSwitch name fields
  := by
  rw [readSwitch, readSwitch, h.optional_eq (.inl hname)]

end Schema

namespace Api

open Schema

/-! ### Calls -/

variable {call : Call} {query : List (String × String)} {body : Json}

/-- A body is read alike, if its fields are. -/
theorem Call.readBody_respelt {α : Type} {read : Fields → Checked α}
    (hread : ∀ {fields fields'}, Respells patchInstants fields fields' → read fields' = read fields)
    (h : RespellsBody patchInstants call.body body) :
  { call with query, body }.readBody read = call.readBody read
  := by
  obtain ⟨endpoint, path, asked, headers, old, form, newId, documentIds, documentStem⟩ := call
  cases h with
  | same => rfl
  | record respells =>
    simp only [readBody, record, hread respells]
    rfl

/-- What a call asks for does not depend on how it spells instants. -/
theorem Call.meaning_respelt
    (hquery : Respells rangeInstants call.parameters (Schema.parameters query))
    (hbody : RespellsBody patchInstants call.body body) (parts : List Form.Part) :
  { call with query, body }.meaning parts = call.meaning parts
  := by
  have hparameters : { call with query, body }.parameters = Schema.parameters query := rfl
  have hbodies : ∀ {α : Type} {read : Fields → Checked α},
      (∀ {fields fields'}, Respells patchInstants fields fields' → read fields' = read fields) →
      { call with query, body }.readBody read = call.readBody read :=
    fun hread => readBody_respelt hread hbody
  simp (disch := decide) only [meaning, hparameters, hquery.readActor_eq, hquery.readListing_eq,
    hquery.readSwitch_eq, hbodies Respells.readDraft_eq, hbodies Respells.readPatch_eq,
    hbodies Respells.readComment_eq]

/-- Calls that differ only in how they spell instants get the same reply, and leave the same
state. -/
theorem answer_respelt
    (hquery : Respells rangeInstants call.parameters (Schema.parameters query))
    (hbody : RespellsBody patchInstants call.body body) (s : State) (c : Conditions) :
  answer s c { call with query, body } = answer s c call
  := by
  have hattachment : { call with query, body }.wantsAttachment = call.wantsAttachment := by
    have hparameters : { call with query, body }.parameters = Schema.parameters query := rfl
    rw [Call.wantsAttachment, Call.wantsAttachment, hparameters,
      hquery.readSwitch_eq (by decide)]
  have hpresent : { call with query, body }.present = call.present := by
    funext a
    cases a with
    | file f =>
      rw [Call.present, Call.present, hattachment]
      rfl
    | _ => rfl
  have hparts : { call with query, body }.parts = call.parts := rfl
  have hcontext : { call with query, body }.context = call.context := rfl
  simp only [answer, hparts, hcontext, hpresent, Call.meaning_respelt hquery hbody]

/-- Instants are normalised without loss.  What is written for an instant in answers and in the
audit trail is read as this instant.  A text that spells a moment, with an offset or without one, is
read as the microsecond in which the moment lies, if there is one in the years 1 to 9999; and
nothing else is read as an instant but numbers that count from 1970.  So calls that differ only in
how they spell instants are treated alike. -/
theorem instants_are_normalised :
  (∀ i : Instant, Reader.instant (.str i.toText) = .ok i
      ∧ Reader.instant (.str i.toAuditText) = .ok i)
    ∧ (∀ (w : Spelling) (i : Instant),
        Reader.instant (.str w.text) = .ok i ↔ ⌊w.moment⌋ = i.micros)
    ∧ (∀ (text : String) (i : Instant), Reader.instant (.str text) = .ok i →
        (∃ w : Spelling, text = w.text)
          ∨ Instant.countedMicros? text.toList = some (i.micros : Int))
    ∧ ∀ (call : Call) (query : List (String × String)) (body : Json),
        Respells rangeInstants call.parameters (Schema.parameters query) →
        RespellsBody patchInstants call.body body →
        ∀ (s : State) (c : Conditions),
          answer s c { call with query, body } = answer s c call
  := by
  refine ⟨fun i => ⟨Reader.instant_toText i, Reader.instant_toAuditText i⟩, ?_, ?_, ?_⟩
  · intro w i
    rw [Reader.instant_str_eq_ok_iff, Instant.read_text_eq_ok_iff]
  · intro text i h
    rcases Instant.spelling_of_read (Reader.instant_str_eq_ok_iff.mp h) with ⟨w, rfl, -⟩ | ⟨-, h⟩
    · left
      use w
    · right
      apply h
  · intro call query body hquery hbody s c
    apply answer_respelt hquery hbody

end Api

namespace Sample

/-- A call that books the lathe from the instant that the text denotes up to five o'clock in the
morning. -/
def reserving (start : String) : Api.Call where
  endpoint := .create
  query := [("actor_user_id", "user")]
  body := .obj
    [ ("machine_id", .str "lathe"),
      ("start_time_utc", .str start),
      ("end_time_utc", .str "2025-11-30T10:00:00.000+05:00") ]
  newId := "first"

/-- Half an hour before midnight, on clocks that go half an hour behind, the next day begins. -/
theorem spells_midnight :
  (∃ w : Spelling, w.text = "2025-11-29T23:30:00-00:30" ∧ w.moment = (hour 16).micros)
    ∧ ∃ w : Spelling, w.text = "2025-11-30" ∧ w.moment = (hour 16).micros
  := by
  constructor
  · refine ⟨
      { date := ⟨2025, 11, 29⟩
        clock := some
          { separator := 'T'
            hour := 23
            minute := 30
            seconds := some { second := 0 }
            zone := .offset '-' 0 30 true (by decide) (by decide) (by decide) } },
      by decide, ?_⟩
    have hdays : Date.toDays ⟨2025, 11, 29⟩ = 739583 := by decide
    simp only [Spelling.moment, Option.elim_some, Spelling.Clock.micros, Spelling.Seconds.micros,
      Option.elim_none, Spelling.Zone.minutes, Char.reduceEq, if_false, hour, hdays]
    norm_num
  · refine ⟨{ date := ⟨2025, 11, 30⟩ }, by decide, ?_⟩
    have hdays : Date.toDays ⟨2025, 11, 30⟩ = 739584 := by decide
    simp only [Spelling.moment, Option.elim_none, hour, hdays]
    norm_num

end Sample

/-- Calls that name the beginning of a day in these two ways both book the lathe, and get the same
reply. -/
theorem Api.books_alike :
  Schema.Reader.instant (.str "2025-11-29T23:30:00-00:30") = .ok (Sample.hour 16)
    ∧ (∃ body, (answer Sample.state { now := Sample.hour 1 }
        (Sample.reserving "2025-11-30")).1 = .json 201 body)
    ∧ answer Sample.state { now := Sample.hour 1 } (Sample.reserving "2025-11-29T23:30:00-00:30")
      = answer Sample.state { now := Sample.hour 1 } (Sample.reserving "2025-11-30")
  := by
  obtain ⟨-, hread, -, halike⟩ := instants_are_normalised
  obtain ⟨⟨late, hlate, hmoment⟩, day, hday, hmoment'⟩ := Sample.spells_midnight
  refine ⟨?_, ⟨_, rfl⟩, ?_⟩
  · rw [← hlate, hread, hmoment, Int.floor_natCast]
  · rw [← hlate, ← hday]
    apply halike (Sample.reserving day.text) (Sample.reserving late.text).query
    · exact .cons (.same _) .nil
    · apply Schema.RespellsBody.record
      exact .cons (.same _)
        (.cons (.respelt (by decide) (hmoment'.trans hmoment.symm)) (.cons (.same _) .nil))

end Workshop
