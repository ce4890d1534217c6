import Workshop.Proofs.Replies
import Workshop.Proofs.Respelling

/-!
# What checking ends with

The checks of a call end with what it asks for, or with issues, for which it is refused.  There is
one way for them to fail instead, namely that a moment that is spelt in the call where an instant is
read lies outside of the years 1 to 9999 of Coordinated Universal Time.

`Checked.FailsIff` says of an outcome under which condition it is such a failure, and that there is
an issue where there is neither a value nor the failure.  For single values this is what
`Reader.FailsOn` says of their reader, and it is put together field by field as the outcome is.
`Api.malformed_calls_are_refused` says when a call fails in this way, and that it is valid or
refused otherwise.
-/

namespace Workshop

namespace Schema

variable {α β : Type} {far far' : Prop}

/-! ### Outcomes -/

namespace Checked

/-- `x.FailsIff far` says that checking fails if the condition holds, and otherwise ends with a
value or with issues, of which there is one at least. -/
inductive FailsIff (far : Prop) : Checked α → Prop where
  | valid (near : ¬ far) (a : α) : FailsIff far (valid a)
  | invalid (near : ¬ far) {issues : List Issue} (nonempty : issues ≠ []) :
    FailsIff far (invalid issues)
  | outOfRange (reached : far) : FailsIff far outOfRange

namespace FailsIff

variable {x : Checked α}

/-- The condition may be put in another way. -/
theorem congr (h : x.FailsIff far) (hiff : far ↔ far') :
  x.FailsIff far'
  := propext hiff ▸ h

theorem map (h : x.FailsIff far) (f : α → β) :
  (f <$> x).FailsIff far
  := by
  cases h with
  | valid near => exact .valid near _
  | invalid near nonempty => exact .invalid near nonempty
  | outOfRange reached => exact .outOfRange reached

/-- Two parts fail if one of them does. -/
theorem seq {f : Checked (α → β)} (hf : f.FailsIff far) (hx : x.FailsIff far') :
  (f <*> x).FailsIff (far ∨ far')
  := by
  -- a failure outweighs what is said of the other part
  cases hf with
  | outOfRange reached => exact .outOfRange (.inl reached)
  | valid near f =>
    cases hx with
    | outOfRange reached => exact .outOfRange (.inr reached)
    | valid near' => exact .valid (not_or.mpr ⟨near, near'⟩) _
    | invalid near' nonempty => exact .invalid (not_or.mpr ⟨near, near'⟩) nonempty
  | invalid near nonempty =>
    cases hx with
    | outOfRange reached => exact .outOfRange (.inr reached)
    | valid near' => exact .invalid (not_or.mpr ⟨near, near'⟩) nonempty
    | invalid near' =>
      exact .invalid (not_or.mpr ⟨near, near'⟩) (List.append_ne_nil_of_left_ne_nil nonempty _)

theorem below (h : x.FailsIff far) (name : String) :
  (x.below name).FailsIff far
  := by
  cases h with
  | valid near => exact .valid near _
  | invalid near nonempty => exact .invalid near (by simpa using nonempty)
  | outOfRange reached => exact .outOfRange reached

/-- A further check that does not fail leaves it at that. -/
theorem andThen (h : x.FailsIff far) {f : α → Checked β} (hf : ∀ a, (f a).FailsIff False) :
  (x.andThen f).FailsIff far
  := by
  cases h with
  | valid near a => exact (hf a).congr (by simp [near])
  | invalid near nonempty => exact .invalid near nonempty
  | outOfRange reached => exact .outOfRange reached

end FailsIff

end Checked

/-! ### Readers -/

/-- Whether the reader fails on the values that meet the condition, and refuses or reads any
other. -/
def Reader.FailsOn (far : Json → Prop) (r : Reader α) : Prop :=
  ∀ v, r v = .error .outOfRange ↔ far v

/-- Whether the reader fails on no value. -/
abbrev Reader.NeverFails (r : Reader α) : Prop :=
  r.FailsOn fun _ => False

/-- Whether the value is the text of a moment outside of the years 1 to 9999. -/
def IsFar (v : Json) : Prop :=
  ∃ w : Spelling, v = .str w.text ∧ ¬ w.InCalendar

namespace Reader

variable {r : Reader α} {far : Json → Prop}

theorem FailsOn.nullable (h : r.FailsOn far) (hnull : ¬ far .null) :
  (nullable r).FailsOn far
  := by
  intro v
  rw [← h v]
  cases v with
  | null => simp [Reader.nullable, h .null, hnull]
  | _ =>
    simp only [Reader.nullable]
    cases r _ <;> simp [Except.map]

theorem NeverFails.trimmed (h : r.NeverFails) :
  (trimmed r).NeverFails
  := by
  intro v
  cases v <;> apply h

theorem text_neverFails :
  text.NeverFails
  := by
  intro v
  cases v <;> simp [text, reject]

theorem textWithin_neverFails (least most : Nat) :
  (textWithin least most).NeverFails
  := by
  intro v
  cases v with
  | str s =>
    simp only [textWithin, text, bind, Except.bind]
    split_ifs <;> simp [reject, pure, Except.pure]
  | _ => simp [textWithin, text, reject, bind, Except.bind]

theorem word_neverFails [Worded α] :
  (word : Reader α).NeverFails
  := by
  intro v
  cases v with
  | str s =>
    simp only [word]
    cases (Worded.read? s : Option α) <;> simp [reject]
  | _ => simp [word, reject]

theorem integer_neverFails :
  integer.NeverFails
  := by
  intro v
  cases v with
  | float x =>
    simp only [integer]
    cases integerOfFloat x <;> simp [Except.mapError]
  | str s =>
    simp only [integer]
    cases IntegerText.read s <;> simp [Except.mapError]
  | _ => simp [integer, reject]

theorem positive_neverFails :
  positive.NeverFails
  := by
  intro v
  have h := integer_neverFails v
  simp only [positive]
  cases hv : integer v with
  | error flaw => simpa [hv, bind, Except.bind] using h
  | ok n =>
    simp only [bind, Except.bind]
    split_ifs <;> simp [reject, pure, Except.pure]

theorem booleanOfInteger_ne (n : Int) :
  booleanOfInteger n ≠ .error .outOfRange
  := by
  rw [booleanOfInteger]
  split_ifs <;> simp [reject]

theorem boolean_neverFails :
  boolean.NeverFails
  := by
  intro v
  cases v with
  | int n => simp [boolean, booleanOfInteger_ne]
  | float x =>
    simp only [boolean]
    cases integerOfFloat x <;> simp [booleanOfInteger_ne, reject]
  | str s =>
    simp only [boolean]
    split_ifs <;> simp [reject]
  | _ => simp [boolean, reject]

theorem ofInstant_eq_outOfRange_iff {outcome : Except Instant.Defect Instant} :
  ofInstant outcome = .error .outOfRange ↔ outcome = .error .outOfRange
  := by
  cases outcome with
  | ok i => simp [ofInstant]
  | error defect => cases defect <;> simp [ofInstant, reject]

/-- The reader of instants fails on the texts of moments outside of the years 1 to 9999. -/
theorem instant_failsOn :
  instant.FailsOn IsFar
  := by
  -- a number that counts from 1970 is refused if it leads there
  have hcounted : ∀ n, ofInstant ((Instant.ofMicros n).mapError fun _ => .noSuchYear)
      ≠ .error .outOfRange := by
    intro n
    cases Instant.ofMicros n <;> simp [Except.mapError, ofInstant, reject]
  intro v
  cases v with
  | str s => simp [instant, ofInstant_eq_outOfRange_iff, Instant.read_eq_outOfRange_iff, IsFar]
  | int n =>
    refine iff_of_false ?_ (by simp [IsFar])
    simp only [instant]
    split_ifs
    · apply hcounted
    · simp [reject]
  | float x => exact iff_of_false (hcounted _) (by simp [IsFar])
  | negativeZero => exact iff_of_false (hcounted _) (by simp [IsFar])
  | _ => simp [instant, IsFar, reject]

theorem farInstant_neverFails :
  farInstant.NeverFails
  := by
  intro v
  simp only [farInstant]
  split <;> simp [reject]

end Reader

/-! ### Fields -/

variable {r : Reader α} {far : Json → Prop} {name : String} {names : List String} {fields : Fields}

/-- Whether a field under the name meets the condition. -/
def Holds (name : String) (far : Json → Prop) (fields : Fields) : Prop :=
  ∃ v, fields.lookup name = some v ∧ far v

/-- Whether the text of a moment outside of the years 1 to 9999 stands under one of the names. -/
def HoldsFar (names : List String) (fields : Fields) : Prop :=
  ∃ name ∈ names, Holds name IsFar fields

theorem ofReading_failsIff (hr : r.FailsOn far) (v : Json) :
  (Checked.ofReading (r v)).FailsIff (far v)
  := by
  have hv := hr v
  cases h : r v with
  | ok a => exact .valid (by simp [← hv, h]) a
  | error flaw =>
    cases flaw with
    | defect d => exact .invalid (by simp [← hv, h]) (by simp)
    | outOfRange => exact .outOfRange (hv.mp h)

theorem required_failsIff (hr : r.FailsOn far) (name : String) (fields : Fields) :
  (required name r fields).FailsIff (Holds name far fields)
  := by
  simp only [required, Holds]
  cases fields.lookup name with
  | none => exact .invalid (by simp) (by simp)
  | some v => exact ((ofReading_failsIff hr v).below name).congr (by simp)

theorem required_never (hr : r.NeverFails) :
  (required name r fields).FailsIff False
  := (required_failsIff hr name fields).congr (by simp [Holds])

theorem optional_failsIff (hr : r.FailsOn far) (name : String) (default : α) (fields : Fields) :
  (optional name r default fields).FailsIff (Holds name far fields)
  := by
  simp only [optional, Holds]
  cases fields.lookup name with
  | none => exact .valid (by simp) default
  | some v => exact ((ofReading_failsIff hr v).below name).congr (by simp)

theorem optional_never (hr : r.NeverFails) {default : α} :
  (optional name r default fields).FailsIff False
  := (optional_failsIff hr name default fields).congr (by simp [Holds])

theorem present?_failsIff (hr : r.FailsOn far) (name : String) (fields : Fields) :
  (present? name r fields).FailsIff (Holds name far fields)
  := by
  simp only [present?, Holds]
  cases fields.lookup name with
  | none => exact .valid (by simp) none
  | some v => exact (((ofReading_failsIff hr v).below name).map some).congr (by simp)

theorem present?_never (hr : r.NeverFails) :
  (present? name r fields).FailsIff False
  := (present?_failsIff hr name fields).congr (by simp [Holds])

theorem noOthers_failsIff (known : List String) (fields : Fields) :
  (noOthers known fields).FailsIff False
  := by
  simp only [noOthers]
  split_ifs with hothers
  · exact .valid id ()
  · exact .invalid id (by simpa using hothers)

/-! ### Records -/

open Reader

theorem idReader_neverFails :
  idReader.NeverFails
  := (textWithin_neverFails 0 36).trimmed.nullable id

theorem titleReader_neverFails :
  titleReader.NeverFails
  := (textWithin_neverFails 1 500).trimmed

/-- Reading a draft fails if one of its ends lies outside of the years 1 to 9999. -/
theorem readDraft_failsIff (fields : Fields) :
  (readDraft fields).FailsIff (HoldsFar draftInstants fields)
  := by
  have h : (readDraft fields).FailsIff _ :=
    ((optional_never word_neverFails).map EventDraft.mk)
      |>.seq (optional_never word_neverFails)
      |>.seq (optional_never word_neverFails)
      |>.seq (optional_never (positive_neverFails.nullable id))
      |>.seq (optional_never idReader_neverFails)
      |>.seq (optional_never idReader_neverFails)
      |>.seq (optional_never idReader_neverFails)
      |>.seq (optional_never (titleReader_neverFails.nullable id))
      |>.seq (optional_never (text_neverFails.trimmed.nullable id))
      |>.seq (required_failsIff instant_failsOn _ _)
      |>.seq (required_failsIff instant_failsOn _ _)
      |>.seq (optional_never boolean_neverFails)
  exact h.congr (by simp [HoldsFar, draftInstants])

/-- Reading a patch fails if one of the ends or the stamp in it lies outside of the years 1 to
9999. -/
theorem PatchBody.read_failsIff (fields : Fields) :
  (read fields).FailsIff (HoldsFar patchInstants fields)
  := by
  have hinstant : (nullable instant).FailsOn IsFar := instant_failsOn.nullable (by simp [IsFar])
  have hcolumns : ∀ b : PatchBody, b.requireColumns.FailsIff False := by
    intro b
    rw [requireColumns]
    cases b.nulled? with
    | some f => exact .invalid id (by simp)
    | none => exact .valid id b
  have hfields : (readFields fields).FailsIff _ :=
    ((present?_never (word_neverFails.nullable id)).map PatchBody.mk)
      |>.seq (present?_never (word_neverFails.nullable id))
      |>.seq (present?_never (word_neverFails.nullable id))
      |>.seq (present?_never (positive_neverFails.nullable id))
      |>.seq (present?_never idReader_neverFails)
      |>.seq (present?_never idReader_neverFails)
      |>.seq (present?_never idReader_neverFails)
      |>.seq (present?_never (titleReader_neverFails.nullable id))
      |>.seq (present?_never (text_neverFails.trimmed.nullable id))
      |>.seq (present?_failsIff hinstant _ _)
      |>.seq (present?_failsIff hinstant _ _)
      |>.seq (present?_never (boolean_neverFails.nullable id))
      |>.seq (present?_failsIff hinstant _ _)
      |>.seq (present?_never (integer_neverFails.nullable id))
  have h : (read fields).FailsIff _ :=
    (hfields.map _ |>.seq (noOthers_failsIff fieldNames fields)).andThen hcolumns
  exact h.congr (by simp [HoldsFar, patchInstants, draftInstants, or_assoc])

/-- Reading a comment never fails. -/
theorem readComment_failsIff (fields : Fields) :
  (readComment fields).FailsIff (HoldsFar [] fields)
  := (required_never (textWithin_neverFails 1 4000).trimmed).congr (by simp [HoldsFar])

/-- Reading the user never fails. -/
theorem readActor_failsIff (query : Fields) :
  (readActor query).FailsIff False
  := (required_never (textWithin_neverFails 1 36)).below "query"

/-- Reading a switch never fails. -/
theorem readSwitch_failsIff (name : String) (query : Fields) :
  (readSwitch name query).FailsIff False
  := (optional_never boolean_neverFails).below "query"

/-- Reading what a listing asks for never fails. -/
theorem readListing_failsIff (query : Fields) :
  (readListing query).FailsIff False
  := by
  have h : (readListing query).FailsIff _ :=
    ((required_never farInstant_neverFails).map _
      |>.seq (required_never farInstant_neverFails)
      |>.seq (present?_never text_neverFails)
      |>.seq (present?_never text_neverFails)
      |>.seq (present?_never positive_neverFails)
      |>.seq (present?_never text_neverFails)
      |>.seq (present?_never word_neverFails)
      |>.seq (present?_never word_neverFails)
      |>.seq (present?_never word_neverFails)
      |>.seq (optional_never boolean_neverFails)).below "query"
  exact h.congr (by simp)

/-- An instant that need not be in range is read as nothing if it is not. -/
theorem Reader.farInstant_eq_none_iff {v : Json} {i? : Option Instant}
    (h : farInstant v = .ok i?) :
  i? = none ↔ IsFar v
  := by
  rw [← instant_failsOn v]
  simp only [farInstant] at h
  split at h
  · rename_i i hread
    cases h
    simp [hread]
  · rename_i hread
    cases h
    simp [hread]
  · cases h

theorem required_eq_valid_iff {a : α} :
  required name r fields = .valid a ↔ ∃ v, fields.lookup name = some v ∧ r v = .ok a
  := by
  simp only [required]
  cases fields.lookup name with
  | none => simp
  | some v =>
    rw [Checked.below_eq_valid]
    cases h : r v with
    | ok b => simp [Checked.ofReading, h]
    | error flaw => cases flaw <;> simp [Checked.ofReading, h]

/-- An end of a range is read as nothing if it is not in range. -/
theorem required_farInstant {i? : Option Instant}
    (h : required name farInstant fields = .valid i?) :
  i? = none ↔ Holds name IsFar fields
  := by
  obtain ⟨v, hv, hread⟩ := required_eq_valid_iff.mp h
  rw [farInstant_eq_none_iff hread]
  simp [Holds, hv]

/-- What a listing asks for is nothing if an end of its range lies outside of the years 1 to
9999. -/
theorem readListing_eq_none_iff {query : Fields} {q? : Option Listing.Query}
    (h : readListing query = .valid q?) :
  q? = none ↔ HoldsFar rangeInstants query
  := by
  simp only [readListing, Checked.below_eq_valid, Checked.seq_eq_valid, Checked.map_eq_valid,
    exists_and_left, exists_exists_and_eq_and, exists_exists_and_exists_and_eq_and, ↓existsAndEq,
    and_true] at h
  obtain ⟨start, stop, _, _, _, _, _, _, _, ⟨⟨⟨⟨⟨⟨⟨hstart, hstop, -⟩, -⟩, -⟩, -⟩, -⟩, -⟩, -⟩, _, -,
    rfl⟩ := h
  simp only [HoldsFar, rangeInstants, List.mem_cons, List.not_mem_nil, or_false, exists_eq_or_imp,
    exists_eq_left, ← required_farInstant hstart, ← required_farInstant hstop]
  cases start <;> cases stop <;> simp

end Schema

/-! ### Calls -/

namespace Api

open Schema

namespace Call

/-- Whether the body of the call, if it is read, holds a moment outside of the years 1 to 9999 under
one of the names. -/
def BodyHoldsFar (call : Call) (names : List String) : Prop :=
  call.contentType?.all ContentType.isStructured = true
    ∧ ∃ fields, call.body = .obj fields ∧ HoldsFar names fields

/-- Whether the call names a moment outside of the years 1 to 9999 where an instant is read: in a
draft or in a patch, whatever else is wrong with the call; or as an end of the range of a listing
that is asked for properly otherwise. -/
def LeavesCalendar (call : Call) : Prop :=
  match call.endpoint with
  | .create => call.BodyHoldsFar draftInstants
  | .patch _ => call.BodyHoldsFar patchInstants
  | .list => HoldsFar rangeInstants call.parameters ∧ ∀ issues, call.meaning [] ≠ .invalid issues
  | _ => False

variable {call : Call}

theorem readBody_failsIff {α : Type} {read : Fields → Checked α} {names : List String}
    (h : ∀ fields, (read fields).FailsIff (HoldsFar names fields)) (call : Call) :
  (call.readBody read).FailsIff (call.BodyHoldsFar names)
  := by
  cases hbody : call.body with
  | obj fields =>
    by_cases hstructured : call.contentType?.all ContentType.isStructured = true
    · simp only [readBody, BodyHoldsFar, hbody, hstructured, if_true]
      exact ((h fields).below "body").congr (by simp)
    · simp only [readBody, BodyHoldsFar, hbody, hstructured]
      exact .invalid (by simp) (by simp)
  | null =>
    simp only [readBody, BodyHoldsFar, hbody]
    exact .invalid (by simp) (by simp)
  | _ =>
    -- whatever its head says, the body is no record
    simp only [readBody, BodyHoldsFar, hbody]
    split_ifs <;> exact .invalid (by simp) (by simp)

/-- `Ends far x` says that the checks of a call end with what it asks for or with issues, of which
there is one at least; unless the condition holds, and then they fail, or ask for a listing of a
range that leaves the years 1 to 9999. -/
inductive Ends (far : Prop) : Checked Meaning → Prop where
  | valid (near : ¬ far) {m : Meaning} (inRange : m ≠ .farRange) : Ends far (.valid m)
  | invalid (near : ¬ far) {issues : List Issue} (nonempty : issues ≠ []) :
    Ends far (.invalid issues)
  | outOfRange (reached : far) : Ends far .outOfRange
  | farRange (reached : far) : Ends far (.valid .farRange)

theorem Ends.of_failsIff {far : Prop} {x : Checked Meaning} (h : x.FailsIff far)
    (inRange : x ≠ .valid .farRange) :
  Ends far x
  := by
  cases h with
  | valid near m => exact .valid near (by simpa using inRange)
  | invalid near nonempty => exact .invalid near nonempty
  | outOfRange reached => exact .outOfRange reached

/-- Only listings are asked for a range. -/
theorem endpoint_of_farRange (h : call.meaning [] = .valid .farRange) :
  call.endpoint = .list
  := by
  simp only [meaning] at h
  cases hend : call.endpoint <;> simp only [hend] at h
  case list => rfl
  case detail => cases h
  case health => cases h
  case archive | resources | download =>
    apply absurd h
    apply Checked.map_ne_valid
    simp
  all_goals
    apply absurd h
    apply Checked.seq_ne_valid
    simp

/-- The checks of a call that is not for a listing fail if it leaves the calendar. -/
theorem meaning_failsIff (plain : ¬ call.endpoint.HandlesFiles) (hlist : call.endpoint ≠ .list) :
  (call.meaning []).FailsIff call.LeavesCalendar
  := by
  have hactor := readActor_failsIff call.parameters
  simp only [meaning, LeavesCalendar]
  cases hend : call.endpoint with
  | create =>
    exact ((hactor.map _).seq (readBody_failsIff readDraft_failsIff call)).congr (by simp)
  | patch e =>
    exact ((hactor.map _).seq (readBody_failsIff PatchBody.read_failsIff call)).congr (by simp)
  | comment e =>
    exact ((hactor.map _).seq (readBody_failsIff readComment_failsIff call)).congr
      (by simp [BodyHoldsFar, HoldsFar])
  | archive e => exact hactor.map _
  | resources => exact (readSwitch_failsIff "include_archived" call.parameters).map _
  | detail e => exact .valid id _
  | health => exact .valid id _
  | list => exact absurd hend hlist
  | upload e =>
    rw [hend] at plain
    exact absurd trivial plain
  | download e d =>
    rw [hend] at plain
    exact absurd trivial plain

/-- The checks of a listing ask for one out of range if it leaves the calendar. -/
theorem ends_of_list (hlist : call.endpoint = .list) :
  Ends call.LeavesCalendar (call.meaning [])
  := by
  have hfails := readListing_failsIff call.parameters
  obtain ⟨f, hmeaning, hnone, hsome⟩ : ∃ f : Option Listing.Query → Meaning,
      call.meaning [] = (readListing call.parameters).map f ∧ f none = .farRange
        ∧ ∀ query, f (some query) ≠ .farRange := by
    cases call
    cases hlist
    exact ⟨_, rfl, rfl, by simp⟩
  have hleaves : call.LeavesCalendar ↔ HoldsFar rangeInstants call.parameters
      ∧ ∀ issues, call.meaning [] ≠ .invalid issues := by
    simp only [LeavesCalendar, hlist]
  cases hread : readListing call.parameters with
  | outOfRange =>
    rw [hread] at hfails
    cases hfails
    contradiction
  | invalid issues =>
    rw [hread] at hfails hmeaning
    cases hfails with
    | invalid near nonempty =>
      rw [hleaves, hmeaning]
      exact .invalid (fun h => h.2 issues rfl) nonempty
  | valid query? =>
    have hfar := readListing_eq_none_iff hread
    rw [hread] at hmeaning
    rw [hleaves, hmeaning]
    cases query? with
    | none =>
      rw [Checked.map, hnone]
      exact .farRange ⟨hfar.mp rfl, by simp⟩
    | some query => exact .valid (by simp [← hfar]) (hsome query)

/-- The checks of a call that is not about files end, in one of these ways. -/
theorem ends_meaning (plain : ¬ call.endpoint.HandlesFiles) :
  Ends call.LeavesCalendar (call.meaning [])
  := by
  by_cases hlist : call.endpoint = .list
  · apply ends_of_list hlist
  · apply Ends.of_failsIff (meaning_failsIff plain hlist)
    intro h
    apply hlist (endpoint_of_farRange h)

end Call

/-- A call that is not about files is checked to an end, unless it leaves the calendar.  Where it
does not, either it is valid, and then all its instants lie in the years 1 to 9999, as instants do;
or it has an issue at least, and is refused for its issues, which changes nothing.  A call that
leaves the calendar has no reply, and changes nothing either. -/
theorem malformed_calls_are_refused (s : State) (c : Conditions) {call : Call}
    (plain : ¬ call.endpoint.HandlesFiles) :
  (¬ call.LeavesCalendar →
      (∃ m, m ≠ .farRange ∧ call.meaning [] = .valid m)
        ∨ ∃ issues, issues ≠ [] ∧ call.meaning [] = .invalid issues
          ∧ answer s c call = (.ofIssues issues, s))
    ∧ (call.LeavesCalendar → answer s c call = (.failed .outOfRange, s))
  := by
  have hparts : call.parts = .ok [] := by
    rw [Call.parts.eq_def]
    split
    · rename_i hupload
      rw [hupload] at plain
      exact absurd trivial plain
    · rfl
  have hends := Call.ends_meaning plain
  simp only [answer, hparts]
  generalize call.meaning [] = x at hends
  cases hends with
  | @valid near m inRange =>
    refine ⟨fun _ => ?_, fun reached => absurd reached near⟩
    left
    exact ⟨m, inRange, rfl⟩
  | @invalid near issues nonempty =>
    refine ⟨fun _ => ?_, fun reached => absurd reached near⟩
    right
    exact ⟨issues, nonempty, rfl, rfl⟩
  | outOfRange reached => exact ⟨fun near => absurd reached near, fun _ => rfl⟩
  | farRange reached => exact ⟨fun near => absurd reached near, fun _ => rfl⟩

end Api

/-- A body that is no record is refused for that, but there is no reply to one that names a moment
before year 1. -/
theorem Api.refuses_unless_far :
  answer Sample.state { now := Sample.hour 1 }
      { Sample.reserving "2025-11-30" with body := .arr [] }
      = (.ofIssues [⟨[.name "body"], .bodyNotRecord⟩], Sample.state)
    ∧ answer Sample.state { now := Sample.hour 1 } (Sample.reserving "0001-01-01T00:30:00+01:00")
      = (.failed .outOfRange, Sample.state)
  := by
  obtain ⟨hrefused, -⟩ := @malformed_calls_are_refused Sample.state { now := Sample.hour 1 }
    { Sample.reserving "2025-11-30" with body := .arr [] } id
  obtain ⟨-, hfails⟩ := @malformed_calls_are_refused Sample.state { now := Sample.hour 1 }
    (Sample.reserving "0001-01-01T00:30:00+01:00") id
  constructor
  · have hmeaning : { Sample.reserving "2025-11-30" with body := .arr [] }.meaning []
        = .invalid [⟨[.name "body"], .bodyNotRecord⟩] := rfl
    have hnear : ¬ { Sample.reserving "2025-11-30" with body := .arr [] }.LeavesCalendar := by
      rintro ⟨-, fields, hbody, -⟩
      cases hbody
    rcases hrefused hnear with ⟨m, -, hvalid⟩ | ⟨issues, -, hinvalid, hanswer⟩
    · rw [hmeaning] at hvalid
      cases hvalid
    · rw [hmeaning] at hinvalid
      cases hinvalid
      apply hanswer
  · obtain ⟨dawn, hdawn, hfar⟩ : ∃ w : Spelling, w.text = "0001-01-01T00:30:00+01:00"
        ∧ ¬ w.InCalendar := by
      refine ⟨
        { date := ⟨1, 1, 1⟩
          clock := some
            { separator := 'T'
              hour := 0
              minute := 30
              seconds := some { second := 0 }
              zone := .offset '+' 1 0 true (by decide) (by decide) (by decide) } },
        by decide, ?_⟩
      rintro ⟨h, -⟩
      exact absurd h (by decide +kernel)
    apply hfails
    exact ⟨rfl, _, rfl, "start_time_utc", by decide, _, rfl, dawn, by rw [hdawn], hfar⟩

end Workshop
