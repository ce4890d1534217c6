import Workshop.Text.Split

/-!
# Endpoints

An `Endpoint` is a place that calls go to.  It has a path, and `Endpoint.under` are the endpoints
under a path, of which each is reached by a method of its own.  Main statement: an endpoint is
reached under its path by its method.
-/

namespace Workshop.Api

/-- What is to be done with the thing that a path names. -/
inductive Method where
  | get
  | post
  | patch
  | delete
deriving DecidableEq, Repr, Inhabited

/-- A place that calls go to. -/
inductive Endpoint where
  | create
  | patch (eventId : String)
  | archive (eventId : String)
  | detail (eventId : String)
  | list
  | resources
  | comment (eventId : String)
  | upload (eventId : String)
  | download (eventId documentId : String)
  | health
deriving DecidableEq, Repr, Inhabited

/-- A path with the given names, as it is written. -/
def writtenPath (names : List String) : String :=
  String.ofList ('/' :: Text.join '/' (names.map String.toList))

/-- The names of a written path. -/
def pathNames (path : String) : List String :=
  ((Text.split '/' path.toList).drop 1).map String.ofList

/-- The names of a path without separators in them are found again. -/
theorem pathNames_writtenPath {names : List String} (hne : names ≠ [])
    (h : ∀ name ∈ names, '/' ∉ name.toList) :
  pathNames (writtenPath names) = names
  := by
  have hs : Text.split '/' ('/' :: Text.join '/' (names.map String.toList))
      = [] :: names.map String.toList := by
    rw [← List.nil_append ('/' :: _), Text.split_append_cons (by simp), Text.split_join]
    · simpa using hne
    · simpa using h
  simp [pathNames, writtenPath, hs, Function.comp_def]

namespace Endpoint

/-- The ids that stand in the path. -/
def ids : Endpoint → List String
  | patch e => [e]
  | archive e => [e]
  | detail e => [e]
  | comment e => [e]
  | upload e => [e]
  | download e d => [e, d]
  | _ => []

/-- The method that reaches the endpoint. -/
def method : Endpoint → Method
  | create => .post
  | patch _ => .patch
  | archive _ => .delete
  | comment _ => .post
  | upload _ => .post
  | _ => .get

/-- The names of the path to the events, followed by others. -/
def events (names : List String) : List String :=
  "api" :: "planning" :: "events" :: names

/-- The names of the path to the endpoint. -/
def names : Endpoint → List String
  | create => events []
  | list => events []
  | patch e => events [e]
  | archive e => events [e]
  | detail e => events [e]
  | comment e => events [e, "comments"]
  | upload e => events [e, "documents"]
  | download e d => events [e, "documents", d, "file"]
  | resources => ["api", "planning", "resources"]
  | health => ["api", "health"]

/-- The path to the endpoint. -/
def path (endpoint : Endpoint) : String :=
  writtenPath endpoint.names

/-- Whether the last name of a path is the one that is looked for.  A line end may follow it. -/
def isLast (name expected : String) : Bool :=
  name == expected || name == expected ++ "\n"

/-- The endpoints under the path to the events, followed by the given names. -/
def underEvents : List String → List Endpoint
  | [e] => if e = "" then [] else [detail e, patch e, archive e]
  | [e, last] =>
    if e = "" then []
    else if isLast last "comments" then [comment e]
    else if isLast last "documents" then [upload e]
    else []
  | [e, "documents", d, last] =>
    if e ≠ "" ∧ d ≠ "" ∧ isLast last "file" then [download e d] else []
  | _ => []

/-- The endpoints under the path with the given names. -/
def under : List String → List Endpoint
  | ["api", last] => if isLast last "health" then [health] else []
  | ["api", "planning", last] =>
    if isLast last "resources" then [resources]
    else if isLast last "events" then [list, create]
    else []
  | "api" :: "planning" :: "events" :: names => underEvents names
  | _ => []

/-- The endpoint under a path that a method reaches. -/
def reach? (names : List String) (method : Method) : Option Endpoint :=
  (under names).find? fun e => e.method = method

/-- An endpoint is reached under its path by its method if the ids are not empty. -/
theorem reach?_names {endpoint : Endpoint} (h : "" ∉ endpoint.ids) :
  reach? endpoint.names endpoint.method = some endpoint
  := by
  cases endpoint with
  | create => decide
  | list => decide
  | resources => decide
  | health => decide
  | _ => simp_all [ids, names, events, reach?, under, underEvents, isLast, method, eq_comm]

/-- Nothing under a path to the events has an empty id. -/
theorem empty_not_mem_ids_of_underEvents (names : List String) :
  ∀ endpoint ∈ underEvents names, "" ∉ endpoint.ids
  := by
  fun_cases underEvents names with
  | case2 e he => simp [ids, Ne.symm he]
  | case4 e last he => simp [ids, Ne.symm he]
  | case5 e last he => simp [ids, Ne.symm he]
  | case7 e d last h => simp [ids, h.1.symm, h.2.1.symm]
  | _ => simp

/-- Nothing under a path has an empty id. -/
theorem empty_not_mem_ids_of_under (names : List String) :
  ∀ endpoint ∈ under names, "" ∉ endpoint.ids
  := by
  fun_cases under names with
  | case6 names => apply empty_not_mem_ids_of_underEvents
  | _ => simp [ids]

/-- What a method reaches has no empty id. -/
theorem empty_not_mem_ids {names : List String} {method : Method} {endpoint : Endpoint}
    (h : reach? names method = some endpoint) :
  "" ∉ endpoint.ids
  := by
  apply empty_not_mem_ids_of_under names
  apply List.mem_of_find?_eq_some h

/-- Where a method reaches something, there is something. -/
theorem under_ne_nil {names : List String} {method : Method} {endpoint : Endpoint}
    (h : reach? names method = some endpoint) :
  under names ≠ []
  := by
  intro hu
  simp [reach?, hu] at h

/-- Names of paths that are sent and arrive as they are. -/
def IsPlain (name : String) : Prop :=
  name ≠ "." ∧ name ≠ ".." ∧ '/' ∉ name.toList

instance (name : String) : Decidable (IsPlain name) :=
  inferInstanceAs (Decidable (_ ∧ _ ∧ _))

/-- The names of a path are plain if the ids in it are. -/
theorem isPlain_of_mem_names {endpoint : Endpoint} (h : ∀ id ∈ endpoint.ids, IsPlain id)
    {name : String} (hn : name ∈ endpoint.names) :
  IsPlain name
  := by
  have hc : ∀ name ∈ ["api", "planning", "events", "comments", "documents", "file", "resources",
      "health"], IsPlain name := by decide
  by_cases hi : name ∈ endpoint.ids
  · exact h name hi
  · apply hc
    cases endpoint <;> simp_all [names, events, ids] <;> grind

end Endpoint

end Workshop.Api
