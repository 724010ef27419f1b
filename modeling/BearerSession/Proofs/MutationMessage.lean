import BearerSession.Proofs.EntryText
import BearerSession.Proofs.HeaderPrecedence
import Mathlib.Data.List.Basic

namespace BearerSession

open GraphQL (Outgoing Request)
open Json (Document Value readText readValue depthLimit)
open Json.Node (ofValue)

/-- The fields of a body. Variables that are null are there, and absent ones are not. -/
def bodyFields (query : String) : Option Value → List (String × Value)
  | none => [("query", .string query)]
  | some v => [("query", .string query), ("variables", v)]

/-- A body is a document with these fields and no others, each once. Who reads it as a value finds
the same, with the fields of all objects in order. -/
structure Conveys (body query : String) (given : Option Value) : Prop where
  document : Document.parse (body.toList.map some) =
    ⟨ofValue (.object (bodyFields query given)), false⟩
  value : readText readValue (body.toList.map some) =
    .ok (.object (bodyFields query (given.map Value.sorted)))

section Bodies

variable {query : String} {given : Option Value}

theorem bodyFields_ascending :
    (bodyFields query given).Pairwise (fun a b => a.1 < b.1) := by
  have hnames : "query" < "variables" := by decide
  cases given with
  | none => exact List.pairwise_singleton _ _
  | some v => exact List.pairwise_pair.mpr hnames

theorem bodyFields_sorted :
    (Value.object (bodyFields query given)).sorted =
      .object (bodyFields query (given.map Value.sorted)) := by
  have hfields : Value.sortedFields (bodyFields query given) =
      bodyFields query (given.map Value.sorted) := by
    cases given <;> rfl
  rw [Value.sorted, hfields]
  exact congrArg (fun m : SortedMap Value => Value.object m.entries)
    (SortedMap.ofList_entries ⟨_, bodyFields_ascending⟩)

theorem GraphQL.Request.body_eq (r : Request) :
    r.body = .object (bodyFields r.query r.variableValues) := by
  unfold GraphQL.Request.body
  cases r.variableValues <;> rfl

theorem conveys_text (exact : ∀ v, given = some v → v.IsExact)
    (depth : (Value.object (bodyFields query given)).depth ≤ depthLimit) :
    Conveys (Value.object (bodyFields query given)).text query given := by
  have hexact : (Value.object (bodyFields query given)).IsExact := by
    cases given with
    | none => exact ⟨trivial, trivial⟩
    | some v => exact ⟨trivial, exact v rfl, trivial⟩
  constructor
  · unfold Value.text
    rw [String.toList_ofList, Json.parse_compact _ hexact]
  · rw [readText_of_exact readValue _ hexact, ← bodyFields_sorted]
    exact Json.readValue_ofValue _ depth

theorem Conveys.value_of_isOrdered {body : String} (h : Conveys body query given)
    (ordered : ∀ v, given = some v → v.IsOrdered) :
    readText readValue (body.toList.map some) = .ok (.object (bodyFields query given)) := by
  have hsame : given.map Value.sorted = given := by
    cases given with
    | none => rfl
    | some v => exact congrArg some (Json.Value.sorted_of_isOrdered v (ordered v rfl))
  rw [h.value, hsame]

theorem conveys_outgoing (r : Request) (exact : ∀ v, r.variableValues = some v → v.IsExact)
    (depth : r.body.depth ≤ depthLimit) : Conveys r.outgoing.body r.query r.variableValues := by
  unfold GraphQL.Request.outgoing
  rw [GraphQL.Request.body_eq] at *
  exact conveys_text exact depth

/-- A request whose variables are strings conveys them, whatever stands in these. -/
theorem conveys_strings (query : String) (fields : List (String × String)) :
    let v := Value.object (fields.map fun f => (f.1, .string f.2))
    Conveys (Request.outgoing ⟨query, some v, .empty⟩).body query (some v) := by
  intro v
  have hexact : v.IsExact := by
    change Value.AreExactFields (fields.map fun f => (f.1, .string f.2))
    induction fields with
    | nil => trivial
    | cons f fields ih => exact ⟨trivial, ih⟩
  have hvalue : v.depth ≤ 1 := by
    refine Json.Value.depth_object_le fun e he => ?_
    obtain ⟨f, -, rfl⟩ := List.mem_map.mp he
    exact Nat.le_refl 0
  have hbody : (Value.object (bodyFields query (some v))).depth ≤ 2 := by
    refine Json.Value.depth_object_le fun e he => ?_
    rcases List.mem_pair.mp he with rfl | rfl
    · exact Nat.zero_le 1
    · exact hvalue
  refine conveys_outgoing _ (fun v' hv => ?_) (Nat.le_trans hbody (by decide))
  cases hv
  exact hexact

end Bodies

/-- A message that asks for a mutation with some variables and nothing else. It has the headers of
every request, none of which is a credential. -/
structure IsMutation (message : Outgoing) (document : String) (given : Value) : Prop where
  method : message.method = "POST"
  headers : message.headers.entries = [("Content-Type", "application/json")]
  body : Conveys message.body document (some given)

/-- The mutation that exchanges a refresh credential. -/
def IsExchange (message : Outgoing) (token : Secret) : Prop :=
  IsMutation message refreshMutation (.object [("token", .string token.expose)])

/-- The mutation that exchanges an email address and a password. -/
def IsLogin (message : Outgoing) (email : String) (password : Secret) : Prop :=
  IsMutation message loginMutation
    (.object [("email", .string email), ("password", .string password.expose)])

theorem IsMutation.bare {message : Outgoing} {document : String} {given : Value}
    (h : IsMutation message document given) : message.headers.named authorization = [] := by
  unfold Headers.named
  rw [SortedMap.toList, h.headers]
  decide

theorem outgoing_headers {r : Request} (bare : r.headers = .empty) :
    r.outgoing.headers = GraphQL.defaultHeaders := by
  have hheaders : r.outgoing.headers = GraphQL.defaultHeaders.overlay r.headers := rfl
  rw [hheaders, bare, Headers.overlay_empty]

theorem isMutation_outgoing (document : String) (fields : List (String × String)) :
    let given := Value.object (fields.map fun f => (f.1, .string f.2))
    IsMutation (Request.outgoing ⟨document, some given, .empty⟩) document given := by
  refine ⟨rfl, ?_, conveys_strings document fields⟩
  rw [outgoing_headers rfl]
  rfl

theorem isExchange_outgoing (token : Secret) : IsExchange (refreshRequest token).outgoing token :=
  isMutation_outgoing refreshMutation [("token", token.expose)]

theorem isLogin_outgoing (email : String) (password : Secret) :
    IsLogin (loginRequest email password).outgoing email password :=
  isMutation_outgoing loginMutation [("email", email), ("password", password.expose)]

end BearerSession
