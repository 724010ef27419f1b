import BearerSession.Proofs.MutationReply
import Mathlib.Data.List.Forall2

namespace BearerSession

open GraphQL (MutationResult Problem)
open Json (Value Reader ReadError)
open Json.Node (ofValue)
open SortedMap (find?)

namespace Json

variable {α : Type}

/-- Whether reading a value ends in one way, wherever so many levels may be entered. -/
def Answers (read : Reader α) (v : Value) (result : Except ReadError α) : Prop :=
  ∀ origin : Origin, origin.Allows v.depth → read origin (ofValue v) = result

theorem Answers.unique {read : Reader α} {v : Value} {result result' : Except ReadError α}
    (h : Answers read v result) (h' : Answers read v result') : result = result' :=
  (h .memory trivial).symm.trans (h' .memory trivial)

theorem mapM_of_forall₂ {β : Type} {f : β → Option α} {bs : List β} {as : List α}
    (h : List.Forall₂ (fun b a => f b = some a) bs as) : bs.mapM f = some as := by
  induction h with
  | nil => rfl
  | cons hb _ ih =>
    rw [List.mapM_cons, hb, ih]
    rfl

/-- Whether two objects have the same in the fields of some names. -/
def AgreeOn (names : List String) (es fs : List (String × Value)) : Prop :=
  ∀ name ∈ names, find? name es = find? name fs

variable {names : List String} {es fs : List (String × Value)}

theorem mem_iff_find? (distinct : es.Pairwise fun a b => a.1 ≠ b.1) {name : String} {v : Value} :
    find? name es = some v ↔ (name, v) ∈ es := by
  refine ⟨SortedMap.find?_eq_some_mem, fun hmem => ?_⟩
  induction es with
  | nil => cases hmem
  | cons e es ih =>
    obtain ⟨hnew, hdistinct⟩ := List.pairwise_cons.mp distinct
    rcases List.mem_cons.mp hmem with rfl | hmem
    · exact if_pos rfl
    · have hne : name ≠ e.1 := (hnew _ hmem).symm
      rw [find?, if_neg hne]
      exact ih hdistinct hmem

/-- The order of the fields does not matter. -/
theorem AgreeOn.of_perm (distinct : es.Pairwise fun a b => a.1 ≠ b.1) (perm : es.Perm fs) :
    AgreeOn names es fs := by
  have hdistinct : fs.Pairwise fun a b => a.1 ≠ b.1 := perm.pairwise distinct Ne.symm
  intro name _
  ext v
  rw [mem_iff_find? distinct, mem_iff_find? hdistinct, perm.mem_iff]

end Json

namespace GraphQL.Problem

open Json (AgreeOn)

/-- The type names of the known kinds. -/
def knownNames : List String :=
  ["WrongCredentialsProblem", "InvalidRefreshTokenProblem", "EmailAlreadyUsedProblem",
    "InvalidInputProblem"]

/-- Which problem an object reports. One of a known kind has a message, and one of invalid input may
have a path. -/
inductive Reports : Value → Problem → Prop
  | wrongCredentials {es : List (String × Value)} {message : String} :
      find? "__typename" es = some (.string "WrongCredentialsProblem") →
      find? "message" es = some (.string message) →
      Reports (.object es) (.wrongCredentials message)
  | invalidRefreshToken {es : List (String × Value)} {message : String} :
      find? "__typename" es = some (.string "InvalidRefreshTokenProblem") →
      find? "message" es = some (.string message) →
      Reports (.object es) (.invalidRefreshToken message)
  | emailAlreadyUsed {es : List (String × Value)} {message : String} :
      find? "__typename" es = some (.string "EmailAlreadyUsedProblem") →
      find? "message" es = some (.string message) →
      Reports (.object es) (.emailAlreadyUsed message)
  | invalidInput {es : List (String × Value)} {message : String} :
      find? "__typename" es = some (.string "InvalidInputProblem") →
      find? "message" es = some (.string message) → find? "path" es = none →
      Reports (.object es) (.invalidInput message [])
  | invalidInputAt {es : List (String × Value)} {message : String} {path : List String} :
      find? "__typename" es = some (.string "InvalidInputProblem") →
      find? "message" es = some (.string message) →
      find? "path" es = some (.array (path.map .string)) →
      Reports (.object es) (.invalidInput message path)
  | unknown {es : List (String × Value)} {name : String} :
      find? "__typename" es = some (.string name) → name ∉ knownNames →
      Reports (.object es) .unknown

theorem texts_map (path : List String) : (path.map Value.string).mapM Value.text? = some path := by
  induction path with
  | nil => rfl
  | cons s path ih =>
    rw [List.map_cons, List.mapM_cons, ih]
    rfl

theorem Kind.ofName_other {name : String} (h : name ∉ knownNames) :
    Kind.ofName name = .unknown := by
  simp only [knownNames, List.mem_cons, List.not_mem_nil, or_false, not_or] at h
  simp [Kind.ofName, h]

theorem Reports.ofValue? {v : Value} {p : Problem} (h : Reports v p) : ofValue? v = some p := by
  have hobject (es : List (String × Value)) : Problem.ofValue? (.object es) =
      (find? "__typename" es).bind fun v => (Kind.ofValue? v).bind
        (ofContent? (find? "message" es) (find? "path" es)) := rfl
  cases h with
  | wrongCredentials htag hmessage => rw [hobject, htag, hmessage]; rfl
  | invalidRefreshToken htag hmessage => rw [hobject, htag, hmessage]; rfl
  | emailAlreadyUsed htag hmessage => rw [hobject, htag, hmessage]; rfl
  | invalidInput htag hmessage hpath => rw [hobject, htag, hmessage, hpath]; rfl
  | @invalidInputAt es message path htag hmessage hpath =>
    rw [hobject, htag, hmessage, hpath]
    show ((path.map Value.string).mapM Value.text?).map (Problem.invalidInput message) = _
    rw [texts_map]
    rfl
  | @unknown es name htag hname =>
    rw [hobject, htag]
    show ofContent? _ _ (Kind.ofName name) = _
    rw [Kind.ofName_other hname]
    rfl

/-- The fields that count in a problem of a kind, beside the one that tells the kind. -/
def Kind.contentNames : Kind → List String
  | .unknown => []
  | .invalidInput => ["message", "path"]
  | _ => ["message"]

/-- Whether two values differ as problems at most in fields that do not count. -/
inductive Alike : Value → Value → Prop
  | same (v : Value) : Alike v v
  | objects {es fs : List (String × Value)} : AgreeOn ["__typename"] es fs →
      (∀ v kind, find? "__typename" es = some v → Kind.ofValue? v = some kind →
        AgreeOn kind.contentNames es fs) → Alike (.object es) (.object fs)

theorem ofContent?_congr {kind : Kind} {es fs : List (String × Value)}
    (h : AgreeOn kind.contentNames es fs) :
    ofContent? (find? "message" es) (find? "path" es) kind =
      ofContent? (find? "message" fs) (find? "path" fs) kind := by
  cases kind with
  | unknown => rfl
  | invalidInput => rw [h "message" (by decide), h "path" (by decide)]
  | _ => simp only [ofContent?, h "message" (by decide)]

theorem Alike.ofValue?_eq {v w : Value} (h : Alike v w) : ofValue? v = ofValue? w := by
  cases h with
  | same => rfl
  | @objects es fs htag hcontent =>
    show (find? "__typename" es).bind _ = (find? "__typename" fs).bind _
    rw [← htag "__typename" (by decide)]
    cases hkind : find? "__typename" es with
    | none => rfl
    | some v =>
      show (Kind.ofValue? v).bind _ = (Kind.ofValue? v).bind _
      cases hread : Kind.ofValue? v with
      | none => rfl
      | some kind => exact ofContent?_congr (hcontent v kind hkind hread)

/-- Whether two values differ as lists of problems at most in fields that do not count. -/
inductive ListedAlike : Option Value → Option Value → Prop
  | same (v : Option Value) : ListedAlike v v
  | lists {vs ws : List Value} : List.Forall₂ Alike vs ws →
      ListedAlike (some (.array vs)) (some (.array ws))

theorem mapM_alike {vs ws : List Value} (h : List.Forall₂ Alike vs ws) :
    vs.mapM Problem.ofValue? = ws.mapM Problem.ofValue? := by
  induction h with
  | nil => rfl
  | cons hv _ ih => rw [List.mapM_cons, List.mapM_cons, hv.ofValue?_eq, ih]

end GraphQL.Problem

open Json (Answers AgreeOn)
open GraphQL.Problem (Reports ListedAlike)
open GraphQL.MutationResult (IsPayload)

/-- What reading a payload with some fields of its own as the result of a mutation comes to. -/
structure TellsOutcome {α : Type} (payload : Reader α)
    (fields? : List (String × Value) → Option α) (names : List String) : Prop where
  /-- Listed problems are a failure, whatever stands beside them. -/
  failure : ∀ {entries : List (String × Value)} {vs : List Value} {problems : List Problem},
    IsPayload entries → find? "problems" entries = some (.array vs) →
    List.Forall₂ Reports vs problems →
    Answers (MutationResult.read payload) (.object entries) (.ok (.failure problems))
  /-- Without a field for problems the payload is a success if it is complete. -/
  success : ∀ {entries : List (String × Value)} {a : α}, IsPayload entries →
    find? "problems" entries = none →
    (Answers (MutationResult.read payload) (.object entries) (.ok (.success a)) ↔
      fields? entries = some a)
  /-- Without a field for problems it is an error if it is not. -/
  error : ∀ {entries : List (String × Value)}, IsPayload entries →
    find? "problems" entries = none → fields? entries = none →
    Answers (MutationResult.read payload) (.object entries)
      (.error (.mismatch (.noVariant "MutationResult")))
  /-- The order of fields and further fields do not matter, neither in the payload nor in the
  problems that it lists. -/
  alike : ∀ {es fs : List (String × Value)} {result : Except ReadError (MutationResult α)},
    IsPayload es → IsPayload fs → AgreeOn names es fs →
    ListedAlike (find? "problems" es) (find? "problems" fs) →
    Answers (MutationResult.read payload) (.object es) result →
    Answers (MutationResult.read payload) (.object fs) result

namespace GraphQL.MutationResult

variable {α : Type} {payload : Reader α} {fields? : List (String × Value) → Option α}
  {names : List String}

theorem problems?_alike {es fs : List (String × Value)}
    (h : ListedAlike (find? "problems" es) (find? "problems" fs)) :
    problems? es = problems? fs := by
  unfold problems?
  generalize find? "problems" es = listed at *
  generalize find? "problems" fs = listed' at *
  cases h with
  | same => rfl
  | lists hlist => exact Problem.mapM_alike hlist

theorem ofFields?_listed {entries : List (String × Value)} {vs : List Value}
    {problems : List Problem} {a? : Option α} (listed : find? "problems" entries = some (.array vs))
    (reports : List.Forall₂ Reports vs problems) :
    ofFields? a? entries = some (.failure problems) := by
  have hproblems : problems? entries = some problems := by
    rw [problems?, listed]
    exact Json.mapM_of_forall₂ (reports.imp fun _ _ => Reports.ofValue?)
  rw [ofFields?, hproblems]

/-- A payload of which the fields are looked up is told from problems in this way. -/
theorem tellsOutcome
    (reads : ∀ {entries : List (String × Value)}, (entries.Pairwise fun a b => a.1 ≠ b.1) →
      (payload .buffered (ofValue (.object entries))).toOption = fields? entries)
    (congr : ∀ {es fs : List (String × Value)}, AgreeOn names es fs → fields? es = fields? fs) :
    TellsOutcome payload fields? names := by
  have hread {entries : List (String × Value)} (h : IsPayload entries) :
      Answers (read payload) (.object entries)
        ((ofFields? (fields? entries) entries).elim
          (.error (.mismatch (.noVariant "MutationResult"))) .ok) := by
    intro origin hallows
    rw [read_object payload h hallows, reads h.distinct]
  have hnone {entries : List (String × Value)} (h : find? "problems" entries = none) :
      problems? entries = none := by rw [problems?, h]; rfl
  constructor
  case failure =>
    intro entries vs problems h hlisted hreports
    simpa only [ofFields?_listed hlisted hreports, Option.elim_some] using hread h
  case success =>
    intro entries a h habsent
    have hresult := hread h
    simp only [ofFields?, hnone habsent] at hresult
    constructor
    · intro hsuccess
      cases hfields : fields? entries with
      | none => rw [hfields] at hresult; cases hresult.unique hsuccess
      | some b => rw [hfields] at hresult; cases hresult.unique hsuccess; rfl
    · intro hfields
      simpa only [hfields, Option.map_some, Option.elim_some] using hresult
  case error =>
    intro entries h habsent hfields
    simpa only [ofFields?, hnone habsent, hfields, Option.map_none, Option.elim_none] using hread h
  case alike =>
    intro es fs result hes hfs hagree hlisted hanswer
    have hresult := hread hfs
    rw [← congr hagree, ofFields?, ← problems?_alike hlisted] at hresult
    rwa [← (hread hes).unique hanswer]

end GraphQL.MutationResult

section Payloads

variable {names : List String} {es fs : List (String × Value)}

theorem AccessGrant.ofFields?_congr (h : AgreeOn ["accessToken", "tokenType"] es fs) :
    ofFields? es = ofFields? fs := by
  simp only [ofFields?, textField?, tokenType?, h "accessToken" (by decide),
    h "tokenType" (by decide)]

theorem TokenPair.ofFields?_congr (h : AgreeOn ["accessToken", "refreshToken", "tokenType"] es fs) :
    ofFields? es = ofFields? fs := by
  simp only [ofFields?, textField?, tokenType?, h "accessToken" (by decide),
    h "refreshToken" (by decide), h "tokenType" (by decide)]

end Payloads

/-- Problems in a payload are told from a success by their field alone, and each is told by its type
name. Of a success only its own fields count. -/
theorem payload_tells_outcome :
    TellsOutcome AccessGrant.read AccessGrant.ofFields? ["accessToken", "tokenType"] ∧
      TellsOutcome TokenPair.read TokenPair.ofFields?
        ["accessToken", "refreshToken", "tokenType"] :=
  ⟨MutationResult.tellsOutcome AccessGrant.read_object AccessGrant.ofFields?_congr,
    MutationResult.tellsOutcome TokenPair.read_object TokenPair.ofFields?_congr⟩

/-- A problem of a known kind with a further field, and one of an unknown kind. -/
def twoProblems : List Value :=
  [.object [("path", .array [.string "email"]), ("message", .string "malformed"), ("hint", .null),
      ("__typename", .string "InvalidInputProblem")],
    .object [("__typename", .string "RateLimitedProblem"), ("message", .null)]]

/-- A payload with problems beside both credentials. -/
def crowdedPayload : List (String × Value) :=
  [("refreshToken", .string "r"), ("problems", .array twoProblems), ("accessToken", .string "a")]

/-- The theorem where problems stand beside both credentials, and without them. -/
theorem payload_tells_outcome_of_crowded :
    Answers (MutationResult.read TokenPair.read) (.object crowdedPayload)
        (.ok (.failure [.invalidInput "malformed" ["email"], .unknown])) ∧
      Answers (MutationResult.read TokenPair.read) (.object crowdedPayload.reverse)
        (.ok (.failure [.invalidInput "malformed" ["email"], .unknown])) ∧
      Answers (MutationResult.read AccessGrant.read) (.object [("accessToken", .string "a")])
        (.ok (.success ⟨⟨"a"⟩, "Bearer"⟩)) ∧
      Answers (MutationResult.read TokenPair.read) (.object [("accessToken", .string "a")])
        (.error (.mismatch (.noVariant "MutationResult"))) := by
  obtain ⟨hgrant, hpair⟩ := payload_tells_outcome
  have hlisted : ∀ es, find? "problems" es = find? "problems" crowdedPayload →
      (es.Pairwise fun a b => a.1 ≠ b.1) → IsPayload es := by
    intro es hes distinct
    refine ⟨distinct, fun vs hvs => ?_⟩
    cases (hes.symm.trans hvs : find? "problems" crowdedPayload = some (.array vs))
    simp [twoProblems, Value.HasDistinctFields]
  have hcrowded : IsPayload crowdedPayload := hlisted _ rfl (by simp [crowdedPayload])
  have hreversed : IsPayload crowdedPayload.reverse := hlisted _ rfl (by simp [crowdedPayload])
  have halone : IsPayload [("accessToken", .string "a")] :=
    ⟨List.pairwise_singleton _ _, fun _ h => by cases h⟩
  have hreports : List.Forall₂ Reports twoProblems [.invalidInput "malformed" ["email"], .unknown] :=
    .cons (.invalidInputAt rfl rfl rfl) (.cons (.unknown rfl (by decide)) .nil)
  have hfailure := hpair.failure hcrowded rfl hreports
  refine ⟨hfailure, ?_, (hgrant.success halone rfl).mpr rfl, hpair.error halone rfl rfl⟩
  exact hpair.alike hcrowded hreversed
    (.of_perm hcrowded.distinct (List.reverse_perm _).symm) (.same _) hfailure

end BearerSession
