import BearerSession.GraphQL.Mutation
import BearerSession.Proofs.RecordLookup

namespace BearerSession

namespace Json

open Node (ofValue itemsOfValues membersOfFields)

namespace Value

/-- The text that a value is. -/
def text? : Value → Option String
  | .string s => some s
  | _ => none

/-- The list that a value is, if all its items are of one kind. -/
def list? {α : Type} (one : Value → Option α) : Value → Option (List α)
  | .array vs => vs.mapM one
  | _ => none

/-- Whether a value that is an object has each of its fields once. -/
def HasDistinctFields : Value → Prop
  | .object entries => entries.Pairwise fun a b => a.1 ≠ b.1
  | _ => True

theorem IsOrdered.hasDistinctFields {v : Value} (ordered : v.IsOrdered) : v.HasDistinctFields := by
  cases v with
  | object entries => exact SortedMap.distinct_of_ascending ordered.1
  | _ => trivial

end Value

theorem readString_ofValue (origin : Origin) (v : Value) :
    (readString origin (ofValue v)).toOption = v.text? := by
  cases v <;> rfl

section Lists

variable {α : Type} {read : Reader α} {one : Value → Option α} {origin : Origin}

theorem readItems_ofValues {vs : List Value}
    (h : ∀ v ∈ vs, (read origin (ofValue v)).toOption = one v) :
    (readItems read origin (itemsOfValues vs)).toOption = vs.mapM one := by
  induction vs with
  | nil => rfl
  | cons v vs ih =>
    have hrest := ih fun v hv => h v (List.mem_cons_of_mem _ hv)
    rw [itemsOfValues, readItems, toOption_bind, h v List.mem_cons_self, List.mapM_cons, ← hrest]
    cases one v with
    | none => rfl
    | some a => exact toOption_bind _ _

theorem readList_ofValue (memory : origin.enter = .ok origin) {v : Value}
    (h : ∀ vs, v = .array vs → ∀ v ∈ vs, (read origin (ofValue v)).toOption = one v) :
    (readList read origin (ofValue v)).toOption = v.list? one := by
  cases v with
  | array vs =>
    rw [ofValue, readList, memory]
    exact readItems_ofValues (h vs rfl)
  | _ => rfl

end Lists

end Json

namespace GraphQL

open Json (Value Reader ReadError Origin Node readRecord_eq_lookUps toOption_bind)
open Json.Node (ofValue itemsOfValues membersOfFields)
open SortedMap (find?)

namespace Problem

variable {entries : List (String × Value)}

/-- The kind that a value stands for: its name, or its position in the list of kinds. -/
def Kind.ofValue? : Value → Option Kind
  | .string s => some (.ofName s)
  | .number (.whole n) => if 0 ≤ n.val then some (.ofIndex n.val.toNat) else none
  | _ => none

/-- The problem of a kind with some content. A problem of a known kind has a message, and one of
invalid input may have a path. -/
def ofContent? (message path : Option Value) : Kind → Option Problem
  | .wrongCredentials => (message.bind Value.text?).map .wrongCredentials
  | .invalidRefreshToken => (message.bind Value.text?).map .invalidRefreshToken
  | .emailAlreadyUsed => (message.bind Value.text?).map .emailAlreadyUsed
  | .invalidInput => (message.bind Value.text?).bind fun message =>
    (path.elim (some []) (Value.list? Value.text?)).map (.invalidInput message)
  | .unknown => some .unknown

/-- The problem of a kind whose content is listed. -/
def ofItems? : Kind → List Value → Option Problem
  | .unknown, [] => some .unknown
  | .unknown, _ => none
  | .invalidInput, [message, path] => ofContent? (some message) (some path) .invalidInput
  | kind, [message] => ofContent? (some message) none kind
  | _, _ => none

/-- The problem that a value is: an object that names its kind, or an array with the kind in
front. -/
def ofValue? : Value → Option Problem
  | .object entries => do
    let kind ← Kind.ofValue? (← find? tag entries)
    ofContent? (find? "message" entries) (find? "path" entries) kind
  | .array (v :: vs) => do ofItems? (← Kind.ofValue? v) vs
  | _ => none

theorem Kind.read_ofValue (v : Value) :
    (Kind.read .buffered (ofValue v)).toOption = Kind.ofValue? v := by
  cases v with
  | number n =>
    cases n with
    | whole n =>
      show (if 0 ≤ n.val then _ else _ : Except ReadError Kind).toOption =
        if 0 ≤ n.val then _ else _
      split <;> rfl
    | binary x => rfl
  | _ => rfl

theorem messageField_apart_pathField : messageField.Apart pathField :=
  Json.Field.of_apart (by decide) (fun _ _ _ => rfl) (fun _ _ => rfl) fun _ _ => rfl

theorem messageField_read? (v : Value) (draft : Draft) :
    messageField.read? .buffered v draft =
      v.text?.map fun s => { draft with message := some s } := by
  rw [messageField, Json.Field.of_read?, Json.readString_ofValue]

theorem readTexts_ofValue (v : Value) :
    (Json.readList Json.readString .buffered (ofValue v)).toOption = v.list? Value.text? :=
  Json.readList_ofValue rfl fun _ _ v _ => Json.readString_ofValue .buffered v

theorem pathField_read? (v : Value) (draft : Draft) :
    pathField.read? .buffered v draft =
      (v.list? Value.text?).map fun path => { draft with path := some path } := by
  rw [pathField, Json.Field.of_read?, readTexts_ofValue]

theorem messageField_lookUp (draft : Draft) :
    messageField.lookUp .buffered entries draft =
      (find? "message" entries).elim (some draft) fun v =>
        v.text?.map fun s => { draft with message := some s } := by
  simp only [messageField, Json.Field.of_lookUp, Json.readString_ofValue]

theorem pathField_lookUp (draft : Draft) :
    pathField.lookUp .buffered entries draft =
      (find? "path" entries).elim (some draft) fun v =>
        (v.list? Value.text?).map fun path => { draft with path := some path } := by
  simp only [pathField, Json.Field.of_lookUp, readTexts_ofValue]

/-- The content of a kind that has a message and nothing else. -/
theorem readContent_message (distinct : entries.Pairwise fun a b => a.1 ≠ b.1) (name : String)
    (make : String → Problem) :
    (readContent name [messageField] (fun m _ => make m) .buffered
        (ofValue (.object entries))).toOption =
      ((find? "message" entries).bind Value.text?).map make := by
  rw [readContent, readRecord_eq_lookUps rfl (List.pairwise_singleton _ _) distinct (by decide),
    Json.Field.lookUps, messageField_lookUp]
  cases find? "message" entries with
  | none => rfl
  | some v =>
    cases h : v.text? with
    | none => simp [h]
    | some s => simp [h]; rfl

theorem readContent_path (distinct : entries.Pairwise fun a b => a.1 ≠ b.1) :
    (readContent "InvalidInput" [messageField, pathField] .invalidInput .buffered
        (ofValue (.object entries))).toOption =
      ofContent? (find? "message" entries) (find? "path" entries) .invalidInput := by
  have hapart : [messageField, pathField].Pairwise Json.Field.Apart := by
    simpa using messageField_apart_pathField
  rw [readContent, readRecord_eq_lookUps rfl hapart distinct (by decide), Json.Field.lookUps,
    messageField_lookUp]
  have hpath (message : Option String) :
      (Json.Field.lookUps .buffered entries [pathField] ⟨message, none⟩).bind
        (fun draft => (draft.finish .invalidInput).toOption) =
      message.bind fun s =>
        ((find? "path" entries).elim (some []) (Value.list? Value.text?)).map
          (.invalidInput s) := by
    rw [Json.Field.lookUps, pathField_lookUp]
    cases find? "path" entries with
    | none => cases message <;> rfl
    | some v =>
      simp only [Option.elim_some]
      cases v.list? Value.text? <;> cases message <;> rfl
  cases hm : find? "message" entries with
  | none => exact hpath none
  | some v =>
    cases h : v.text? with
    | none => simp [ofContent?, h]
    | some s => simpa [ofContent?, h] using hpath (some s)

theorem ofKind_object (distinct : entries.Pairwise fun a b => a.1 ≠ b.1) (kind : Kind) :
    (ofKind kind (ofValue (.object entries))).toOption =
      ofContent? (find? "message" entries) (find? "path" entries) kind := by
  cases kind with
  | unknown => rfl
  | invalidInput => exact readContent_path distinct
  | _ => exact readContent_message distinct _ _

theorem readContent_item (name : String) (make : String → Problem) (vs : List Value) :
    (readContent name [messageField] (fun m _ => make m) .buffered (ofValue (.array vs))).toOption =
      match vs with
      | [v] => v.text?.map make
      | _ => none := by
  rw [readContent, Json.readRecord_eq_readInOrder rfl]
  match vs with
  | [] => rfl
  | [v] =>
    rw [Json.Field.readInOrder, messageField_read?]
    dsimp only
    cases v.text? <;> rfl
  | v :: _ :: _ =>
    rw [Json.Field.readInOrder, messageField_read?]
    cases v.text? <;> rfl

theorem ofKind_array (kind : Kind) (vs : List Value) :
    (ofKind kind (ofValue (.array vs))).toOption = ofItems? kind vs := by
  cases kind with
  | unknown => cases vs <;> rfl
  | invalidInput =>
    rw [ofKind, readContent, Json.readRecord_eq_readInOrder rfl]
    rcases vs with _ | ⟨v, _ | ⟨w, _ | ⟨_, _⟩⟩⟩
    · rfl
    · show _ = v.text?.bind fun message => some (Problem.invalidInput message [])
      rw [Json.Field.readInOrder, messageField_read?]
      cases v.text? <;> rfl
    · show _ = v.text?.bind fun message =>
        (w.list? Value.text?).map (Problem.invalidInput message)
      simp only [Json.Field.readInOrder, messageField_read?, pathField_read?]
      cases v.text? <;> cases w.list? Value.text? <;> rfl
    · simp only [Json.Field.readInOrder, messageField_read?, pathField_read?]
      cases v.text? <;> cases w.list? Value.text? <;> rfl
  | _ =>
    refine (readContent_item _ _ vs).trans ?_
    rcases vs with _ | ⟨v, _ | ⟨_, _⟩⟩ <;> rfl

theorem readTagged_untagged (origin : Origin) (kind : Option Kind)
    (untagged : ∀ e ∈ entries, e.1 ≠ tag) (memory : origin.enter = .ok origin) :
    readTagged origin kind (membersOfFields entries) = .ok (kind, membersOfFields entries) := by
  induction entries with
  | nil => rfl
  | cons e entries ih =>
    obtain ⟨name, v⟩ := e
    have hname : name ≠ tag := untagged _ List.mem_cons_self
    have hrest := ih fun e he => untagged e (List.mem_cons_of_mem _ he)
    rw [membersOfFields, readTagged]
    simp only [Json.sound, bind, Except.bind, if_neg hname, Json.check_ofValue memory, hrest]
    rfl

/-- The kind of a problem is looked up, and taken out of the other fields. -/
theorem readTagged_ofFields (distinct : entries.Pairwise fun a b => a.1 ≠ b.1) :
    (readTagged .buffered none (membersOfFields entries)).toOption =
      match find? tag entries with
      | some v => (Kind.ofValue? v).map fun kind =>
        (some kind, membersOfFields (entries.filter fun e => e.1 ≠ tag))
      | none => some (none, membersOfFields entries) := by
  induction entries with
  | nil => rfl
  | cons e entries ih =>
    obtain ⟨name, v⟩ := e
    obtain ⟨hnew, hdistinct⟩ := List.pairwise_cons.mp distinct
    rw [membersOfFields, readTagged]
    simp only [Json.sound, bind, Except.bind]
    by_cases hname : name = tag
    · subst hname
      have huntagged : ∀ e ∈ entries, e.1 ≠ tag := fun e he => (hnew e he).symm
      have hrest (kind : Kind) := readTagged_untagged .buffered (some kind) huntagged rfl
      have hfilter : ((tag, v) :: entries).filter (fun e => e.1 ≠ tag) = entries := by
        simpa using huntagged
      have hlook : find? tag ((tag, v) :: entries) = some v := if_pos rfl
      rw [hfilter, hlook]
      dsimp only
      rw [if_pos rfl, ← Kind.read_ofValue]
      cases Kind.read .buffered (ofValue v) with
      | error e => rfl
      | ok kind => exact congrArg Except.toOption (hrest kind)
    · have hfilter : ((name, v) :: entries).filter (fun e => e.1 ≠ tag) =
          (name, v) :: entries.filter fun e => e.1 ≠ tag := by simp [hname]
      have hlook : find? tag ((name, v) :: entries) = find? tag entries := by
        simp [find?, Ne.symm hname]
      let wrap (r : Option Kind × Json.Members) : Option Kind × Json.Members :=
        (r.1, .member (.ok name) (ofValue v) r.2)
      rw [hlook, hfilter, if_neg hname, Json.check_ofValue rfl]
      calc _ = (readTagged .buffered none (membersOfFields entries)).toOption.map wrap := by
            cases readTagged .buffered none (membersOfFields entries) <;> rfl
        _ = _ := by
            rw [ih hdistinct]
            cases find? tag entries with
            | none => rfl
            | some w =>
              dsimp only
              cases Kind.ofValue? w <;> rfl

theorem read_ofValue {v : Value} (distinct : v.HasDistinctFields) :
    (read .buffered (ofValue v)).toOption = ofValue? v := by
  cases v with
  | object entries =>
    have hothers : (entries.filter fun e => e.1 ≠ tag).Pairwise fun a b => a.1 ≠ b.1 :=
      distinct.filter _
    have hlook {name : String} (h : name ≠ tag) :
        find? name (entries.filter fun e => e.1 ≠ tag) = find? name entries :=
      SortedMap.find?_filter_key (fun name => decide (name ≠ tag)) (decide_eq_true h) entries
    have htagged := readTagged_ofFields distinct
    show (readTagged .buffered none (membersOfFields entries) >>= fun tagged =>
        Json.required tag tagged.1 >>= fun kind => ofKind kind (.object tagged.2)).toOption =
      (find? tag entries).bind fun v => (Kind.ofValue? v).bind
        (ofContent? (find? "message" entries) (find? "path" entries))
    rw [toOption_bind, htagged]
    cases find? tag entries with
    | none => rfl
    | some v =>
      simp only [Option.bind_some]
      cases Kind.ofValue? v with
      | none => rfl
      | some kind =>
        show (ofKind kind (ofValue (.object (entries.filter fun e => e.1 ≠ tag)))).toOption =
          ofContent? (find? "message" entries) (find? "path" entries) kind
        rw [ofKind_object hothers, hlook (by decide), hlook (by decide)]
  | array vs =>
    cases vs with
    | nil => rfl
    | cons v vs =>
      have hitems : checkItems .buffered (itemsOfValues vs) = .ok () := by
        have hallows := Origin.allows_of_enter_self (rfl : Origin.enter .buffered = .ok .buffered)
        rw [checkItems, Json.readValues_ofValues vs (hallows _)]
        rfl
      show (Kind.read .buffered (ofValue v) >>= fun kind =>
        checkItems .buffered (itemsOfValues vs) >>= fun _ =>
          ofKind kind (ofValue (.array vs))).toOption =
        (Kind.ofValue? v).bind fun kind => ofItems? kind vs
      rw [toOption_bind, Kind.read_ofValue, hitems]
      exact congrArg _ (funext fun kind => ofKind_array kind vs)
  | _ => rfl

end Problem

namespace MutationResult

variable {α : Type} {entries : List (String × Value)}

/-- The problems that an object lists, if its field of that name is a list of problems. -/
def problems? (entries : List (String × Value)) : Option (List Problem) :=
  (find? "problems" entries).bind (Value.list? Problem.ofValue?)

/-- Whether an object has each of its fields once, and so has every object that it lists as a
problem. -/
structure IsPayload (entries : List (String × Value)) : Prop where
  distinct : entries.Pairwise fun a b => a.1 ≠ b.1
  listed : ∀ vs, find? "problems" entries = some (.array vs) → ∀ v ∈ vs, v.HasDistinctFields

theorem IsPayload.of_isOrdered (ordered : (Value.object entries).IsOrdered) :
    IsPayload entries := by
  refine ⟨SortedMap.distinct_of_ascending ordered.1, fun vs hvs v hv => ?_⟩
  have hlist : (Value.array vs).IsOrdered :=
    Value.areOrderedFields_iff.mp ordered.2 _ (SortedMap.find?_eq_some_mem hvs)
  exact (Value.areOrdered_iff.mp hlist v hv).hasDistinctFields

theorem readProblems_object (h : IsPayload entries) :
    (readProblems (ofValue (.object entries))).toOption = problems? entries := by
  show (Json.readMembers fields .buffered {} (membersOfFields entries) >>=
    Draft.finish).toOption = _
  have hapart : fields.Pairwise Json.Field.Apart := List.pairwise_singleton _ _
  have hunset : ∀ f ∈ fields, f.isSet {} = false := by decide
  rw [toOption_bind, Json.readMembers_eq_lookUps hapart h.distinct hunset]
  show ((match find? "problems" entries with
      | some v => _
      | none => some ({} : Draft)).bind some).bind (fun d => d.finish.toOption) = _
  unfold problems?
  cases hproblems : find? "problems" entries with
  | none => rfl
  | some v =>
    have hitems : ∀ vs, v = .array vs → ∀ w ∈ vs,
        (Problem.read .buffered (ofValue w)).toOption = Problem.ofValue? w := by
      rintro vs rfl w hw
      exact Problem.read_ofValue (h.listed vs hproblems w hw)
    dsimp only
    rw [Json.Field.of_read?, Json.readList_ofValue rfl hitems, Option.bind_some]
    cases v.list? Problem.ofValue? <;> rfl

/-- What an object is: a failure if it lists problems, and otherwise the payload that it is, if
any. -/
def ofFields? (payload : Option α) (entries : List (String × Value)) : Option (MutationResult α) :=
  match problems? entries with
  | some problems => some (.failure problems)
  | none => payload.map .success

/-- The result that an object is read as, wherever it comes from. -/
theorem read_object (payload : Reader α) {origin : Origin} (h : IsPayload entries)
    (allows : origin.Allows (Value.object entries).depth) :
    read payload origin (ofValue (.object entries)) =
      (ofFields? (payload .buffered (ofValue (.object entries))).toOption entries).elim
        (.error (.mismatch (.noVariant "MutationResult"))) .ok := by
  have hcheck : Json.check origin (ofValue (.object entries)) = .ok () := by
    rw [Json.check, Json.readValue_ofValue _ allows]
    rfl
  unfold read ofFields?
  rw [← readProblems_object h, hcheck]
  simp only [bind, Except.bind]
  cases readProblems (ofValue (.object entries)) with
  | ok problems => rfl
  | error e => cases payload .buffered (ofValue (.object entries)) <;> rfl

theorem read_object_toOption (payload : Reader α) (h : IsPayload entries) :
    (read payload .memory (ofValue (.object entries))).toOption =
      ofFields? (payload .buffered (ofValue (.object entries))).toOption entries := by
  have hallows : Origin.memory.Allows (Value.object entries).depth := trivial
  rw [read_object payload h hallows]
  cases ofFields? (payload .buffered (ofValue (.object entries))).toOption entries <;> rfl

end MutationResult

end GraphQL

end BearerSession
