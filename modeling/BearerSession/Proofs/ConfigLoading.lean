import BearerSession.Config
import BearerSession.Proofs.RecordLookup
import BearerSession.Proofs.TimeToLive

namespace BearerSession

namespace Settings

/-- What a key of a configuration file must lead to. -/
inductive Kind
  | text
  | truth
  | whole
  | count
  deriving DecidableEq

def Kind.Admits : Kind → Toml.Item → Prop
  | .text, item => ∃ s, item = .value (.text s)
  | .truth, item => ∃ b, item = .value (.truth b)
  | .whole, item => ∃ n, item = .value (.whole n)
  | .count, item => ∃ n : Nat, item = .value (.whole n)

/-- The keys of all settings. -/
def known : List (String × Kind) :=
  [("endpoint", .text), ("jar_path", .text), ("prefer_keyring", .truth),
    ("request_timeout_secs", .count), ("credential_ttl_days", .whole),
    ("single_flight_refresh", .truth), ("log_level", .text), ("access_key", .text),
    ("refresh_key", .text)]

/-- Every known key that is present has a value of its type. -/
def WellTyped (t : Toml.Table) : Prop :=
  ∀ key kind, (key, kind) ∈ known → ∀ item, t.find? key = some item → kind.Admits item

/-- A document and a default give a setting: the value at the key if the key is present, else the
default. -/
def Gives {α : Type} (t : Toml.Table) (key : String) (value : α → Toml.Value) (default a : α) :
    Prop :=
  match t.find? key with
  | none => a = default
  | some item => item = .value (value a)

/-- The settings that a document gives over defaults. -/
structure Over (defaults : Settings) (t : Toml.Table) (s : Settings) : Prop where
  endpoint : Gives t "endpoint" .text defaults.endpoint s.endpoint
  jarPath : Gives t "jar_path" .text defaults.jarPath s.jarPath
  preferKeyring : Gives t "prefer_keyring" .truth defaults.preferKeyring s.preferKeyring
  requestTimeoutSecs : Gives t "request_timeout_secs" (fun n : Nat => .whole n)
    defaults.requestTimeoutSecs s.requestTimeoutSecs
  credentialTtlDays : Gives t "credential_ttl_days" .whole defaults.credentialTtlDays
    s.credentialTtlDays
  singleFlightRefresh : Gives t "single_flight_refresh" .truth defaults.singleFlightRefresh
    s.singleFlightRefresh
  logLevel : Gives t "log_level" .text defaults.logLevel s.logLevel
  accessKey : Gives t "access_key" .text defaults.accessKey s.accessKey
  refreshKey : Gives t "refresh_key" .text defaults.refreshKey s.refreshKey

section Fields

variable {α : Type} {t t' : Toml.Table} {key : String} {read : Toml.Item → Option α}
  {value : α → Toml.Value} {default a : α}

theorem field_eq_some_iff (reads : ∀ item a, read item = some a ↔ item = .value (value a)) :
    field t key read default = some a ↔ Gives t key value default a := by
  unfold field Gives
  cases t.find? key with
  | none => simp [eq_comm]
  | some item => exact reads item a

theorem field_congr (agree : t.find? key = t'.find? key) :
    field t key read default = field t' key read default := by
  unfold field
  rw [agree]

theorem gives_of_admits (default : α)
    (admits : ∀ item, t.find? key = some item → ∃ a, item = .value (value a)) :
    ∃ a, Gives t key value default a := by
  unfold Gives
  cases h : t.find? key with
  | none => exact ⟨default, rfl⟩
  | some item => exact admits item h

theorem Gives.admits (h : Gives t key value default a) {item : Toml.Item}
    (present : t.find? key = some item) : ∃ a, item = .value (value a) := by
  unfold Gives at h
  rw [present] at h
  exact ⟨a, h⟩

theorem textOf?_eq_some_iff (item : Toml.Item) (s : String) :
    textOf? item = some s ↔ item = .value (.text s) := by
  cases item with
  | value v => cases v <;> simp [textOf?]
  | table => simp [textOf?]
  | tables => simp [textOf?]

theorem truthOf?_eq_some_iff (item : Toml.Item) (b : Bool) :
    truthOf? item = some b ↔ item = .value (.truth b) := by
  cases item with
  | value v => cases v <;> simp [truthOf?]
  | table => simp [truthOf?]
  | tables => simp [truthOf?]

theorem wholeOf?_eq_some_iff (item : Toml.Item) (n : Int) :
    wholeOf? item = some n ↔ item = .value (.whole n) := by
  cases item with
  | value v => cases v <;> simp [wholeOf?]
  | table => simp [wholeOf?]
  | tables => simp [wholeOf?]

theorem countOf?_eq_some_iff (item : Toml.Item) (n : Nat) :
    countOf? item = some n ↔ item = .value (.whole n) := by
  cases item with
  | value v =>
    cases v with
    | whole m =>
      simp only [countOf?, Toml.Item.value.injEq, Toml.Value.whole.injEq]
      split
      next h =>
        rw [Option.some.injEq]
        omega
      next h =>
        constructor
        · intro impossible
          cases impossible
        · intro heq
          omega
    | text => simp [countOf?]
    | truth => simp [countOf?]
    | other => simp [countOf?]
  | table => simp [countOf?]
  | tables => simp [countOf?]

end Fields

section Documents

variable {defaults s : Settings} {t t' : Toml.Table}

theorem ofTable?_eq_some_iff : ofTable? defaults t = some s ↔ Over defaults t s := by
  simp only [ofTable?, Option.bind_eq_bind, Option.bind_eq_some_iff, Option.pure_def,
    Option.some.injEq, field_eq_some_iff textOf?_eq_some_iff,
    field_eq_some_iff truthOf?_eq_some_iff, field_eq_some_iff wholeOf?_eq_some_iff,
    field_eq_some_iff countOf?_eq_some_iff]
  constructor
  · rintro ⟨_, h₁, _, h₂, _, h₃, _, h₄, _, h₅, _, h₆, _, h₇, _, h₈, _, h₉, rfl⟩
    exact ⟨h₁, h₂, h₃, h₄, h₅, h₆, h₇, h₈, h₉⟩
  · rintro ⟨h₁, h₂, h₃, h₄, h₅, h₆, h₇, h₈, h₉⟩
    exact ⟨_, h₁, _, h₂, _, h₃, _, h₄, _, h₅, _, h₆, _, h₇, _, h₈, _, h₉, rfl⟩

theorem exists_over (defaults : Settings) (typed : WellTyped t) : ∃ s, Over defaults t s := by
  have text (key : String) (default : String) (hknown : (key, .text) ∈ known) :=
    gives_of_admits default (typed key .text hknown)
  have truth (key : String) (default : Bool) (hknown : (key, .truth) ∈ known) :=
    gives_of_admits default (typed key .truth hknown)
  have count (key : String) (default : Nat) (hknown : (key, .count) ∈ known) :=
    gives_of_admits default (typed key .count hknown)
  have whole (key : String) (default : Int) (hknown : (key, .whole) ∈ known) :=
    gives_of_admits default (typed key .whole hknown)
  obtain ⟨_, h₁⟩ := text "endpoint" defaults.endpoint (by decide)
  obtain ⟨_, h₂⟩ := text "jar_path" defaults.jarPath (by decide)
  obtain ⟨_, h₃⟩ := truth "prefer_keyring" defaults.preferKeyring (by decide)
  obtain ⟨_, h₄⟩ := count "request_timeout_secs" defaults.requestTimeoutSecs (by decide)
  obtain ⟨_, h₅⟩ := whole "credential_ttl_days" defaults.credentialTtlDays (by decide)
  obtain ⟨_, h₆⟩ := truth "single_flight_refresh" defaults.singleFlightRefresh (by decide)
  obtain ⟨_, h₇⟩ := text "log_level" defaults.logLevel (by decide)
  obtain ⟨_, h₈⟩ := text "access_key" defaults.accessKey (by decide)
  obtain ⟨_, h₉⟩ := text "refresh_key" defaults.refreshKey (by decide)
  exact ⟨⟨_, _, _, _, _, _, _, _, _⟩, ⟨h₁, h₂, h₃, h₄, h₅, h₆, h₇, h₈, h₉⟩⟩

theorem Over.wellTyped (h : Over defaults t s) : WellTyped t := by
  intro key kind hknown item present
  unfold known at hknown
  simp only [List.mem_cons, Prod.mk.injEq, List.not_mem_nil, or_false] at hknown
  rcases hknown with ⟨rfl, rfl⟩ | ⟨rfl, rfl⟩ | ⟨rfl, rfl⟩ | ⟨rfl, rfl⟩ | ⟨rfl, rfl⟩ | ⟨rfl, rfl⟩ |
    ⟨rfl, rfl⟩ | ⟨rfl, rfl⟩ | ⟨rfl, rfl⟩
  · exact h.endpoint.admits present
  · exact h.jarPath.admits present
  · exact h.preferKeyring.admits present
  · exact h.requestTimeoutSecs.admits present
  · exact h.credentialTtlDays.admits present
  · exact h.singleFlightRefresh.admits present
  · exact h.logLevel.admits present
  · exact h.accessKey.admits present
  · exact h.refreshKey.admits present

/-- Keys of no setting do not matter. -/
theorem ofTable?_congr (defaults : Settings)
    (agree : ∀ key kind, (key, kind) ∈ known → t.find? key = t'.find? key) :
    ofTable? defaults t = ofTable? defaults t' := by
  have same {α : Type} (key : String) (kind : Kind) (hknown : (key, kind) ∈ known)
      (read : Toml.Item → Option α) (default : α) :
      field t key read default = field t' key read default :=
    field_congr (agree key kind hknown)
  unfold ofTable?
  rw [same "endpoint" .text (by decide), same "jar_path" .text (by decide),
    same "prefer_keyring" .truth (by decide), same "request_timeout_secs" .count (by decide),
    same "credential_ttl_days" .whole (by decide),
    same "single_flight_refresh" .truth (by decide), same "log_level" .text (by decide),
    same "access_key" .text (by decide), same "refresh_key" .text (by decide)]

end Documents

end Settings

namespace Config

open Settings

/-- The document of a configuration file. -/
structure DocumentAt (disk : Disk) (path : String) (t : Toml.Table) : Prop where
  present : disk.exists? path = true
  readable : ∃ text, disk.readText path = .ok text ∧ Toml.read? text = some t

/-- The settings that result from a configuration file, which may be missing. -/
def Results (defaults : Settings) (disk : Disk) (path : String) (s : Settings) : Prop :=
  (disk.exists? path = false ∧ s = defaults) ∨ ∃ t, DocumentAt disk path t ∧ Over defaults t s

section Loading

variable {defaults s : Settings} {disk disk' : Disk} {path : String} {t t' : Toml.Table}
  {c : Config}

theorem readSettings_missing (missing : disk.exists? path = false) :
    readSettings defaults disk path = .ok defaults := by
  unfold readSettings
  rw [missing]
  rfl

theorem readSettings_document (h : DocumentAt disk path t) :
    readSettings defaults disk path =
      (ofTable? defaults t).elim (.error (.malformed path)) .ok := by
  obtain ⟨text, hread, hparse⟩ := h.readable
  unfold readSettings
  rw [if_pos h.present, hread]
  dsimp only
  rw [hparse, Option.bind_some]
  cases ofTable? defaults t with
  | none => rfl
  | some s => rfl

theorem readSettings_eq_ok_iff :
    readSettings defaults disk path = .ok s ↔ Results defaults disk path s := by
  constructor
  · intro h
    cases hpresent : disk.exists? path with
    | false =>
      rw [readSettings_missing hpresent] at h
      cases h
      exact .inl ⟨hpresent, rfl⟩
    | true =>
      unfold readSettings at h
      rw [if_pos hpresent] at h
      split at h
      next => cases h
      next text hread =>
        split at h
        next settings hsettings =>
          cases h
          obtain ⟨t, hparse, htable⟩ := Option.bind_eq_some_iff.mp hsettings
          exact .inr ⟨t, ⟨hpresent, text, hread, hparse⟩, ofTable?_eq_some_iff.mp htable⟩
        next => cases h
  · rintro (⟨missing, rfl⟩ | ⟨t, document, holds⟩)
    · exact readSettings_missing missing
    · rw [readSettings_document document, ofTable?_eq_some_iff.mpr holds, Option.elim_some]

theorem mapError_eq_ok_iff {ε ε' α : Type} {x : Except ε α} {f : ε → ε'} {a : α} :
    x.mapError f = .ok a ↔ x = .ok a := by
  constructor
  · intro h
    cases x with
    | error e => cases h
    | ok b =>
      cases h
      rfl
  · rintro rfl
    rfl

theorem ofSettings_eq_ok_iff :
    ofSettings path s = .ok c ↔
      c.path = path ∧ c.settings = s ∧ Url.parse s.endpoint = .ok c.endpoint ∧
        ttlOfDays s.credentialTtlDays = .ok c.ttl := by
  unfold ofSettings
  simp only [Json.bind_eq_ok_iff, mapError_eq_ok_iff]
  constructor
  · rintro ⟨endpoint, hendpoint, ttl, httl, h⟩
    cases h
    exact ⟨rfl, rfl, hendpoint, httl⟩
  · obtain ⟨path', s', endpoint, ttl⟩ := c
    rintro ⟨rfl, rfl, hendpoint, httl⟩
    exact ⟨endpoint, hendpoint, ttl, httl, rfl⟩

theorem load_eq_ok_iff :
    load defaults disk path = .ok c ↔
      Results defaults disk path c.settings ∧ c.path = path ∧
        Url.parse c.settings.endpoint = .ok c.endpoint ∧
        ttlOfDays c.settings.credentialTtlDays = .ok c.ttl := by
  unfold load
  rw [Json.bind_eq_ok_iff]
  constructor
  · rintro ⟨s, hread, h⟩
    obtain ⟨hpath, rfl, hendpoint, httl⟩ := ofSettings_eq_ok_iff.mp h
    exact ⟨readSettings_eq_ok_iff.mp hread, hpath, hendpoint, httl⟩
  · rintro ⟨hresults, hpath, hendpoint, httl⟩
    exact ⟨c.settings, readSettings_eq_ok_iff.mpr hresults,
      ofSettings_eq_ok_iff.mpr ⟨hpath, rfl, hendpoint, httl⟩⟩

theorem Results.unique {s' : Settings} (h : Results defaults disk path s)
    (h' : Results defaults disk path s') : s = s' := by
  have hread := readSettings_eq_ok_iff.mpr h
  rw [readSettings_eq_ok_iff.mpr h'] at hread
  cases hread
  rfl

theorem exists_results_iff :
    (∃ s, Results defaults disk path s) ↔
      disk.exists? path = false ∨ ∃ t, DocumentAt disk path t ∧ WellTyped t := by
  constructor
  · rintro ⟨s, ⟨missing, -⟩ | ⟨t, document, holds⟩⟩
    · exact .inl missing
    · exact .inr ⟨t, document, holds.wellTyped⟩
  · rintro (missing | ⟨t, document, typed⟩)
    · exact ⟨defaults, .inl ⟨missing, rfl⟩⟩
    · obtain ⟨s, holds⟩ := exists_over defaults typed
      exact ⟨s, .inr ⟨t, document, holds⟩⟩

theorem load_congr (document : DocumentAt disk path t) (document' : DocumentAt disk' path t')
    (agree : ∀ key kind, (key, kind) ∈ known → t.find? key = t'.find? key) :
    load defaults disk path = load defaults disk' path := by
  unfold load
  rw [readSettings_document document, readSettings_document document',
    ofTable?_congr defaults agree]

end Loading

/-- Without a file the client runs on its own defaults: they pass the checks of every
configuration. -/
theorem load_missing (jarPath : String) {disk : Disk} {path : String}
    (missing : disk.exists? path = false) :
    ∃ c, load { jarPath } disk path = .ok c ∧ c.settings = { jarPath } := by
  have hendpoint : (Url.parse defaultEndpoint).toOption.isSome = true := by decide +kernel
  obtain ⟨endpoint, hparse⟩ := Option.isSome_iff_exists.mp hendpoint
  have httl : ttlOfDays defaultTtlDays = .ok defaultTtl := rfl
  refine ⟨⟨path, { jarPath }, endpoint, defaultTtl⟩, ?_, rfl⟩
  exact load_eq_ok_iff.mpr
    ⟨.inl ⟨missing, rfl⟩, rfl, Json.toOption_eq_some_iff.mp hparse, httl⟩

end Config

open Config Settings in
/-- A configuration is accepted exactly when its file is missing or a readable document that has a
value of its type at every known key it has, and the endpoint and the time to live that result are
allowed. What is configured is then what the file has at its keys and the defaults at all others; it
knows its path, and the options of sessions can be made of it. Other keys of the file have no
effect. -/
theorem configuration_follows_file (defaults : Settings) (disk : Disk) (path : String) :
    ((∃ c, Config.load defaults disk path = .ok c) ↔
      (disk.exists? path = false ∨ ∃ t, DocumentAt disk path t ∧ WellTyped t) ∧
      ∀ s, Results defaults disk path s →
        (∃ endpoint, Url.parse s.endpoint = .ok endpoint) ∧
          1 ≤ s.credentialTtlDays ∧ s.credentialTtlDays ≤ 3650) ∧
    (∀ c, Config.load defaults disk path = .ok c →
      Results defaults disk path c.settings ∧ c.path = path ∧
      Url.parse c.settings.endpoint = .ok c.endpoint ∧
      ttlOfDays c.settings.credentialTtlDays = .ok c.ttl ∧
      c.ttl.nanos = 86400 * c.settings.credentialTtlDays * 1000000000 ∧
      c.options = ⟨⟨c.settings.accessKey, c.settings.refreshKey⟩, c.ttl,
        c.settings.singleFlightRefresh⟩) ∧
    ∀ disk' t t', DocumentAt disk path t → DocumentAt disk' path t' →
      (∀ key kind, (key, kind) ∈ known → t.find? key = t'.find? key) →
      Config.load defaults disk path = Config.load defaults disk' path := by
  refine ⟨⟨?_, ?_⟩, ?_, ?_⟩
  · rintro ⟨c, loaded⟩
    obtain ⟨results, -, hendpoint, httl⟩ := load_eq_ok_iff.mp loaded
    refine ⟨exists_results_iff.mp ⟨c.settings, results⟩, fun s hs => ?_⟩
    have same : s = c.settings := hs.unique results
    rw [same]
    exact ⟨⟨c.endpoint, hendpoint⟩, (ttlOfDays_eq_ok_iff.mp httl).1⟩
  · rintro ⟨file, allowed⟩
    obtain ⟨s, results⟩ := exists_results_iff.mpr file
    obtain ⟨⟨endpoint, hendpoint⟩, hdays⟩ := allowed s results
    have hcases := ttlOfDays_cases s.credentialTtlDays
    rw [if_pos hdays] at hcases
    obtain ⟨ttl, httl⟩ := hcases
    exact ⟨⟨path, s, endpoint, ttl⟩, load_eq_ok_iff.mpr ⟨results, rfl, hendpoint, httl⟩⟩
  · intro c loaded
    obtain ⟨results, hpath, hendpoint, httl⟩ := load_eq_ok_iff.mp loaded
    exact ⟨results, hpath, hendpoint, httl, (ttlOfDays_eq_ok_iff.mp httl).2, rfl⟩
  · intro disk' t t' document document' agree
    exact load_congr document document' agree

def partialDisk : Disk :=
  (Disk.blank []).put ["client.toml"]
    (.file (.text ("endpoint = \"https://api.example.com/graphql\"\n" ++
      "single_flight_refresh = true\naccess_key = \"at\"\nconfig_path = \"other.toml\"\n" ++
      "retries = 3\n[proxy]\nlog_level = \"debug\"\n")) 0o644)

def partialSettings : Settings where
  endpoint := "https://api.example.com/graphql"
  jarPath := "jar.json"
  singleFlightRefresh := true
  accessKey := "at"

/-- The theorem at a file that sets three keys, and has keys of no setting. -/
theorem configuration_follows_file_of_partial :
    ∃ c, Config.load { jarPath := "jar.json" } partialDisk "client.toml" = .ok c ∧
      c.settings = partialSettings ∧ c.path = "client.toml" ∧
      c.ttl.nanos = 604800 * 1000000000 ∧
      c.options = ⟨⟨"at", "refreshToken"⟩, c.ttl, true⟩ := by
  have hread : (Config.load { jarPath := "jar.json" } partialDisk "client.toml").toOption.map
      (·.settings) = some partialSettings := by decide +kernel
  obtain ⟨c, hloaded, hsettings⟩ := Option.map_eq_some_iff.mp hread
  have loaded := Json.toOption_eq_some_iff.mp hloaded
  obtain ⟨-, holds, -⟩ :=
    configuration_follows_file { jarPath := "jar.json" } partialDisk "client.toml"
  obtain ⟨-, hpath, -, -, hnanos, hoptions⟩ := holds c loaded
  rw [hsettings] at hnanos hoptions
  exact ⟨c, loaded, hsettings, hpath, hnanos, hoptions⟩

end BearerSession
