import BearerSession.Proofs.BrowserCookies
import BearerSession.Proofs.InstantOrder

namespace BearerSession

namespace Instant

/-- Nanoseconds since 1970, kept between the first and the last point in time. -/
def clamped (n : Int) : Int := max least.nanos (min greatest.nanos n)

variable {a b : Instant}

theorem clamped_mono {m n : Int} (h : m ≤ n) : clamped m ≤ clamped n := by
  unfold clamped
  omega

theorem lt_iff_nanos (ha : a.nano < 1000000000) (hb : b.nano < 1000000000) :
    a < b ↔ a.nanos < b.nanos := by
  have hananos : a.nanos = a.second * 1000000000 + a.nano := rfl
  have hbnanos : b.nanos = b.second * 1000000000 + b.nano := rfl
  rw [lt_iff]
  omega

theorem clamped_nanos (ha : a.nano < 1000000000) : clamped a.nanos = a.nanos := by
  have hlower := a.lower
  have hupper := a.upper
  have hnanos : a.nanos = a.second * 1000000000 + a.nano := rfl
  have hleast : least.nanos = -8334601228800 * 1000000000 := rfl
  have hgreatest : greatest.nanos = 8210266876799 * 1000000000 + 999999999 := rfl
  unfold clamped
  omega

end Instant

open Instant (clamped clamped_mono clamped_nanos lt_iff_nanos nanos_plus plus_nano_lt)

section Horizon

variable {now now' t : Instant} {ttl ttl' : Span}

theorem plus_mono_both (regular : now.nano < 1000000000) (regular' : now'.nano < 1000000000)
    (hnow : now.nanos ≤ now'.nanos) (httl : ttl.nanos ≤ ttl'.nanos) :
    ¬ now'.plus ttl' < now.plus ttl := by
  have hsum : now.nanos + ttl.nanos ≤ now'.nanos + ttl'.nanos := by omega
  have hclamped : (now.plus ttl).nanos ≤ (now'.plus ttl').nanos := by
    rw [nanos_plus now ttl regular, nanos_plus now' ttl' regular']
    exact clamped_mono hsum
  rw [lt_iff_nanos (plus_nano_lt now' ttl') (plus_nano_lt now ttl)]
  omega

theorem isLive_iff_nanos (value : Secret) (regular : now.nano < 1000000000)
    (ht : t.nano < 1000000000) :
    (StoredEntry.stamp value now ttl).isLive t = true ↔
      t.nanos < clamped (now.nanos + ttl.nanos) := by
  have hlive : (StoredEntry.stamp value now ttl).isLive t = true ↔ t < now.plus ttl :=
    decide_eq_true_iff
  rw [hlive, lt_iff_nanos ht (plus_nano_lt now ttl), nanos_plus now ttl regular]
  rfl

theorem not_live_of_not_pos (value : Secret) (regular : now.nano < 1000000000)
    (httl : ttl.nanos ≤ 0) (ht : ¬ t < now) :
    (StoredEntry.stamp value now ttl).isLive t = false := by
  have hsum : (now.plus ttl).nanos ≤ now.nanos := by
    calc (now.plus ttl).nanos
        = clamped (now.nanos + ttl.nanos) := nanos_plus now ttl regular
      _ ≤ clamped now.nanos := clamped_mono (by omega)
      _ = now.nanos := clamped_nanos regular
  have hnow : ¬ now < now.plus ttl := by
    rw [lt_iff_nanos regular (plus_nano_lt now ttl)]
    omega
  refine decide_eq_false fun hlt => hnow ?_
  exact Instant.lt_of_not_lt_of_lt ht hlt

end Horizon

namespace RequestJar

variable {start jar : RequestJar} {past : StoreHistory} {key : String}

/-- A jar in the end tells of a key once, by the latest change of it. -/
theorem Told.read_key (h : Told start past jar) {change : CookieChange}
    (hchange : jar.changes.get? key = some change) :
    (jar.finish.filterMap SetCookie.read?).filter (fun c => c.name = key) =
      [SetCookie.ofChange key change] := by
  have hentries : jar.changes.entries.filter (fun e => e.1 = key) = [(key, change)] := by
    refine SortedMap.eq_of_find?_eq (jar.changes.ascending.filter _) (List.pairwise_singleton _ _)
      fun name => ?_
    rw [SortedMap.find?_filter _ name jar.changes.ascending]
    by_cases hname : name = key
    · subst hname
      have hfind : SortedMap.find? name jar.changes.entries = some change := hchange
      simp [hfind, SortedMap.find?]
    · have hnone : SortedMap.find? name [(key, change)] = none := by
        simp [SortedMap.find?, hname]
      rw [hnone]
      simp [hname]
  rw [h.filterMap_read_finish, List.filter_map]
  exact congrArg (List.map fun e => SetCookie.ofChange e.1 e.2) hentries

end RequestJar

/-- What a jar has and tells of a value that was written to live for some days: the header of its
key sets the age by which its horizon lies after the write, if the range of time does not end
before. -/
structure RequestJar.TellsSpan (jar : RequestJar) (key : String) (value : Secret) (now : Instant)
    (ttl : Span) (days : Int) : Prop where
  cookie : jar.cookies.get? key = some ⟨value, some (now.plus ttl)⟩
  told : ∃ age : Nat, (age : Int) = 86400 * days ∧
    (jar.finish.filterMap SetCookie.read?).filter (fun c => c.name = key) =
      [⟨key, value.expose, some age⟩]
  span : now.nanos + ttl.nanos ≤ Instant.greatest.nanos →
    (now.plus ttl).nanos - now.nanos = 86400 * days * 1000000000

theorem tellsSpan_of_latest {start : RequestJar} {machine : Machine} {past : StoreHistory}
    {now : Instant} {ttl : Span} {key : String} {value : Secret} {days : Int}
    (unchanged : start.changes = .empty) (hdays : ttlOfDays days = .ok ttl)
    (latest : lastCall key (AnyStore.accepted (.request start, machine) past) =
      some (now, .set key value ttl)) :
    ∃ jar : RequestJar, AnyStore.after (.request start, machine) past = (.request jar, machine) ∧
      jar.TellsSpan key value now ttl days := by
  obtain ⟨hrange, hnanos⟩ := ttlOfDays_eq_ok_iff.mp hdays
  obtain ⟨jar, hafter, htold⟩ := RequestJar.Told.of_after start unchanged machine past
  have hcookie := htold.cookies key
  have hchange := htold.changes key
  rw [latest] at hcookie hchange
  have hseconds := seconds_of_days hdays
  have hage : ((max ttl.seconds 0).toNat : Int) = 86400 * days := by omega
  refine ⟨jar, hafter, hcookie, ⟨_, hage, htold.read_key hchange⟩, fun hsum => ?_⟩
  have hexact : (now.plus ttl).nanos = now.nanos + ttl.nanos :=
    Instant.nanos_plus_of_le (by omega) hsum
  omega

/-- A value written outside leap seconds expires at its write time plus its time to live, kept
within the range of time; later writes and longer lives never expire earlier. It counts up to that
point in time and no further, and never from its write on if its time to live is not positive. Lives
are given in days from 1 to 3650 and no others, and of these a jar of cookies tells the age by which
the horizon lies after the write. -/
theorem expiry_is_clamped_sum (now : Instant) (ttl : Span) (regular : now.nano < 1000000000) :
    (now.plus ttl).nanos = clamped (now.nanos + ttl.nanos) ∧
    (∀ (now' : Instant) (ttl' : Span), now'.nano < 1000000000 → now.nanos ≤ now'.nanos →
      ttl.nanos ≤ ttl'.nanos → ¬ now'.plus ttl' < now.plus ttl) ∧
    (∀ value t, ((StoredEntry.stamp value now ttl).isLive t = true ↔ t < now.plus ttl) ∧
      (t.nano < 1000000000 → ((StoredEntry.stamp value now ttl).isLive t = true ↔
        t.nanos < clamped (now.nanos + ttl.nanos))) ∧
      (ttl.nanos ≤ 0 → ¬ t < now → (StoredEntry.stamp value now ttl).isLive t = false)) ∧
    (∀ days, ttlOfDays days = .ok ttl ↔
      (1 ≤ days ∧ days ≤ 3650) ∧ ttl.nanos = 86400 * days * 1000000000) ∧
    (∀ days, if 1 ≤ days ∧ days ≤ 3650 then ∃ ttl, ttlOfDays days = .ok ttl
      else ttlOfDays days = .error (.invalidTtl days)) ∧
    ∀ (start : RequestJar) (machine : Machine) (past : StoreHistory) (key : String)
      (value : Secret) (days : Int), start.changes = .empty → ttlOfDays days = .ok ttl →
      lastCall key (AnyStore.accepted (.request start, machine) past) =
        some (now, .set key value ttl) →
      ∃ jar : RequestJar, AnyStore.after (.request start, machine) past = (.request jar, machine) ∧
        jar.TellsSpan key value now ttl days := by
  refine ⟨nanos_plus now ttl regular, fun now' ttl' regular' => plus_mono_both regular regular',
    fun value t => ⟨decide_eq_true_iff, isLive_iff_nanos value regular,
      not_live_of_not_pos value regular⟩, fun days => ttlOfDays_eq_ok_iff, ttlOfDays_cases, ?_⟩
  intro start machine past key value days unchanged hdays latest
  exact tellsSpan_of_latest unchanged hdays latest

/-- A week before the last point in time. -/
def lastWeek : Instant :=
  { Instant.greatest with second := 8210266271999, lower := by decide, upper := by decide }

/-- The theorem at the last write that may live for a week, after which another key was removed. -/
theorem expiry_is_clamped_sum_of_last :
    let calls : StoreHistory :=
      [(lastWeek, .remove "b"), (lastWeek, .set "a" ⟨"1"⟩ defaultTtl)]
    lastWeek.nano < 1000000000 ∧ ttlOfDays 7 = .ok defaultTtl ∧
      lastWeek.nanos + defaultTtl.nanos = Instant.greatest.nanos ∧
      (lastWeek.plus defaultTtl).nanos = Instant.greatest.nanos ∧
      ∃ jar : RequestJar, AnyStore.after (.request {}, ⟨Disk.blank [], {}⟩) calls =
          (.request jar, ⟨Disk.blank [], {}⟩) ∧
        jar.TellsSpan "a" ⟨"1"⟩ lastWeek defaultTtl 7 := by
  intro calls
  have regular : lastWeek.nano < 1000000000 := by decide
  have hdays : ttlOfDays 7 = .ok defaultTtl := rfl
  have hsum : lastWeek.nanos + defaultTtl.nanos = Instant.greatest.nanos := by decide
  obtain ⟨hclamped, -, -, -, -, htells⟩ := expiry_is_clamped_sum lastWeek defaultTtl regular
  rw [hsum, clamped_nanos (by decide)] at hclamped
  have hlatest : lastCall "a" (AnyStore.accepted (.request {}, ⟨Disk.blank [], {}⟩) calls) =
      some (lastWeek, .set "a" ⟨"1"⟩ defaultTtl) := rfl
  exact ⟨regular, hdays, hsum, hclamped, htells {} _ calls "a" ⟨"1"⟩ 7 rfl hdays hlatest⟩

end BearerSession
