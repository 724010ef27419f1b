import BearerSession.Proofs.JarReopening
import BearerSession.Proofs.StagedFile
import BearerSession.Proofs.StoreBackends

namespace BearerSession

namespace FileJar

variable {s : Staging} {path : String} {disk disk' : Disk} {jar jar' : FileJar} {now t : Instant}
  {op : StoreOp} {past : StoreHistory} {key : String}

section Calls

variable (s : Staging) (jar : FileJar) (now : Instant)

/-- Saves step by step. -/
def saveInSteps (disk : Disk) : Except StoreError Unit × FileJar × Disk :=
  let jar := { jar with data := jar.data.prune now }
  match disk.replaceInSteps s jar.path jar.data.encode.pretty mode with
  | (.ok _, disk) => (.ok (), jar, disk)
  | (.error e, disk) => (.error (.io jar.path e), jar, disk)

/-- The running copy with the change that a call makes, and with all entries that have died. -/
def changed (op : StoreOp) : FileJar :=
  { jar with data := { jar.data with entries := op.apply now jar.data.entries } }

/-- The running copy after a call, whatever becomes of its save. -/
def called (op : StoreOp) : FileJar :=
  if jar.saves op then
    { jar.changed now op with data := (jar.changed now op).data.prune now }
  else jar

/-- Makes a call that saves step by step. -/
def callInSteps (op : StoreOp) (disk : Disk) : Except StoreError StoreReply × FileJar × Disk :=
  if jar.saves op then
    let r := saveInSteps s (jar.changed now op) now disk
    (r.1.map fun _ => .done, r.2)
  else op.perform (calls now) (jar, disk)

end Calls

theorem saveInSteps_eq (hfresh : s.IsFresh disk jar.path) (granted : ∀ step, s.refused step = none)
    (hcleared : s.cleared = true) : saveInSteps s jar now disk = jar.save now disk := by
  unfold saveInSteps save
  dsimp only
  rw [Disk.replaceInSteps_eq hfresh granted hcleared]
  cases disk.replaceFile jar.path (jar.data.prune now).encode.pretty mode <;> rfl

/-- A call that saves makes its change and saves it as a whole. -/
theorem perform_of_saves (hsaves : jar.saves op = true) (now : Instant) (disk : Disk) :
    op.perform (calls now) (jar, disk) =
      (((jar.changed now op).save now disk).1.map fun _ => .done,
        ((jar.changed now op).save now disk).2) := by
  cases op with
  | get => cases hsaves
  | has => cases hsaves
  | set key value ttl => rfl
  | remove key =>
    show (((jar.remove now key disk).1.map fun _ => StoreReply.done), (jar.remove now key disk).2) = _
    unfold remove
    cases hentry : jar.data.entries.get? key with
    | none => simp [saves, hentry] at hsaves
    | some e => rfl

/-- Where the file system refuses no step of itself, a call that saves step by step is the call. -/
theorem callInSteps_eq (hfresh : s.IsFresh disk jar.path) (granted : ∀ step, s.refused step = none)
    (hcleared : s.cleared = true) :
    jar.callInSteps s now op disk = op.perform (calls now) (jar, disk) := by
  unfold callInSteps
  split
  next hsaves =>
    have hsame : saveInSteps s (jar.changed now op) now disk = (jar.changed now op).save now disk :=
      saveInSteps_eq hfresh granted hcleared
    rw [perform_of_saves hsaves, hsame]
  next => rfl

theorem perform_of_not_saves (hsaves : jar.saves op = false) (now : Instant) (disk : Disk) :
    ∃ reply, op.perform (calls now) (jar, disk) = (.ok reply, jar, disk) := by
  cases op with
  | get key => exact ⟨_, rfl⟩
  | has key => exact ⟨_, rfl⟩
  | set key value ttl => cases hsaves
  | remove key =>
    have hnone : jar.data.entries.get? key = none :=
      Option.not_isSome_iff_eq_none.mp (by simpa [saves] using hsaves)
    refine ⟨.done, ?_⟩
    show (((jar.remove now key disk).1.map fun _ => StoreReply.done), (jar.remove now key disk).2) = _
    unfold remove
    rw [hnone]
    rfl

/-- Whether a call succeeds or fails, it leaves the same running copy. -/
theorem callInSteps_copy (s : Staging) (jar : FileJar) (now : Instant) (op : StoreOp) (disk : Disk) :
    (jar.callInSteps s now op disk).2.1 = jar.called now op := by
  unfold callInSteps called
  cases hsaves : jar.saves op with
  | true =>
    rw [if_pos rfl, if_pos rfl]
    unfold saveInSteps
    dsimp only
    split <;> rfl
  | false =>
    obtain ⟨reply, hcall⟩ := perform_of_not_saves hsaves now disk
    rw [if_neg Bool.false_ne_true, if_neg Bool.false_ne_true, hcall]

/-- A call fails only for what the file system answers to its save, and then the file is as it was,
and so is the disk if the file beside can be taken away. -/
theorem callInSteps_of_error {e : StoreError} (hfresh : s.IsFresh disk jar.path)
    (h : jar.callInSteps s now op disk = (.error e, jar', disk')) :
    jar.saves op = true ∧ (∃ io, e = .io jar.path io) ∧
      disk'.node? jar.path = disk.node? jar.path ∧ (s.cleared = true → disk' = disk) := by
  unfold callInSteps at h
  cases hsaves : jar.saves op with
  | false =>
    obtain ⟨reply, hcall⟩ := perform_of_not_saves hsaves now disk
    rw [hsaves, if_neg Bool.false_ne_true, hcall] at h
    cases h
  | true =>
    rw [hsaves, if_pos rfl] at h
    unfold saveInSteps at h
    dsimp only at h
    split at h
    next => cases h
    next io left hrun =>
      cases h
      exact ⟨rfl, ⟨io, rfl⟩, Disk.replaceInSteps_of_refused hfresh hrun⟩

/-- What a store may have become by calls, whatever disk each of them has met and whichever steps of
its save were refused. -/
inductive Becomes (jar : FileJar) : StoreHistory → FileJar → Prop
  | start : Becomes jar [] jar
  | call {past : StoreHistory} {before after : FileJar} {now : Instant} {op : StoreOp} {s : Staging}
      {disk disk' : Disk} {reply : Except StoreError StoreReply} (earlier : Becomes jar past before)
      (made : before.callInSteps s now op disk = (reply, after, disk')) :
      Becomes jar ((now, op) :: past) after

/-- What lives in the running copy after a call is what the call makes of what lived. -/
theorem called_prune (jar : FileJar) (op : StoreOp) (ht : ¬ t < now) :
    (jar.called now op).data.prune t = (jar.changed now op).data.prune t := by
  unfold called
  cases hsaves : jar.saves op with
  | true => exact JarData.prune_prune _ ht
  | false =>
    obtain ⟨reply, hcall⟩ := perform_of_not_saves hsaves now (.blank [])
    exact call_prune hcall ht

theorem Becomes.prune {jar₁ : FileJar} (h : Becomes jar past jar₁) (ht : ∀ u ∈ past, ¬ t < u.1) :
    jar₁.data.prune t = (jar.data.withCalls past).prune t := by
  induction h with
  | start => rfl
  | @call past before after now op s disk disk' reply _ made ih =>
    have hbefore : before.data.prune t = (jar.data.withCalls past).prune t :=
      ih fun u hu => ht u (List.mem_cons_of_mem _ hu)
    have hcopy : after = before.called now op := by
      rw [← callInSteps_copy s before now op disk, made]
    rw [hcopy, called_prune before op (ht _ List.mem_cons_self)]
    exact JarData.prune_apply hbefore op

theorem get_eq_prune (jar : FileJar) (t : Instant) (key : String) :
    jar.get t key = liveValue t ((jar.data.prune t).entries.get? key) := by
  have hshown := FileJar.get_prune jar t t key
  exact (hshown.resolve_right fun h => Instant.not_lt_self t h.1).symm

/-- A key shows the latest write among the calls, or what the store held before all of them. -/
theorem Becomes.get {jar₁ : FileJar} (h : Becomes jar past jar₁) (ht : ∀ u ∈ past, ¬ t < u.1)
    (key : String) :
    jar₁.get t key = if past.any (·.2.writes key) then promised past t key else jar.get t key := by
  have hlatest : jar₁.get t key =
      liveValue t ((entriesAfter jar.data.entries past).get? key) := by
    rw [get_eq_prune, h.prune ht]
    exact (get_eq_prune ⟨jar.path, jar.data.withCalls past⟩ t key).symm
  rw [hlatest, get?_entriesAfter]
  unfold promised FileJar.get
  split <;> rfl

end FileJar

/-- A call of a store in a file fails, at whichever step of its save. The file is as it was, and so
is the disk if the file beside can be taken away, but every later look through the store, after
whatever calls and whether their saves succeed, finds at the key of the failed call what that call
wrote, until it is written again. Any other key shows what it would have shown without the call. -/
theorem failed_save_changes_copy_alone {s : Staging} {jar jar' : FileJar} {disk disk' : Disk}
    {now : Instant} {op : StoreOp} {e : StoreError} (fresh : s.IsFresh disk jar.path)
    (failed : jar.callInSteps s now op disk = (.error e, jar', disk')) :
    (∃ io, e = .io jar.path io) ∧
    disk'.node? jar.path = disk.node? jar.path ∧ (s.cleared = true → disk' = disk) ∧
    ∀ later jar₁ jar₂, FileJar.Becomes jar' later jar₁ → FileJar.Becomes jar later jar₂ →
      ∀ t, ¬ t < now → (∀ u ∈ later, ¬ t < u.1) → ∀ key,
        jar₁.get t key =
          if op.writes key ∧ ∀ u ∈ later, u.2.writes key = false then promised [(now, op)] t key
          else jar₂.get t key := by
  obtain ⟨-, hio, hfile, hdisk⟩ := FileJar.callInSteps_of_error fresh failed
  refine ⟨hio, hfile, hdisk, ?_⟩
  intro later jar₁ jar₂ hlater₁ hlater₂ t hnow hlater key
  have hcall : FileJar.Becomes jar [(now, op)] jar' := .call .start failed
  have hjar' : jar'.get t key =
      if op.writes key then promised [(now, op)] t key else jar.get t key := by
    rw [hcall.get (List.forall_mem_singleton.mpr hnow) key, List.any_cons, List.any_nil, Bool.or_false]
  rw [hlater₁.get hlater key, hlater₂.get hlater key, hjar']
  by_cases hlast : ∀ u ∈ later, u.2.writes key = false
  · have hany : later.any (·.2.writes key) = false := by
      rw [List.any_eq_false]
      exact fun u hu => Bool.eq_false_iff.mp (hlast u hu)
    simp only [hany, Bool.false_eq_true, if_false, and_iff_left hlast]
  · have hany : later.any (·.2.writes key) = true := by
      refine Decidable.byContradiction fun hnone => hlast fun u hu => ?_
      exact Bool.eq_false_iff.mpr fun hu' => hnone (List.any_eq_true.mpr ⟨u, hu, hu'⟩)
    simp only [hany, if_true, if_neg fun h : _ ∧ _ => hlast h.2]

/-- A file system that gives up writing in the middle of the text. -/
def crampedDisk : Staging where
  name := ".tmpJar"
  refused step := if step = .write then some .invalidData else none
  written _ := "\x7b"

/-- The theorem at a set that cannot be written over a value that lives, and a look in the file's
store before and after. -/
theorem failed_save_changes_copy_alone_of_cramped :
    crampedDisk.IsFresh agedDisk "jar.json" ∧
    ∃ e jar', FileJar.callInSteps crampedDisk ⟨"jar.json", agedData⟩ .least
        (.set "kept" ⟨"n"⟩ defaultTtl) agedDisk = (.error e, jar', agedDisk) ∧
      (∃ io, e = .io "jar.json" io) ∧
      jar'.get .least "kept" = some ⟨"n"⟩ ∧
      FileJar.get ⟨"jar.json", agedData⟩ .least "kept" = some ⟨"k"⟩ ∧
      jar'.get .least "other" = FileJar.get ⟨"jar.json", agedData⟩ .least "other" := by
  have hfresh : crampedDisk.IsFresh agedDisk "jar.json" := by decide +kernel
  have herror : (FileJar.callInSteps crampedDisk ⟨"jar.json", agedData⟩ .least
      (.set "kept" ⟨"n"⟩ defaultTtl) agedDisk).1.isOk = false := by decide +kernel
  cases hcall : FileJar.callInSteps crampedDisk ⟨"jar.json", agedData⟩ .least
      (.set "kept" ⟨"n"⟩ defaultTtl) agedDisk with
  | mk reply rest =>
    obtain ⟨jar', disk'⟩ := rest
    rw [hcall] at herror
    cases reply with
    | ok reply => cases herror
    | error e =>
      obtain ⟨hio, -, hdisk, hlater⟩ := failed_save_changes_copy_alone hfresh hcall
      have hnow := hlater [] jar' _ .start .start .least (Instant.not_lt_self _) (fun _ h => nomatch h)
      refine ⟨hfresh, e, jar', by rw [hdisk rfl], hio, ?_, by decide +kernel, ?_⟩
      · rw [hnow "kept"]
        decide +kernel
      · rw [hnow "other"]
        rfl

/-- A set and a removal fail because the directory is gone, and yet are what later looks find. -/
theorem failed_calls_are_seen :
    ∃ e e' jar jar',
      FileJar.set ⟨"sub/jar.json", {}⟩ .least "k" ⟨"v"⟩ defaultTtl (.blank []) =
        (.error e, jar, .blank []) ∧
      FileJar.get ⟨"sub/jar.json", {}⟩ .least "k" = none ∧ jar.get .least "k" = some ⟨"v"⟩ ∧
      jar.remove .least "k" (.blank []) = (.error e', jar', .blank []) ∧
      jar'.get .least "k" = none :=
  ⟨_, _, _, _, rfl, rfl, by decide +kernel, rfl, by decide +kernel⟩

end BearerSession
