import BearerSession.Simulation.World

namespace BearerSession.World

variable {w : World} {m : MemoryStore}

@[simp] theorem note_reads (w : World) (event : Event) : (w.note event).reads = w.reads := rfl

@[simp] theorem write_clock (w : World) (line : LogLine) : (w.write line).clock = w.clock := by
  unfold write
  split <;> rfl

@[simp] theorem write_reads (w : World) (line : LogLine) : (w.write line).reads = w.reads := by
  unfold write
  split <;> rfl

@[simp] theorem write_store (w : World) (line : LogLine) : (w.write line).store = w.store := by
  unfold write
  split <;> rfl

@[simp] theorem write_machine (w : World) (line : LogLine) :
    (w.write line).machine = w.machine := by
  unfold write
  split <;> rfl

@[simp] theorem write_faults (w : World) (line : LogLine) : (w.write line).faults = w.faults := by
  unfold write
  split <;> rfl

@[simp] theorem write_gate (w : World) (line : LogLine) : (w.write line).gate = w.gate := by
  unfold write
  split <;> rfl

theorem foldl_write_gate (w : World) (lines : List LogLine) :
    (lines.foldl write w).gate = w.gate := by
  induction lines generalizing w with
  | nil => rfl
  | cons line lines ih => rw [List.foldl_cons, ih, write_gate]

theorem foldl_write_reads (w : World) (lines : List LogLine) :
    (lines.foldl write w).reads = w.reads := by
  induction lines generalizing w with
  | nil => rfl
  | cons line lines ih => rw [List.foldl_cons, ih, write_reads]

theorem get_gate (w : World) (key : String) : (w.get key).2.gate = w.gate := by
  unfold get
  dsimp only
  split
  · rfl
  · exact foldl_write_gate _ _

theorem set_gate (w : World) (key : String) (value : Secret) (ttl : Span) :
    (w.set key value ttl).2.gate = w.gate := by
  unfold set
  dsimp only
  split <;> rfl

theorem remove_gate (w : World) (key : String) : (w.remove key).2.gate = w.gate := by
  unfold remove
  dsimp only
  split <;> rfl

theorem reads_le_get (w : World) (key : String) : w.reads ≤ (w.get key).2.reads := by
  unfold get
  dsimp only
  split
  · exact Nat.le_refl _
  · rw [foldl_write_reads]
    exact Nat.le_succ _

theorem reads_le_set (w : World) (key : String) (value : Secret) (ttl : Span) :
    w.reads ≤ (w.set key value ttl).2.reads := by
  unfold set
  dsimp only
  split
  · exact Nat.le_refl _
  · exact Nat.le_succ _

theorem reads_le_remove (w : World) (key : String) : w.reads ≤ (w.remove key).2.reads := by
  unfold remove
  dsimp only
  split
  · exact Nat.le_refl _
  · exact Nat.le_succ _

theorem get_memory (hs : w.store = .memory m) (hf : w.faults = []) (key : String) :
    w.get key =
      (.ok (m.get w.now key), { w with record := .get key :: w.record, reads := w.reads + 1 }) := by
  cases w
  cases hs
  cases hf
  rfl

theorem set_memory (hs : w.store = .memory m) (hf : w.faults = []) (key : String) (value : Secret)
    (ttl : Span) :
    w.set key value ttl =
      (.ok (), { w with
        record := .set key value ttl :: w.record
        reads := w.reads + 1
        store := .memory (m.set w.now key value ttl) }) := by
  cases w
  cases hs
  cases hf
  rfl

theorem remove_memory (hs : w.store = .memory m) (hf : w.faults = []) (key : String) :
    w.remove key =
      (.ok (), { w with
        record := .remove key :: w.record
        reads := w.reads + 1
        store := .memory (m.remove key) }) := by
  cases w
  cases hs
  cases hf
  rfl

end BearerSession.World
