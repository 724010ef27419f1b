import BearerSession.Proofs.Scene

namespace BearerSession

namespace Program

variable {Ask : Type} {Answer : Ask → Type} {α β σ : Type}

/-- The states that a program meets between its calls. -/
inductive Meets (s : Surroundings Ask Answer σ) (id : Nat) : Program Ask Answer α → σ → σ → Prop
  | here {p w} : Meets s id p w w
  | called {c next w v} :
      Meets s id (next (s.react id c w).1.answer) (s.react id c w).2 v →
      Meets s id (.ask c next) w v

/-- Whether every state that a program meets is within an invariant, and its result is what is
wanted. -/
def Stays (s : Surroundings Ask Answer σ) (id : Nat) (inv : σ → Prop) (wants : α → σ → Prop) :
    Program Ask Answer α → σ → Prop
  | .done a, w => inv w ∧ wants a w
  | .ask c next, w =>
    inv w ∧ (next (s.react id c w).1.answer).Stays s id inv wants (s.react id c w).2

variable {s : Surroundings Ask Answer σ} {id : Nat} {inv : σ → Prop} {wants : α → σ → Prop}
  {p : Program Ask Answer α} {w v : σ}

theorem Stays.start (h : p.Stays s id inv wants w) : inv w := by
  cases p with
  | done a => exact h.1
  | ask c next => exact h.1

theorem Stays.meets (h : p.Stays s id inv wants w) (met : p.Meets s id w v) : inv v := by
  induction met with
  | here => exact h.start
  | called _ ih => exact ih h.2

theorem Stays.alone (h : p.Stays s id inv wants w) :
    inv (p.alone s id w).2 ∧ wants (p.alone s id w).1 (p.alone s id w).2 := by
  induction p generalizing w with
  | done a => exact h
  | ask c next ih => exact ih _ h.2

theorem Stays.result (h : p.Stays s id inv wants w) :
    p.Stays s id inv (fun a v => (a, v) = p.alone s id w) w := by
  induction p generalizing w with
  | done a => exact ⟨h.1, rfl⟩
  | ask c next ih => exact ⟨h.1, ih _ h.2⟩

theorem meets_end (s : Surroundings Ask Answer σ) (id : Nat) (p : Program Ask Answer α) (w : σ) :
    p.Meets s id w (p.alone s id w).2 := by
  induction p generalizing w with
  | done a => exact .here
  | ask c next ih => exact .called (ih _ _)

theorem Stays.bind {f : α → Program Ask Answer β} {wants' : β → σ → Prop}
    (h : p.Stays s id inv wants w)
    (hf : ∀ a v, inv v → wants a v → (f a).Stays s id inv wants' v) :
    (p >>= f).Stays s id inv wants' w := by
  induction p generalizing w with
  | done a => exact hf a w h.1 h.2
  | ask c next ih => exact ⟨h.1, ih _ h.2⟩

theorem Stays.call {e : Endpoint} {c : Call} {inv : Scene → Prop} {wants : α → Scene → Prop}
    {f : c.Answer → Script α} {v : Scene} (h : inv v)
    (hf : (f (e.scenes.react id c v).1.answer).Stays e.scenes id inv wants
      (e.scenes.react id c v).2) :
    (Script.ask c >>= f).Stays e.scenes id inv wants v := ⟨h, hf⟩

/-- A program only adds to what has happened. -/
theorem Meets.suffix {e : Endpoint} {p : Script α} {start v : Scene}
    (met : p.Meets e.scenes id start v) : start.past <:+ v.past := by
  induction met with
  | here => exact List.suffix_rfl
  | called _ ih => exact (List.suffix_cons _ _).trans ih

end Program

end BearerSession
