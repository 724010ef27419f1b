namespace BearerSession

/-- A program that makes calls and comes to a result. -/
inductive Program (Call : Type) (Answer : Call → Type) (α : Type)
  | done (a : α)
  | ask (c : Call) (next : Answer c → Program Call Answer α)

namespace Program

variable {Call : Type} {Answer : Call → Type} {α β γ : Type}

/-- Goes on with another program after one. -/
def bind (p : Program Call Answer α) (f : α → Program Call Answer β) : Program Call Answer β :=
  match p with
  | done a => f a
  | ask c next => ask c fun answer => (next answer).bind f

instance : Monad (Program Call Answer) where
  pure := done
  bind := bind

def call (c : Call) : Program Call Answer (Answer c) := ask c done

@[simp] theorem pure_eq (a : α) : (pure a : Program Call Answer α) = done a := rfl

@[simp] theorem done_bind (a : α) (f : α → Program Call Answer β) : (done a >>= f) = f a := rfl

@[simp] theorem ask_bind (c : Call) (next : Answer c → Program Call Answer α)
    (f : α → Program Call Answer β) :
    (ask c next >>= f) = ask c fun answer => next answer >>= f := rfl

theorem bind_done (p : Program Call Answer α) : p.bind done = p := by
  induction p with
  | done a => rfl
  | ask c next ih => simp only [bind, ih]

theorem bind_bind (p : Program Call Answer α) (f : α → Program Call Answer β)
    (g : β → Program Call Answer γ) :
    (p.bind f).bind g = p.bind fun a => (f a).bind g := by
  induction p with
  | done a => rfl
  | ask c next ih => simp only [bind, ih]

instance : LawfulMonad (Program Call Answer) :=
  LawfulMonad.mk' _ bind_done (fun _ _ => rfl) bind_bind

end Program

end BearerSession
