/-!
# Programs over calls

What the operator does is a tree: either it is done, or it makes a call and goes on depending on the
answer. Nothing is said here about where answers come from, so one program can be run against a
scripted server, against objects in memory, or one call at a time between the calls of others.
-/

namespace DynamicDns

/-- A program that makes calls in `ι`, each answered by a value of its own reply type. -/
inductive Program (ι : Type) (ρ : ι → Type) (α : Type) where
  | done (value : α)
  | call (request : ι) (next : ρ request → Program ι ρ α)

namespace Program

variable {ι : Type} {ρ : ι → Type} {α β γ : Type}

/-- Goes on with a second program where the first is done. -/
def bind : Program ι ρ α → (α → Program ι ρ β) → Program ι ρ β
  | .done value, f => f value
  | .call request next, f => .call request fun reply => (next reply).bind f

instance : Monad (Program ι ρ) where
  pure := .done
  bind := bind

theorem bind_done (program : Program ι ρ α) : program.bind .done = program := by
  induction program with
  | done value => rfl
  | call request next ih => simp only [bind, ih]

theorem bind_assoc (program : Program ι ρ α) (f : α → Program ι ρ β) (g : β → Program ι ρ γ) :
    (program.bind f).bind g = program.bind fun value => (f value).bind g := by
  induction program with
  | done value => rfl
  | call request next ih => simp only [bind, ih]

instance : LawfulMonad (Program ι ρ) :=
  LawfulMonad.mk' (Program ι ρ) bind_done (fun _ _ => rfl) bind_assoc

def ask (request : ι) : Program ι ρ (ρ request) := .call request .done

/-- Makes other calls in the place of each call. -/
def expand {ι' : Type} {ρ' : ι' → Type} (carryOut : (request : ι) → Program ι' ρ' (ρ request)) :
    Program ι ρ α → Program ι' ρ' α
  | .done value => .done value
  | .call request next => (carryOut request).bind fun reply => (next reply).expand carryOut

/-- Runs a program with answers that may depend on, and change, a state. -/
def run {σ : Type} (answer : (request : ι) → σ → ρ request × σ) : Program ι ρ α → σ → α × σ
  | .done value, s => (value, s)
  | .call request next, s =>
    let (reply, after) := answer request s
    (next reply).run answer after

/-- A sequence of programs is run one after the other. -/
theorem run_bind {σ : Type} (answer : (request : ι) → σ → ρ request × σ)
    (program : Program ι ρ α) (f : α → Program ι ρ β) (s : σ) :
    (program >>= f).run answer s =
      (f (program.run answer s).1).run answer (program.run answer s).2 := by
  change (program.bind f).run answer s = _
  induction program generalizing s with
  | done value => rfl
  | call request next ih => exact ih _ _

end Program

end DynamicDns
