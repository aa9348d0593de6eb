import DynamicDns.Program

/-!
# What a program does

Rules say which calls a program may make in a state, to which states an answer can lead, and in which
states a program may fail. `Program.Obeys` says that a program makes no other calls and ends well,
however it is answered. `Program.Yields` says that a program can end with a value in a state, if its
calls are answered in certain ways.
-/

namespace DynamicDns

namespace Program

variable {ι : Type} {ρ : ι → Type} {σ α β : Type}

/-- What a program may call in a state, how its calls can be answered, and where it may fail. -/
structure Rules (ρ : ι → Type) (σ : Type) where
  allows : σ → ι → Prop
  answers : σ → (request : ι) → ρ request → σ → Prop
  fails : σ → Prop

/-- However its calls are answered, a program makes only calls that are allowed, and ends well. -/
def Obeys (rules : Rules ρ σ) (ends : α → σ → Prop) : Program ι ρ α → σ → Prop
  | .done value, s => ends value s
  | .call request next, s =>
    rules.allows s request ∧
      ∀ reply after, rules.answers s request reply after → (next reply).Obeys rules ends after

theorem obeys_bind (rules : Rules ρ σ) (ends : β → σ → Prop) (program : Program ι ρ α)
    (f : α → Program ι ρ β) (s : σ) :
    (program.bind f).Obeys rules ends s ↔
      program.Obeys rules (fun value after => (f value).Obeys rules ends after) s := by
  induction program generalizing s with
  | done value => rfl
  | call request next ih => simp only [bind, Obeys, ih]

theorem Obeys.mono {rules : Rules ρ σ} {ends ends' : α → σ → Prop} {program : Program ι ρ α} {s : σ}
    (h : program.Obeys rules ends s)
    (weaker : ∀ value after, ends value after → ends' value after) :
    program.Obeys rules ends' s := by
  induction program generalizing s with
  | done value => exact weaker _ _ h
  | call request next ih =>
    exact ⟨h.1, fun reply after answer => ih reply (h.2 reply after answer)⟩

/-! ### What a program can end with -/

variable {τ : Type} {answers : τ → (request : ι) → ρ request → τ → Prop}

/-- A program can end with a value, if its calls are answered in ways that are admitted. -/
def Yields (answers : τ → (request : ι) → ρ request → τ → Prop) :
    Program ι ρ α → τ → α → τ → Prop
  | .done value, s, result, s' => result = value ∧ s' = s
  | .call request next, s, result, s' =>
    ∃ reply after, answers s request reply after ∧ (next reply).Yields answers after result s'

/-- A program that is run with answers that are admitted yields what it ends with. -/
theorem yields_run {answer : (request : ι) → τ → ρ request × τ}
    (admits : ∀ request s, answers s request (answer request s).1 (answer request s).2)
    (program : Program ι ρ α) (s : τ) :
    program.Yields answers s (program.run answer s).1 (program.run answer s).2 := by
  induction program generalizing s with
  | done value => exact ⟨rfl, rfl⟩
  | call request next ih => exact ⟨_, _, admits request s, ih _ _⟩

/-- What a program can end with, seen through that on which its answers depend. -/
theorem Yields.map {υ : Type} {answers' : υ → (request : ι) → ρ request → υ → Prop} (view : τ → υ)
    (admits : ∀ s request reply s', answers s request reply s' →
      answers' (view s) request reply (view s'))
    {program : Program ι ρ α} {s s' : τ} {result : α} (yields : program.Yields answers s result s') :
    program.Yields answers' (view s) result (view s') := by
  induction program generalizing s with
  | done value =>
    obtain ⟨rfl, rfl⟩ := yields
    exact ⟨rfl, rfl⟩
  | call request next ih =>
    obtain ⟨reply, after, answer, yields⟩ := yields
    exact ⟨reply, view after, admits s request reply after answer, ih reply yields⟩

/-- A program ends if every call has an answer. -/
theorem exists_yields (total : ∀ s request, ∃ reply after, answers s request reply after)
    (program : Program ι ρ α) (s : τ) : ∃ result s', program.Yields answers s result s' := by
  induction program generalizing s with
  | done value => exact ⟨value, s, rfl, rfl⟩
  | call request next ih =>
    obtain ⟨reply, after, answer⟩ := total s request
    obtain ⟨result, s', yields⟩ := ih reply after
    exact ⟨result, s', reply, after, answer, yields⟩

theorem yields_bind (program : Program ι ρ α) (f : α → Program ι ρ β) (s s' : τ) (result : β) :
    (program.bind f).Yields answers s result s' ↔
      ∃ value after, program.Yields answers s value after ∧ (f value).Yields answers after result s' := by
  induction program generalizing s with
  | done value =>
    constructor
    · exact fun h => ⟨value, s, ⟨rfl, rfl⟩, h⟩
    · rintro ⟨_, _, ⟨rfl, rfl⟩, h⟩
      exact h
  | call request next ih =>
    simp only [bind, Yields, ih]
    constructor
    · rintro ⟨reply, mid, answer, value, after, first, second⟩
      exact ⟨value, after, ⟨reply, mid, answer, first⟩, second⟩
    · rintro ⟨value, after, ⟨reply, mid, answer, first⟩, second⟩
      exact ⟨reply, mid, answer, value, after, first, second⟩

/-- Where two sets of answers can be given side by side, a program that obeys rules and ends with a
value among the first can end with the same value among the second. -/
theorem Obeys.parallel {υ : Type} (answers' : υ → (request : ι) → ρ request → υ → Prop)
    {rules : Rules ρ σ} {ends : α → σ → Prop} (along : σ → τ → υ → Prop)
    (follows : ∀ s t u request reply t', along s t u → rules.allows s request →
      answers t request reply t' → ∃ s' u', rules.answers s request reply s' ∧
        answers' u request reply u' ∧ along s' t' u')
    {program : Program ι ρ α} {s : σ} {t t' : τ} {u : υ} {result : α}
    (h : program.Obeys rules ends s) (hstart : along s t u)
    (yields : program.Yields answers t result t') :
    ∃ s' u', ends result s' ∧ program.Yields answers' u result u' ∧ along s' t' u' := by
  induction program generalizing s t u with
  | done value =>
    obtain ⟨rfl, rfl⟩ := yields
    exact ⟨s, u, h, ⟨rfl, rfl⟩, hstart⟩
  | call request next ih =>
    obtain ⟨reply, after, answer, yields⟩ := yields
    obtain ⟨s', u', answered, answered', hafter⟩ := follows s t u request reply after hstart h.1 answer
    obtain ⟨s'', u'', hends, yields', hlast⟩ := ih reply (h.2 reply s' answered) hafter yields
    exact ⟨s'', u'', hends, ⟨reply, u', answered', yields'⟩, hlast⟩

/-- A program that obeys rules ends as they say, where the states of the rules go along with those
that answer. -/
theorem Obeys.of_yields {rules : Rules ρ σ} {ends : α → σ → Prop} (along : σ → τ → Prop)
    (follows : ∀ s t request reply t', along s t → rules.allows s request →
      answers t request reply t' → ∃ s', rules.answers s request reply s' ∧ along s' t')
    {program : Program ι ρ α} {s : σ} {t t' : τ} {result : α} (h : program.Obeys rules ends s)
    (hstart : along s t) (yields : program.Yields answers t result t') :
    ∃ s', ends result s' ∧ along s' t' := by
  have follows' (s : σ) (t : τ) (u : Unit) (request : ι) (reply : ρ request) (t' : τ)
      (halong : along s t) (allowed : rules.allows s request) (answer : answers t request reply t') :
      ∃ (s' : σ) (_ : Unit), rules.answers s request reply s' ∧ True ∧ along s' t' := by
    obtain ⟨s', answered, hafter⟩ := follows s t request reply t' halong allowed answer
    exact ⟨s', u, answered, trivial, hafter⟩
  obtain ⟨s', -, hends, -, hlast⟩ :=
    Obeys.parallel (fun _ _ _ _ => True) (fun s t _ => along s t) follows' h hstart (u := ()) yields
  exact ⟨s', hends, hlast⟩

/-- A program that obeys rules ends as they say, where they are those by which it is answered. -/
theorem Obeys.ends_of_yields {rules : Rules ρ σ} {ends : α → σ → Prop} {program : Program ι ρ α}
    {s s' : σ} {result : α} (h : program.Obeys rules ends s)
    (yields : program.Yields rules.answers s result s') : ends result s' := by
  induction program generalizing s with
  | done value =>
    obtain ⟨rfl, rfl⟩ := yields
    exact h
  | call request next ih =>
    obtain ⟨reply, after, answer, yields⟩ := yields
    exact ih reply (h.2 reply after answer) yields

end Program

end DynamicDns
