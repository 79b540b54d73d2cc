import Mathlib.Logic.Basic

set_option autoImplicit false

namespace Durable

-- A program over a durable state: each step happens whole or fails and changes nothing, and the program goes on by
-- what the step answered. A crash falls between two steps.
inductive Program (σ ε α : Type) : Type where
  | done (result : Except ε α)
  | step (effect : σ → Except ε σ) (next : Except ε σ → Program σ ε α)

namespace Program

variable {σ ε α β κ : Type}

def bind : Program σ ε α → (α → Program σ ε β) → Program σ ε β
  | done (.ok value), rest => rest value
  | done (.error failure), _ => done (.error failure)
  | step effect next, rest => step effect (fun answer => (next answer).bind rest)

instance : Monad (Program σ ε) where
  pure value := done (.ok value)
  bind := bind

def fail (failure : ε) : Program σ ε α := done (.error failure)

def lift (result : Except ε α) : Program σ ε α := done result

def read (view : σ → α) : Program σ ε α := step .ok (fun answer => done (answer.map view))

def act (effect : σ → Except ε σ) : Program σ ε Unit := step effect (fun answer => done (answer.map (fun _ => ())))

-- A step that answers with a value: what it will answer is settled before it happens.
def transact (effect : σ → Except ε (σ × α)) : Program σ ε α := (read (fun state => (effect state).map Prod.snd)).bind (fun answer =>
    (act (fun state => (effect state).map Prod.fst)).bind (fun _ => done answer))

def attempt : Program σ ε α → Program σ ε (Except ε α)
  | done result => done (.ok result)
  | step effect next => step effect (fun answer => (next answer).attempt)

def forEach (body : κ → Program σ ε Unit) : List κ → Program σ ε Unit
  | [] => done (.ok ())
  | item :: rest => (body item).bind (fun _ => forEach body rest)

def run : Program σ ε α → σ → σ × Except ε α
  | done result, state => (state, result)
  | step effect next, state =>
    match effect state with
    | .ok after => (next (.ok after)).run after
    | .error failure => (next (.error failure)).run state

def crash : Program σ ε α → Nat → σ → σ
  | _, 0, state => state
  | done _, _ + 1, state => state
  | step effect next, count + 1, state =>
    match effect state with
    | .ok after => (next (.ok after)).crash count after
    | .error failure => (next (.error failure)).crash count state

variable {program first : Program σ ε α} {rest : α → Program σ ε β} {final : σ} {result : Except ε β}
  {body : κ → Program σ ε Unit} {items : List κ}

section Run

theorem run_step (effect : σ → Except ε σ) (next : Except ε σ → Program σ ε α) (state : σ) :
    (step effect next).run state = match effect state with
      | .ok after => (next (.ok after)).run after
      | .error failure => (next (.error failure)).run state := by
  rw [Program.run]

theorem run_bind (first : Program σ ε α) (rest : α → Program σ ε β) (state : σ) : (first >>= rest).run state = match first.run state with
      | (after, .ok value) => (rest value).run after
      | (after, .error failure) => (after, .error failure) := by
  change (Program.bind first rest).run state = _
  induction first generalizing state with
  | done result => cases result <;> rfl
  | step effect next ih =>
    rw [Program.bind, run_step, run_step]
    cases effect state with
    | ok after => exact ih _ after
    | error => exact ih _ state

theorem run_bind_ok {state : σ} {result : β} : (first >>= rest).run state = (final, .ok result) ↔
      ∃ middle value, first.run state = (middle, .ok value) ∧ (rest value).run middle = (final, .ok result) := by
  rw [run_bind]
  constructor
  · intro done
    split at done
    · next middle value started => exact ⟨middle, value, started, done⟩
    · cases done
  · rintro ⟨middle, value, started, done⟩
    rw [started]
    exact done

theorem bind_assoc (first : Program σ ε α) (second : α → Program σ ε β) (third : β → Program σ ε κ) :
    first >>= second >>= third = first >>= fun value => second value >>= third := by
  change (first.bind second).bind third = first.bind (fun value => (second value).bind third)
  induction first with
  | done result => cases result <;> rfl
  | step effect next ih =>
    simp only [Program.bind]
    exact congrArg (step effect) (funext ih)

theorem pure_bind (value : α) (rest : α → Program σ ε β) : (pure value : Program σ ε α) >>= rest = rest value := rfl

theorem fail_bind (failure : ε) (rest : α → Program σ ε β) : (fail failure : Program σ ε α) >>= rest = fail failure := rfl

theorem ite_bind (condition : Prop) [Decidable condition] (first second : Program σ ε α) (rest : α → Program σ ε β) :
    (if condition then first else second) >>= rest = if condition then first >>= rest else second >>= rest := by
  split <;> rfl

theorem run_cases {state : σ} (ran : (first >>= rest).run state = (final, result)) :
    (∃ middle value, first.run state = (middle, .ok value) ∧ (rest value).run middle = (final, result)) ∨
      ∃ failure, first.run state = (final, .error failure) ∧ result = .error failure := by
  rw [run_bind] at ran
  split at ran
  · next middle value started => exact .inl ⟨middle, value, started, ran⟩
  · next middle failure started =>
    cases ran
    exact .inr ⟨failure, started, rfl⟩

theorem run_attempt (program : Program σ ε α) (state : σ) :
    program.attempt.run state = ((program.run state).1, .ok (program.run state).2) := by
  induction program generalizing state with
  | done => rfl
  | step effect next ih =>
    rw [Program.attempt, run_step, run_step]
    cases effect state with
    | ok after => exact ih _ after
    | error => exact ih _ state

theorem run_attempt_ok {program : Program σ ε α} {state final : σ} {outcome : Except ε α}
    (ran : program.attempt.run state = (final, .ok outcome)) : program.run state = (final, outcome) := by
  rw [run_attempt] at ran
  cases ran
  rfl

theorem run_pure {value : α} {state final : σ} {result : α} :
    (pure value : Program σ ε α).run state = (final, .ok result) ↔ final = state ∧ result = value := by
  change ((state, Except.ok value) : σ × Except ε α) = _ ↔ _
  simp [Prod.ext_iff, eq_comm]

theorem run_fail {failure : ε} {state final : σ} {result : α} : (fail failure : Program σ ε α).run state ≠ (final, .ok result) := by
  intro done
  cases done

theorem run_read (view : σ → α) (state : σ) : (read view : Program σ ε α).run state = (state, .ok (view state)) := rfl

theorem run_act (effect : σ → Except ε σ) (state final : σ) : (act effect).run state = (final, .ok ()) ↔ effect state = .ok final := by
  unfold act Program.run
  cases effect state with
  | ok | error => simp [Program.run, Except.map]

theorem run_lift {answer : Except ε α} {state final : σ} {value : α} :
    (lift answer : Program σ ε α).run state = (final, .ok value) ↔ final = state ∧ answer = .ok value := by
  change ((state, answer) : σ × Except ε α) = _ ↔ _
  simp [Prod.ext_iff, eq_comm]

end Run

section Ends
variable {ok : α → σ → Prop} {err : ε → σ → Prop} {state : σ}

def Ends (ok : α → σ → Prop) (err : ε → σ → Prop) (program : Program σ ε α) (state : σ) : Prop :=
  match program.run state with
  | (final, .ok value) => ok value final
  | (final, .error failure) => err failure final

theorem ends_iff : Ends ok err program state ↔ (∀ final value, program.run state = (final, .ok value) → ok value final) ∧
      ∀ final failure, program.run state = (final, .error failure) → err failure final := by
  unfold Ends
  cases program.run state with
  | mk final result => cases result <;> simp

theorem ends_bind {first : Program σ ε β} {rest : β → Program σ ε α} :
    Ends ok err (first >>= rest) state ↔ Ends (fun value => Ends ok err (rest value)) err first state := by
  unfold Ends
  rw [run_bind]
  cases first.run state with
  | mk middle result => cases result <;> rfl

theorem ends_attempt {program : Program σ ε β} {ok : Except ε β → σ → Prop} :
    Ends ok err program.attempt state ↔ Ends (fun value => ok (.ok value)) (fun failure => ok (.error failure)) program state := by
  unfold Ends
  rw [run_attempt]
  cases program.run state with
  | mk middle result => cases result <;> rfl

theorem ends_read (view : σ → α) : Ends ok err (read view) state ↔ ok (view state) state := Iff.rfl

theorem Ends.mono {ok' : α → σ → Prop} {err' : ε → σ → Prop} (ends : Ends ok err program state)
    (well : ∀ value final, ok value final → ok' value final)
    (ill : ∀ failure final, err failure final → err' failure final) : Ends ok' err' program state := by
  rw [ends_iff] at ends ⊢
  exact ⟨fun final value ran => well _ _ (ends.1 final value ran), fun final failure ran => ill _ _ (ends.2 final failure ran)⟩

end Ends

-- Every state a crash can leave satisfies the first condition, and the end of the program the second.
def Holds (crashed : σ → Prop) (ends : Except ε α → σ → Prop) : Program σ ε α → σ → Prop
  | done result, state => crashed state ∧ ends result state
  | step effect next, state => crashed state ∧ (∀ after, effect state = .ok after → Holds crashed ends (next (.ok after)) after) ∧
    (∀ failure, effect state = .error failure → Holds crashed ends (next (.error failure)) state)

section Rules
variable {crashed : σ → Prop} {ends : Except ε α → σ → Prop}

theorem Holds.crash {state : σ} (holds : Holds crashed ends program state) (count : Nat) : crashed (program.crash count state) := by
  induction count generalizing program state with
  | zero =>
    cases program with
    | done | step => exact holds.1
  | succ count ih =>
    cases program with
    | done => exact holds.1
    | step effect =>
      obtain ⟨_, continues, fails⟩ := holds
      unfold Program.crash
      cases answer : effect state with
      | ok after => exact ih (continues after answer)
      | error failure => exact ih (fails failure answer)

theorem Holds.run {state : σ} (holds : Holds crashed ends program state) :
    crashed (program.run state).1 ∧ ends (program.run state).2 (program.run state).1 := by
  induction program generalizing state with
  | done => exact holds
  | step effect next ih =>
    obtain ⟨_, continues, fails⟩ := holds
    unfold Program.run
    cases answer : effect state with
    | ok after => exact ih _ (continues after answer)
    | error failure => exact ih _ (fails failure answer)

theorem Holds.mono {crashed' : σ → Prop} {ends' : Except ε α → σ → Prop} {state : σ}
    (holds : Holds crashed ends program state) (wider : ∀ state, crashed state → crashed' state)
    (weaker : ∀ result state, crashed state → ends result state → ends' result state) :
    Holds crashed' ends' program state := by
  induction program generalizing state with
  | done => exact ⟨wider _ holds.1, weaker _ _ holds.1 holds.2⟩
  | step effect next ih =>
    obtain ⟨here, continues, fails⟩ := holds
    exact ⟨wider _ here, fun after answer => ih _ (continues after answer), fun failure answer => ih _ (fails failure answer)⟩

-- The rule of sequence: a failure ends the program, a value goes on.
theorem Holds.bind {ends : Except ε β → σ → Prop} {state : σ}
    (holds : Holds crashed (fun answer after => match answer with | .ok value => Holds crashed ends (rest value) after | .error failure => ends (.error failure) after) first state) :
    Holds crashed ends (first >>= rest) state := by
  induction first generalizing state with
  | done result =>
    cases result with
    | ok => exact holds.2
    | error => exact holds
  | step effect next ih =>
    obtain ⟨here, continues, fails⟩ := holds
    exact ⟨here, fun after answer => ih _ (continues after answer), fun failure answer => ih _ (fails failure answer)⟩

theorem Holds.attempt {ends : Except ε (Except ε α) → σ → Prop} {state : σ}
    (holds : Holds crashed (fun answer after => ends (.ok answer) after) program state) :
    Holds crashed ends program.attempt state := by
  induction program generalizing state with
  | done => exact holds
  | step effect next ih =>
    obtain ⟨here, continues, fails⟩ := holds
    exact ⟨here, fun after answer => ih _ (continues after answer), fun failure answer => ih _ (fails failure answer)⟩

variable {state : σ}

theorem Holds.pure {value : α} (here : crashed state) (ending : ends (.ok value) state) : Holds crashed ends (pure value) state :=
  ⟨here, ending⟩

theorem Holds.fail {failure : ε} (here : crashed state) (ending : ends (.error failure) state) :
    Holds crashed ends (fail failure) state :=
  ⟨here, ending⟩

theorem Holds.lift {result : Except ε α} (here : crashed state) (ending : ends result state) : Holds crashed ends (lift result) state :=
  ⟨here, ending⟩

theorem Holds.read {view : σ → α} (here : crashed state) (ending : ends (.ok (view state)) state) :
    Holds crashed ends (read view) state := by
  refine ⟨here, fun after answer => ?_, fun failure answer => by cases answer⟩
  cases answer
  exact ⟨here, ending⟩

theorem Holds.act {ends : Except ε Unit → σ → Prop} {effect : σ → Except ε σ} (here : crashed state)
    (done : ∀ after, effect state = .ok after → crashed after ∧ ends (.ok ()) after)
    (failed : ∀ failure, effect state = .error failure → ends (.error failure) state) :
    Holds crashed ends (act effect) state :=
  ⟨here, done, fun failure answer => ⟨here, failed failure answer⟩⟩

theorem Holds.transact {effect : σ → Except ε (σ × α)} (here : crashed state)
    (done : ∀ after value, effect state = .ok (after, value) → crashed after ∧ ends (.ok value) after)
    (failed : ∀ failure, effect state = .error failure → ends (.error failure) state) :
    Holds crashed ends (Program.transact effect) state := by
  refine Holds.bind (Holds.read here (Holds.bind (Holds.act here (fun after answer => ?_) (fun failure answer => ?_))))
  · cases found : effect state with
    | error => rw [found] at answer; cases answer
    | ok pair =>
      rw [found] at answer
      cases answer
      obtain ⟨kept, ending⟩ := done pair.1 pair.2 found
      exact ⟨kept, kept, ending⟩
  · cases found : effect state with
    | error =>
      rw [found] at answer
      cases answer
      exact failed failure found
    | ok => rw [found] at answer; cases answer

theorem Holds.sequel {ends : Except ε β → σ → Prop} {state : σ} (holds : Holds crashed (fun _ _ => True) first state)
    (continues : ∀ value after, crashed after → Holds crashed ends (rest value) after)
    (failed : ∀ failure after, crashed after → ends (.error failure) after) : Holds crashed ends (first >>= rest) state := by
  refine Holds.bind (holds.mono (fun _ held => held) (fun answer after held _ => ?_))
  cases answer with
  | ok value => exact continues value after held
  | error failure => exact failed failure after held

theorem Holds.onward {state : σ} (holds : Holds crashed (fun _ _ => True) first state)
    (continues : ∀ value after, crashed after → Holds crashed (fun _ _ => True) (rest value) after) :
    Holds crashed (fun _ _ => True) (first >>= rest) state :=
  holds.sequel continues (fun _ _ _ => trivial)

theorem Holds.forEach {state : σ} (start : crashed state)
    (each : ∀ item ∈ items, ∀ before, crashed before → Holds crashed (fun _ _ => True) (body item) before) :
    Holds crashed (fun _ _ => True) (forEach body items) state := by
  induction items generalizing state with
  | nil => exact ⟨start, trivial⟩
  | cons item rest ih =>
    refine Holds.bind ((each item List.mem_cons_self state start).mono (fun _ held => held) ?_)
    intro answer after held _
    cases answer with
    | ok => exact ih held (fun other member => each other (List.mem_cons_of_mem _ member))
    | error => trivial

-- What one iteration of a loop brings about and the others keep, a loop that runs to its end has brought about.
theorem Holds.forEach_met {goal : σ → Prop} {item : κ} {state : σ} (member : item ∈ items) (start : crashed state)
    (meets : ∀ before, crashed before → Holds crashed (fun answer after => answer = .ok () → goal after) (body item) before)
    (keeps : ∀ other ∈ items, ∀ before, crashed before → Holds crashed (fun _ after => goal before → goal after) (body other) before) :
    Holds crashed (fun answer after => answer = .ok () → goal after) (Program.forEach body items) state := by
  have stays : ∀ (rest : List κ) (before : σ), (∀ other ∈ rest, other ∈ items) → crashed before → goal before →
      Holds crashed (fun _ after => goal after) (Program.forEach body rest) before := by
    intro rest
    induction rest with
    | nil => exact fun before _ held reached => ⟨held, reached⟩
    | cons other rest ih =>
      intro before inside held reached
      refine Holds.bind ((keeps other (inside other List.mem_cons_self) before held).mono (fun _ kept => kept) ?_)
      intro answer after kept still
      cases answer with
      | ok => exact ih after (fun one here => inside one (List.mem_cons_of_mem _ here)) kept (still reached)
      | error => exact still reached
  have upTo : ∀ (rest : List κ) (before : σ), (∀ other ∈ rest, other ∈ items) → item ∈ rest → crashed before →
      Holds crashed (fun answer after => answer = .ok () → goal after) (Program.forEach body rest) before := by
    intro rest
    induction rest with
    | nil => exact fun _ _ none => absurd none List.not_mem_nil
    | cons other rest ih =>
      intro before inside wanted held
      have tail : ∀ one ∈ rest, one ∈ items := fun one here => inside one (List.mem_cons_of_mem _ here)
      by_cases first : item = other
      · subst first
        refine Holds.bind ((meets before held).mono (fun _ kept => kept) ?_)
        intro answer after kept reached
        cases answer with
        | ok => exact (stays rest after tail kept (reached rfl)).mono (fun _ kept => kept) (fun _ _ _ now _ => now)
        | error => exact fun ok => by cases ok
      · have later : item ∈ rest := (List.mem_cons.mp wanted).resolve_left first
        refine Holds.bind ((keeps other (inside other List.mem_cons_self) before held).mono (fun _ kept => kept) ?_)
        intro answer after kept _
        cases answer with
        | ok => exact ih after tail later kept
        | error => exact fun ok => by cases ok
  exact upTo items state (fun _ here => here) member start

end Rules

-- From here on programs are reasoned about by the rules alone.
attribute [irreducible] Holds

end Program
end Durable
