import Mathlib.Logic.Basic

set_option autoImplicit false

namespace Transaction

universe u v w

variable {σ : Type u} {κ : Type v} {ε : Type w} {α β : Type u}

-- A command commits and yields the next state, or fails and changes nothing.
def step (execute : σ → κ → Except ε σ) (state : σ) (command : κ) : σ :=
  match execute state command with
  | .ok next => next
  | .error _ => state

def run (execute : σ → κ → Except ε σ) (state : σ) (commands : List κ) : σ := commands.foldl (step execute) state

def Meets (execute : σ → κ → Except ε σ) (condition : σ → κ → Prop) : σ → List κ → Prop
  | _, [] => True
  | state, command :: rest => condition state command ∧ Meets execute condition (step execute state command) rest

instance decidableMeets (execute : σ → κ → Except ε σ) (condition : σ → κ → Prop)
    [decide : ∀ state command, Decidable (condition state command)] :
    ∀ (state : σ) (commands : List κ), Decidable (Meets execute condition state commands)
  | _, [] => .isTrue trivial
  | state, command :: rest =>
    have := decide state command
    have := decidableMeets execute condition (step execute state command) rest
    inferInstanceAs (Decidable (_ ∧ _))

section Except
variable {γ δ η : Type u}

theorem bind_ok {first : Except ε α} {rest : α → Except ε β} {result : β} :
    first.bind rest = .ok result ↔ ∃ value, first = .ok value ∧ rest value = .ok result := by
  cases first with
  | error | ok => simp [Except.bind]

theorem bind2_ok {first : Except ε α} {second : α → Except ε β} {rest : α → β → Except ε γ} {result : γ}
    (done : (first.bind fun one => (second one).bind (rest one)) = .ok result) :
    ∃ one, first = .ok one ∧ ∃ two, second one = .ok two ∧ rest one two = .ok result := by
  obtain ⟨one, met, done⟩ := bind_ok.mp done
  exact ⟨one, met, bind_ok.mp done⟩

theorem bind3_ok {first : Except ε α} {second : α → Except ε β} {third : α → β → Except ε γ} {rest : α → β → γ → Except ε δ} {result : δ}
    (done : (first.bind fun one => (second one).bind fun two => (third one two).bind (rest one two)) = .ok result) :
    ∃ one, first = .ok one ∧ ∃ two, second one = .ok two ∧ ∃ three, third one two = .ok three ∧ rest one two three = .ok result := by
  obtain ⟨one, met, done⟩ := bind_ok.mp done
  exact ⟨one, met, bind2_ok done⟩

theorem bind4_ok {first : Except ε α} {second : α → Except ε β} {third : α → β → Except ε γ}
    {fourth : α → β → γ → Except ε δ} {rest : α → β → γ → δ → Except ε η} {result : η}
    (done : (first.bind fun one => (second one).bind fun two => (third one two).bind fun three =>
      (fourth one two three).bind (rest one two three)) = .ok result) :
    ∃ one, first = .ok one ∧ ∃ two, second one = .ok two ∧ ∃ three, third one two = .ok three ∧
      ∃ four, fourth one two three = .ok four ∧ rest one two three four = .ok result := by
  obtain ⟨one, met, done⟩ := bind_ok.mp done
  exact ⟨one, met, bind3_ok done⟩

theorem ok_of_any (result : Except ε α) (test : α → Bool) (found : result.toOption.any test = true) :
    ∃ value, result = .ok value ∧ test value = true := by
  cases result with
  | error => cases found
  | ok value => exact ⟨value, rfl, found⟩

-- A loop over a list whose body may fail: what every successful iteration keeps, the whole loop keeps.
theorem loop_keeps {body : σ → κ → Except ε σ} (inv : σ → Prop) {items : List κ}
    (keep : ∀ item ∈ items, ∀ before after, inv before → body before item = .ok after → inv after)
    {first last : σ} (start : inv first) (done : items.foldlM body first = .ok last) : inv last := by
  induction items generalizing first with
  | nil =>
    cases done
    exact start
  | cons item rest ih =>
    obtain ⟨middle, head, tail⟩ := bind_ok.mp done
    exact ih (fun other member => keep other (List.mem_cons_of_mem _ member))
      (keep item List.mem_cons_self first middle start head) tail

theorem loop_relates {body : σ → κ → Except ε σ} (related : σ → σ → Prop) {items : List κ} (reflexive : ∀ state, related state state)
    (transitive : ∀ first second third, related first second → related second third → related first third)
    (each : ∀ item ∈ items, ∀ before after, body before item = .ok after → related before after)
    {first last : σ} (done : items.foldlM body first = .ok last) : related first last :=
  loop_keeps (related first)
    (fun item member before after sofar stepped => transitive _ _ _ sofar (each item member before after stepped))
    (reflexive first) done

theorem loop_remaining {body : σ → κ → Except ε σ} (inv : List κ → σ → Prop)
    (each : ∀ item rest before after, inv (item :: rest) before → body before item = .ok after → inv rest after)
    {items : List κ} {first last : σ} (start : inv items first) (done : items.foldlM body first = .ok last) :
    inv [] last := by
  induction items generalizing first with
  | nil =>
    cases done
    exact start
  | cons item rest ih =>
    obtain ⟨middle, head, tail⟩ := bind_ok.mp done
    exact ih (each item rest first middle start head) tail

theorem loop_succeeds (body : σ → κ → Except ε σ) (inv : List κ → σ → Prop)
    (each : ∀ item rest before, inv (item :: rest) before → ∃ after, body before item = .ok after ∧ inv rest after)
    (items : List κ) (first : σ) (start : inv items first) : ∃ last, items.foldlM body first = .ok last := by
  induction items generalizing first with
  | nil => exact ⟨first, rfl⟩
  | cons item rest ih =>
    obtain ⟨middle, head, kept⟩ := each item rest first start
    obtain ⟨last, tail⟩ := ih middle kept
    refine ⟨last, ?_⟩
    rw [List.foldlM_cons]
    exact bind_ok.mpr ⟨middle, head, tail⟩

theorem loop_reaches (body : σ → κ → Except ε σ) (inv : σ → Prop) (items : List κ)
    (each : ∀ item before, inv before → ∃ after, body before item = .ok after ∧ inv after)
    (first : σ) (start : inv first) : ∃ last, items.foldlM body first = .ok last ∧ inv last := by
  obtain ⟨last, done⟩ := loop_succeeds body (fun _ => inv) (fun item _ before held => each item before held) items first start
  refine ⟨last, done, loop_keeps inv (fun item _ before after held stepped => ?_) start done⟩
  obtain ⟨same, again, kept⟩ := each item before held
  rw [stepped] at again
  cases again
  exact kept

end Except

variable (execute : σ → κ → Except ε σ)

theorem ok_of_isOk (state : σ) (command : κ) (done : (execute state command).isOk = true) :
    execute state command = .ok (step execute state command) := by
  unfold step
  cases result : execute state command with
  | ok => rfl
  | error => simp [result, Except.isOk, Except.toBool] at done

theorem step_cases (state : σ) (command : κ) :
    step execute state command = state ∨ execute state command = .ok (step execute state command) := by
  unfold step
  cases execute state command with
  | ok => exact .inr rfl
  | error => exact .inl rfl

theorem run_append (state : σ) (before after : List κ) :
    run execute state (before ++ after) = run execute (run execute state before) after :=
  List.foldl_append

variable {execute}

theorem step_of_ok {state next : σ} {command : κ} (done : execute state command = .ok next) : step execute state command = next := by
  simp only [step, done]

theorem step_keeps (inv : σ → Prop) (condition : σ → κ → Prop)
    (keep : ∀ before command after, inv before → condition before command → execute before command = .ok after → inv after)
    {state : σ} {command : κ} (start : inv state) (met : condition state command) : inv (step execute state command) := by
  rcases step_cases execute state command with same | done
  · rw [same]
    exact start
  · exact keep state command _ start met done

-- The invariant rule: what every committed command keeps when its condition
-- is met holds after every run that meets it throughout.
theorem run_keeps (inv : σ → Prop) {condition : σ → κ → Prop}
    (keep : ∀ before command after, inv before → condition before command → execute before command = .ok after → inv after)
    {commands : List κ} {state : σ} (start : inv state) (met : Meets execute condition state commands) :
    inv (run execute state commands) := by
  induction commands generalizing state with
  | nil => exact start
  | cons command rest ih =>
    exact ih (step_keeps inv condition keep start met.1) met.2

-- The rule for a loop whose every iteration meets its condition; the invariant speaks of the items already done.
theorem loop_met (condition : σ → κ → Prop) (inv : List κ → σ → Prop)
    (each : ∀ sofar item before after, inv sofar before → condition before item →
      execute before item = .ok after → inv (sofar ++ [item]) after)
    (items sofar : List κ) (first last : σ) (start : inv sofar first) (met : Meets execute condition first items)
    (done : items.foldlM execute first = .ok last) : inv (sofar ++ items) last := by
  induction items generalizing sofar first with
  | nil =>
    cases done
    simpa using start
  | cons item rest ih =>
    obtain ⟨middle, head, tail⟩ := bind_ok.mp done
    have remaining := met.2
    rw [step_of_ok head] at remaining
    simpa using ih (sofar ++ [item]) middle (each sofar item first middle start met.1 head) remaining tail

theorem meets_of_forall {condition : σ → κ → Prop} {commands : List κ}
    (met : ∀ state, ∀ command ∈ commands, condition state command) {state : σ} : Meets execute condition state commands := by
  induction commands generalizing state with
  | nil => trivial
  | cons command rest ih =>
    exact ⟨met state command List.mem_cons_self, ih (fun other later member => met other later (List.mem_cons_of_mem _ member))⟩

end Transaction
