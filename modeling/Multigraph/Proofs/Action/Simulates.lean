import Mathlib.Data.List.Forall2
import Multigraph.Proofs.Action.Loop

/-!
Two runs side by side. An action simulates another under a relation of their states when, from
related states, it succeeds wherever the other does, with a related answer and in a related state.
What is put together in the same way from actions that simulate each other does so too, loops over
related lists included, so it is enough to look at the primitive steps.
-/
namespace Multigraph.Action

variable {σ τ α β γ δ : Type}

/-- Where the first check succeeds, so does the second, with a related value. -/
def Yields (P : α → β → Prop) (checked : Except Failure α) (other : Except Failure β) : Prop :=
  ∀ value, checked = .ok value → ∃ value', other = .ok value' ∧ P value value'

/-- From related states, the second action succeeds where the first does; answers and states are
related again. -/
def Simulates (I : σ → τ → Prop) (P : α → β → Prop) (action : Action σ α) (other : Action τ β) :
    Prop :=
  ∀ state start answer reached, I state start → action state = .ok answer reached →
    ∃ answer' reached', other start = .ok answer' reached' ∧ P answer answer' ∧ I reached reached'

variable {I : σ → τ → Prop} {P : α → β → Prop} {Q : γ → δ → Prop}

/-! ## Checks -/

theorem yields_ok {value : α} {value' : β} (related : P value value') :
    Yields P (.ok value) (.ok value') := by
  rintro _ ⟨⟩
  exact ⟨value', rfl, related⟩

theorem yields_error (failure : Failure) (other : Except Failure β) :
    Yields P (.error failure) other := by
  rintro _ ⟨⟩

theorem yields_bind {checked : Except Failure α} {other : Except Failure β}
    {next : α → Except Failure γ} {onward : β → Except Failure δ} (first : Yields P checked other)
    (rest : ∀ value value', P value value' → Yields Q (next value) (onward value')) :
    Yields Q (checked >>= next) (other >>= onward) := by
  cases checked with
  | error failure => exact yields_error failure _
  | ok value =>
    obtain ⟨value', there, related⟩ := first value rfl
    rw [there]
    exact rest value value' related

/-- Checks that succeed under equivalent conditions. -/
theorem yields_ite {c d : Prop} [Decidable c] [Decidable d] {value : Except Failure α}
    {value' : Except Failure β} {failure failure' : Failure} (same : c ↔ d)
    (related : Yields P value value') :
    Yields P (if c then value else .error failure) (if d then value' else .error failure') := by
  by_cases holds : c
  · rw [if_pos holds, if_pos (same.mp holds)]
    exact related
  · rw [if_neg holds]
    exact yields_error failure _

/-! ## Single actions -/

theorem simulates_pure {answer : α} {answer' : β} (related : P answer answer') :
    Simulates I P (pure answer) (pure answer') := by
  rintro state start _ _ states ⟨⟩
  exact ⟨answer', start, rfl, related, states⟩

theorem simulates_get : Simulates I I get get := by
  rintro state start _ _ states ⟨⟩
  exact ⟨start, start, rfl, states, states⟩

theorem simulates_modifyGet {change : σ → α × σ} {other : τ → β × τ}
    (related : ∀ state start, I state start →
      P (change state).1 (other start).1 ∧ I (change state).2 (other start).2) :
    Simulates I P (modifyGet change) (modifyGet other) := by
  rintro state start _ _ states ⟨⟩
  obtain ⟨answers, reached⟩ := related state start states
  exact ⟨(other start).1, (other start).2, rfl, answers, reached⟩

theorem simulates_modify {change : σ → σ} {other : τ → τ}
    (related : ∀ state start, I state start → I (change state) (other start)) :
    Simulates I (· = ·) (modify change) (modify other) := by
  rintro state start _ _ states ⟨⟩
  exact ⟨(), other start, rfl, rfl, related state start states⟩

theorem simulates_query {question : σ → Except Failure α} {other : τ → Except Failure β}
    (related : ∀ state start, I state start → Yields P (question state) (other start)) :
    Simulates I P (query question) (query other) := by
  intro state start answer reached states ran
  cases asked : question state with
  | error failure =>
    rw [query_of_error asked] at ran
    cases ran
  | ok value =>
    obtain ⟨value', there, answers⟩ := related state start states value asked
    rw [query_of_ok asked] at ran
    cases ran
    exact ⟨value', start, query_of_ok there, answers, states⟩

theorem simulates_ofExcept {checked : Except Failure α} {other : Except Failure β}
    (related : Yields P checked other) : Simulates I P (ofExcept checked) (ofExcept other) :=
  simulates_query fun _ _ _ => related

theorem simulates_bind {action : Action σ α} {other : Action τ β} {next : α → Action σ γ}
    {onward : β → Action τ δ} (first : Simulates I P action other)
    (rest : ∀ answer answer', P answer answer' → Simulates I Q (next answer) (onward answer')) :
    Simulates I Q (action >>= next) (other >>= onward) := by
  intro state start answer reached states ran
  obtain ⟨found, between, here, later⟩ := of_bind_ok ran
  obtain ⟨found', between', there, answers, middle⟩ := first _ _ _ _ states here
  obtain ⟨answer', reached', after, related, final⟩ :=
    rest found found' answers _ _ _ _ middle later
  exact ⟨answer', reached', (bind_of_ok there).trans after, related, final⟩

/-- What is done with related states that have been read simulates each other from these states. -/
theorem simulates_from {state : σ} {start : τ} (states : I state start) {next : σ → Action σ α}
    {onward : τ → Action τ β} (rest : Simulates I P (next state) (onward start)) {answer : α}
    {reached : σ} (ran : (get >>= next) state = .ok answer reached) :
    ∃ answer' reached', (get >>= onward) start = .ok answer' reached' ∧ P answer answer' ∧
      I reached reached' :=
  rest state start answer reached states ran

theorem simulates_discard {action : Action σ α} {other : Action τ β}
    (first : Simulates I P action other) :
    Simulates I (· = ·) (discard action) (discard other) := by
  have dropped : ∀ {σ α : Type} (action : Action σ α),
      discard action = action >>= fun _ => pure () := by
    intro σ α action
    funext state
    simp only [discard, Functor.discard, Functor.mapConst, Function.comp_apply, EStateM.map, bind,
      EStateM.bind]
    cases action state with
    | ok found reached => rfl
    | error failure reached => rfl
  rw [dropped, dropped]
  exact simulates_bind first fun _ _ _ => simulates_pure rfl

/-- Actions that branch alike. -/
theorem simulates_ite {c d : Prop} [Decidable c] [Decidable d] {yes no : Action σ α}
    {yes' no' : Action τ β} (same : c ↔ d) (holds : Simulates I P yes yes')
    (fails : Simulates I P no no') :
    Simulates I P (if c then yes else no) (if d then yes' else no') := by
  by_cases taken : c
  · rw [if_pos taken, if_pos (same.mp taken)]
    exact holds
  · rw [if_neg taken, if_neg fun other => taken (same.mpr other)]
    exact fails

/-- An action on a part, when the parts of related states are related and stay so. -/
theorem simulates_within {σ' τ' : Type} {J : σ' → τ' → Prop} {get : σ' → σ} {put : σ → σ' → σ'}
    {get' : τ' → τ} {put' : τ → τ' → τ'} {action : Action σ α} {other : Action τ β}
    (parts : ∀ whole whole', J whole whole' → I (get whole) (get' whole'))
    (wholes : ∀ whole whole' part part', J whole whole' → I part part' →
      J (put part whole) (put' part' whole'))
    (inner : Simulates I P action other) :
    Simulates J P (within get put action) (within get' put' other) := by
  intro state start answer reached states ran
  obtain ⟨part, here, rfl⟩ := of_within_ok ran
  obtain ⟨answer', part', there, answers, related⟩ := inner _ _ _ _ (parts state start states) here
  exact ⟨answer', put' part' start, within_of_ok there, answers,
    wholes state start part part' states related⟩

/-! ## Loops -/

variable {R : α → β → Prop} {l : List α} {l' : List β}

theorem simulates_forM {pass : α → Action σ Unit} {other : β → Action τ Unit}
    (lists : List.Forall₂ R l l')
    (each : ∀ a b, R a b → Simulates I (· = ·) (pass a) (other b)) :
    Simulates I (· = ·) (l.forM pass) (l'.forM other) := by
  induction lists with
  | nil => exact simulates_pure rfl
  | cons related _ ih => exact simulates_bind (each _ _ related) fun _ _ _ => ih

theorem simulates_foldlM {pass : γ → α → Action σ γ} {other : δ → β → Action τ δ}
    (lists : List.Forall₂ R l l')
    (each : ∀ c d, Q c d → ∀ a b, R a b → Simulates I Q (pass c a) (other d b)) {start : γ}
    {start' : δ} (first : Q start start') :
    Simulates I Q (l.foldlM pass start) (l'.foldlM other start') := by
  induction lists generalizing start start' with
  | nil => exact simulates_pure first
  | cons related _ ih =>
    rw [List.foldlM_cons, List.foldlM_cons]
    exact simulates_bind (each _ _ first _ _ related) fun _ _ next => ih next

theorem simulates_mapM {pass : α → Action σ γ} {other : β → Action τ δ}
    (lists : List.Forall₂ R l l') (each : ∀ a b, R a b → Simulates I Q (pass a) (other b)) :
    Simulates I (List.Forall₂ Q) (l.mapM pass) (l'.mapM other) := by
  induction lists with
  | nil => exact simulates_pure .nil
  | cons related _ ih =>
    rw [List.mapM_cons, List.mapM_cons]
    exact simulates_bind (each _ _ related) fun _ _ found =>
      simulates_bind ih fun _ _ rest => simulates_pure (.cons found rest)

end Multigraph.Action
