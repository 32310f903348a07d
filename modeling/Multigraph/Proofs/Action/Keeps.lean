import Mathlib.Order.Defs.Unbundled
import Multigraph.Action

/-!
What actions keep. An action keeps a relation when the state it was given is always related to
the state it leaves, whether it succeeds or fails. A preorder that the steps of an action keep is
kept by the whole of it, so it is enough to look at the primitive steps.
-/
namespace Multigraph.Action

variable {σ τ α β : Type} {R : σ → σ → Prop}

/-- Every state is related to the one that the action leaves of it, in success and in failure. -/
def Keeps (R : σ → σ → Prop) (action : Action σ α) : Prop := ∀ state, R state (action.after state)

theorem after_of_ok {action : Action σ α} {state reached : σ} {answer : α}
    (ran : action state = .ok answer reached) : action.after state = reached := by
  simp only [after, ran]

theorem after_of_error {action : Action σ α} {state reached : σ} {failure : Failure}
    (ran : action state = .error failure reached) : action.after state = reached := by
  simp only [after, ran]

/-- What an action keeps is so of the state that it reaches. -/
theorem Keeps.reached {action : Action σ α} {state reached : σ} {answer : α}
    (kept : Keeps R action) (ran : action state = .ok answer reached) : R state reached :=
  after_of_ok ran ▸ kept state

theorem keeps_modify {change : σ → σ} (related : ∀ state, R state (change state)) :
    Keeps R (modify change : Action σ Unit) := fun state => related state

theorem keeps_ite {c : Prop} [Decidable c] {yes no : Action σ α} (kept : Keeps R yes)
    (other : Keeps R no) : Keeps R (if c then yes else no) := by
  split
  · exact kept
  · exact other

/-- What is kept of a part is kept of the whole, as far as the whole follows its part. -/
theorem keeps_within {S : τ → τ → Prop} {get : τ → σ} {put : σ → τ → τ} {action : Action σ α}
    (kept : Keeps R action)
    (follows : ∀ whole part, R (get whole) part → S whole (put part whole)) :
    Keeps S (within get put action) := by
  intro whole
  have related := kept (get whole)
  cases ran : action (get whole) with
  | ok answer part =>
    have outer : within get put action whole = .ok answer (put part whole) := by
      simp only [within, ran]
    rw [after_of_ok outer]
    exact follows whole part (after_of_ok ran ▸ related)
  | error failure part =>
    have outer : within get put action whole = .error failure (put part whole) := by
      simp only [within, ran]
    rw [after_of_error outer]
    exact follows whole part (after_of_error ran ▸ related)

/-- A part of the state is later what it was. -/
def Same {γ : Type} (part : σ → γ) (state later : σ) : Prop := part later = part state

instance {γ : Type} (part : σ → γ) : IsPreorder σ (Same part) where
  refl _ := rfl
  trans _ _ _ first second := second.trans first

/-- What a preorder says of a part of the state is a preorder of the states. -/
instance {γ : Type} (S : γ → γ → Prop) [IsPreorder γ S] (part : σ → γ) :
    IsPreorder σ (InvImage S part) where
  refl state := refl (part state)
  trans _ _ _ first second := IsTrans.trans (r := S) _ _ _ first second

theorem after_congr {action other : Action σ α} {state start : σ}
    (same : action state = other start) : action.after state = other.after start := by
  simp only [after, same]

theorem within_after {get : τ → σ} {put : σ → τ → τ} (action : Action σ α) (whole : τ) :
    (within get put action).after whole = put (action.after (get whole)) whole := by
  cases ran : action (get whole) <;> simp only [after, within, ran]

/-- What follows an action and keeps a part leaves it as the action does. -/
theorem same_after_bind {γ : Type} (part : σ → γ) {action : Action σ α} {next : α → Action σ β}
    (kept : ∀ answer, Keeps (Same part) (next answer)) (state : σ) :
    part ((action >>= next).after state) = part (action.after state) := by
  cases ran : action state with
  | ok answer reached =>
    rw [after_congr (bind_of_ok ran), after_of_ok ran]
    exact kept answer reached
  | error failure reached => rw [after_of_error (bind_of_error ran), after_of_error ran]

/-! ## Closure -/

variable [IsPreorder σ R]

theorem keeps_pure (answer : α) : Keeps R (pure answer : Action σ α) := fun state => refl state

theorem keeps_throw (failure : Failure) : Keeps R (throw failure : Action σ α) :=
  fun state => refl state

theorem keeps_get : Keeps R (get : Action σ σ) := fun state => refl state

/-- Asking changes nothing. -/
theorem keeps_query (question : σ → Except Failure α) : Keeps R (query question) := by
  intro state
  cases asked : question state with
  | ok answer =>
    rw [after_of_ok (query_of_ok asked)]
    exact refl state
  | error failure =>
    rw [after_of_error (query_of_error asked)]
    exact refl state

theorem keeps_ofExcept (checked : Except Failure α) : Keeps R (ofExcept checked) :=
  keeps_query fun _ => checked

theorem keeps_bind {action : Action σ α} {next : α → Action σ β} (kept : Keeps R action)
    (onward : ∀ answer, Keeps R (next answer)) : Keeps R (action >>= next) := by
  intro state
  have related := kept state
  cases ran : action state with
  | ok answer reached =>
    rw [after_of_ok ran] at related
    have rest := onward answer reached
    have whole : (action >>= next).after state = (next answer).after reached := by
      simp only [after, bind_of_ok ran]
    rw [whole]
    exact IsTrans.trans _ _ _ related rest
  | error failure reached =>
    rw [after_of_error (bind_of_error ran)]
    exact after_of_error ran ▸ related

theorem keeps_map {action : Action σ α} (f : α → β) (kept : Keeps R action) :
    Keeps R (f <$> action) := by
  rw [map_eq_pure_bind]
  exact keeps_bind kept fun answer => keeps_pure (f answer)

theorem keeps_discard {action : Action σ α} (kept : Keeps R action) : Keeps R (discard action) :=
  keeps_map _ kept

/-! ## Loops -/

variable {l : List α}

theorem keeps_forM {pass : α → Action σ Unit} (each : ∀ a ∈ l, Keeps R (pass a)) :
    Keeps R (l.forM pass) := by
  induction l with
  | nil => exact keeps_pure ()
  | cons a rest ih =>
    exact keeps_bind (each a List.mem_cons_self)
      fun _ => ih fun b held => each b (List.mem_cons_of_mem a held)

theorem keeps_foldlM {pass : β → α → Action σ β} (each : ∀ b, ∀ a ∈ l, Keeps R (pass b a))
    (start : β) : Keeps R (l.foldlM pass start) := by
  induction l generalizing start with
  | nil => exact keeps_pure start
  | cons a rest ih =>
    rw [List.foldlM_cons]
    exact keeps_bind (each start a List.mem_cons_self)
      fun b => ih (fun c d held => each c d (List.mem_cons_of_mem a held)) b

theorem keeps_mapM {pass : α → Action σ β} (each : ∀ a ∈ l, Keeps R (pass a)) :
    Keeps R (l.mapM pass) := by
  induction l with
  | nil => exact keeps_pure []
  | cons a rest ih =>
    rw [List.mapM_cons]
    exact keeps_bind (each a List.mem_cons_self) fun b =>
      keeps_bind (ih fun c held => each c (List.mem_cons_of_mem a held))
        fun rest => keeps_pure (b :: rest)

end Multigraph.Action
