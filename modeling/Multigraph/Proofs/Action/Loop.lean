import Multigraph.Action

/-!
Actions and loops that succeed. A loop is told by an invariant that speaks of the passes already
made: when it holds before the first pass, and each pass succeeds and carries it on, the loop
succeeds and the invariant holds of the whole list at its end.
-/
namespace Multigraph.Action

variable {σ α β : Type}

theorem get_bind_run (next : σ → Action σ α) (state : σ) :
    (get >>= next) state = next state state := rfl

theorem modify_bind_run (change : σ → σ) (next : Unit → Action σ α) (state : σ) :
    (modify change >>= next) state = next () (change state) := rfl

theorem ofExcept_of_ok {checked : Except Failure α} {answer : α} (passed : checked = .ok answer)
    (state : σ) : ofExcept checked state = .ok answer state := query_of_ok passed

theorem discard_of_ok {action : Action σ α} {answer : α} {state reached : σ}
    (ran : action state = .ok answer reached) : discard action state = .ok () reached := by
  simp only [discard, Functor.discard, Functor.mapConst, EStateM.map, Function.comp, ran]

theorem within_of_ok {τ : Type} {get : τ → σ} {put : σ → τ → τ} {action : Action σ α} {answer : α}
    {whole : τ} {part : σ} (ran : action (get whole) = .ok answer part) :
    within get put action whole = .ok answer (put part whole) := by
  simp only [within, ran]

theorem within_of_error {τ : Type} {get : τ → σ} {put : σ → τ → τ} {action : Action σ α}
    {failure : Failure} {whole : τ} {part : σ} (failed : action (get whole) = .error failure part) :
    within get put action whole = .error failure (put part whole) := by
  simp only [within, failed]

/-- Actions that come to the same are followed by the same. -/
theorem bind_of_eq {action other : Action σ α} {state start : σ} (same : action state = other start)
    (next : α → Action σ β) : (action >>= next) state = (other >>= next) start := by
  simp only [bind, EStateM.bind, same]

/-- Where a sequence of two actions has succeeded, both have. -/
theorem of_bind_ok {action : Action σ α} {next : α → Action σ β} {answer : β} {state final : σ}
    (ran : (action >>= next) state = .ok answer final) :
    ∃ first reached, action state = .ok first reached ∧ next first reached = .ok answer final := by
  cases first : action state with
  | ok found reached => exact ⟨found, reached, rfl, (bind_of_ok first).symm.trans ran⟩
  | error failure reached =>
    rw [bind_of_error first] at ran
    cases ran

theorem of_within_ok {τ : Type} {get : τ → σ} {put : σ → τ → τ} {action : Action σ α} {answer : α}
    {whole final : τ} (ran : within get put action whole = .ok answer final) :
    ∃ part, action (get whole) = .ok answer part ∧ final = put part whole := by
  cases inner : action (get whole) with
  | ok found part =>
    rw [within_of_ok inner] at ran
    cases ran
    exact ⟨part, rfl, rfl⟩
  | error failure part =>
    rw [within_of_error inner] at ran
    cases ran

/-- The passes of a loop without an accumulator answer one after the other. -/
theorem mapM_cons_of_ok {pass : α → Action σ β} {a : α} {rest : List α} {answer : β}
    {answers : List β} {state reached final : σ} (ran : pass a state = .ok answer reached)
    (others : rest.mapM pass reached = .ok answers final) :
    (a :: rest).mapM pass state = .ok (answer :: answers) final := by
  rw [List.mapM_cons]
  exact (bind_of_ok ran).trans (bind_of_ok others)

variable {l : List α} {pass : β → α → Action σ β} {Invariant : List α → β → σ → Prop}

theorem foldlM_cons_of_ok {a : α} {rest : List α} {acc next : β} {state reached : σ}
    (ran : pass acc a state = .ok next reached) :
    (a :: rest).foldlM pass acc state = rest.foldlM pass next reached := by
  rw [List.foldlM_cons]
  exact bind_of_ok ran

theorem foldlM_singleton (a : α) (acc : β) : [a].foldlM pass acc = pass acc a := by
  simp only [List.foldlM_cons, List.foldlM_nil, bind_pure]

theorem foldlM_append_of_ok {first second : List α} {acc next : β} {state reached : σ}
    (ran : first.foldlM pass acc state = .ok next reached) :
    (first ++ second).foldlM pass acc state = second.foldlM pass next reached := by
  rw [List.foldlM_append]
  exact bind_of_ok ran

/-- The invariant at some moment of the loop carries it through the passes that are left. -/
theorem foldlM_from {done rest : List α} {acc : β} {state : σ} (cut : l = done ++ rest)
    (held : Invariant done acc state)
    (each : ∀ done a rest acc state, l = done ++ a :: rest → Invariant done acc state →
      ∃ next reached, pass acc a state = .ok next reached ∧ Invariant (done ++ [a]) next reached) :
    ∃ last final, rest.foldlM pass acc state = .ok last final ∧ Invariant l last final := by
  induction rest generalizing done acc state with
  | nil =>
    rw [List.append_nil] at cut
    exact ⟨acc, state, rfl, cut ▸ held⟩
  | cons a rest ih =>
    obtain ⟨next, reached, ran, onward⟩ := each done a rest acc state cut held
    obtain ⟨last, final, looped, invariant⟩ := ih (by simpa using cut) onward
    refine ⟨last, final, ?_, invariant⟩
    rw [foldlM_cons_of_ok ran, looped]

/-- A loop whose passes succeed and carry an invariant on succeeds and ends with the invariant. -/
theorem foldlM_invariant (Invariant : List α → β → σ → Prop) {acc : β} {state : σ} (start : Invariant [] acc state)
    (each : ∀ done a rest acc state, l = done ++ a :: rest → Invariant done acc state →
      ∃ next reached, pass acc a state = .ok next reached ∧ Invariant (done ++ [a]) next reached) :
    ∃ last final, l.foldlM pass acc state = .ok last final ∧ Invariant l last final :=
  foldlM_from rfl start each

/-- A loop whose passes leave everything as it is does so too. -/
theorem foldlM_idle {acc : β} {state : σ} (each : ∀ a ∈ l, pass acc a state = .ok acc state) :
    l.foldlM pass acc state = .ok acc state := by
  induction l with
  | nil => rfl
  | cons a rest ih =>
    rw [foldlM_cons_of_ok (each a List.mem_cons_self)]
    exact ih fun b member => each b (List.mem_cons_of_mem a member)

/-- A loop stops at the first pass that fails. -/
theorem foldlM_stops {done : List α} {a : α} {acc next : β} {state reached final : σ}
    {failure : Failure} (ran : done.foldlM pass acc state = .ok next reached)
    (stops : pass next a reached = .error failure final) (rest : List α) :
    (done ++ a :: rest).foldlM pass acc state = .error failure final := by
  rw [foldlM_append_of_ok ran, List.foldlM_cons]
  exact bind_of_error stops

theorem forM_append_of_ok {first : List α} {pass : α → Action σ Unit} {state reached : σ}
    (ran : first.forM pass state = .ok () reached) (second : List α) :
    (first ++ second).forM pass state = second.forM pass reached := by
  have split : (first ++ second).forM pass = first.forM pass >>= fun _ => second.forM pass :=
    List.forM_append
  rw [split]
  exact bind_of_ok ran

/-- A loop stops at a pass that fails. -/
theorem forM_stops {done : List α} {a : α} {pass : α → Action σ Unit} {state reached final : σ}
    {failure : Failure} (ran : done.forM pass state = .ok () reached)
    (stops : pass a reached = .error failure final) (rest : List α) :
    (done ++ a :: rest).forM pass state = .error failure final := by
  rw [forM_append_of_ok ran]
  exact bind_of_error stops

/-- In a loop all passes succeed, or one fails after those before it have succeeded. -/
theorem forM_cases (l : List α) (pass : α → Action σ Unit) (state : σ) :
    (∃ final, l.forM pass state = .ok () final) ∨
    ∃ done a rest reached failure final, l = done ++ a :: rest ∧
      done.forM pass state = .ok () reached ∧ pass a reached = .error failure final := by
  induction l generalizing state with
  | nil => exact .inl ⟨state, rfl⟩
  | cons a rest ih =>
    cases ran : pass a state with
    | error failure final => exact .inr ⟨[], a, rest, state, failure, final, rfl, rfl, ran⟩
    | ok answer next =>
      rcases ih next with
        ⟨final, looped⟩ | ⟨done, b, later, reached, failure, final, cut, ok, stops⟩
      · exact .inl ⟨final, (bind_of_ok ran).trans looped⟩
      · refine .inr ⟨a :: done, b, later, reached, failure, final, ?_, ?_, stops⟩
        · rw [cut, List.cons_append]
        · exact (bind_of_ok ran).trans ok

end Multigraph.Action
