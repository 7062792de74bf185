/-! Computations in sequence. One after another they give a result if each of them does, and the
first that fails is the last that runs. Where they have a state, it goes on from one to the next, and
a failure leaves it as it is by then. -/
namespace DataAccess

section Values

variable {ε α β : Type} {first : Except ε α} {rest : α → Except ε β}

theorem exists_of_bind {result : β} (done : first >>= rest = .ok result) :
    ∃ a, first = .ok a ∧ rest a = .ok result := by
  cases first with
  | error error => contradiction
  | ok a => exact ⟨a, rfl, done⟩

theorem error_of_bind {error : ε} (failed : first >>= rest = .error error) :
    first = .error error ∨ ∃ a, first = .ok a ∧ rest a = .error error := by
  cases first with
  | error other => exact .inl (congrArg Except.error (Except.error.inj failed))
  | ok a => exact .inr ⟨a, rfl, failed⟩

end Values

section Runs

variable {ε σ α β : Type}

theorem run_bind (work : ExceptT ε (StateM σ) α) (next : α → ExceptT ε (StateM σ) β) (state : σ) :
    (work >>= next).run.run state =
      match work.run.run state with
      | (.ok value, state) => (next value).run.run state
      | (.error error, state) => (.error error, state) := by
  change (match work.run.run state with
    | (result, state) => (ExceptT.bindCont next result).run state) = _
  rcases work.run.run state with ⟨error | value, state⟩ <;> rfl

variable {work : ExceptT ε (StateM σ) α} {before after : σ}

theorem run_bind_of_ok {value : α} (ran : work.run.run before = (.ok value, after))
    (next : α → ExceptT ε (StateM σ) β) :
    (work >>= next).run.run before = (next value).run.run after := by
  rw [run_bind, ran]

theorem run_bind_of_error {error : ε} (ran : work.run.run before = (.error error, after))
    (next : α → ExceptT ε (StateM σ) β) :
    (work >>= next).run.run before = (.error error, after) := by
  rw [run_bind, ran]

theorem exists_of_run_bind {next : α → ExceptT ε (StateM σ) β} {value : β}
    (ran : (work >>= next).run.run before = (.ok value, after)) :
    ∃ first middle, work.run.run before = (.ok first, middle) ∧
      (next first).run.run middle = (.ok value, after) := by
  rcases first : work.run.run before with ⟨error | value', middle⟩
  · rw [run_bind_of_error first] at ran
    cases ran
  · rw [run_bind_of_ok first] at ran
    exact ⟨value', middle, rfl, ran⟩

end Runs

end DataAccess
