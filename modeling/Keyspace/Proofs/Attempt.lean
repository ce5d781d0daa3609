/-
# Polling

What attempts do when they are polled. An attempt that needs a single poll is the call that it
comes from, also when it is awaited or joined with others of its kind. Any other is polled until
it has an outcome, and more patience does not change that outcome.
-/

import Mathlib
import Keyspace.Attempt
import Keyspace.Proofs.Call

namespace Keyspace

/-! ## Calls that never wait -/

section Prompt

variable {m : Type → Type} [Monad m] [LawfulMonad m] {α β ι : Type}

namespace Call

theorem prompt_pure (value : α) : Call.prompt (pure value : Call m α) = pure value := by
  apply ExceptT.ext
  apply OptionT.ext
  simp [prompt]

theorem prompt_throw (error : KvError) :
    Call.prompt (throw error : Call m α) = throw error := by
  apply ExceptT.ext
  apply OptionT.ext
  simp only [prompt, ExceptT.run_mk, ExceptT.run_throw, OptionT.run_lift, pure_bind]
  rfl

theorem prompt_liftM (result : KvResult α) :
    Call.prompt (liftM result : Call m α) = liftM result := by
  cases result with
  | ok value => exact prompt_pure value
  | error error => exact prompt_throw error

theorem prompt_bind (call : Call m α) (next : α → Call m β) :
    Call.prompt (call >>= next) = call.prompt >>= fun value => (next value).prompt := by
  apply ExceptT.ext
  apply OptionT.ext
  simp only [prompt, ExceptT.run_bind, OptionT.lift_bind, ExceptT.run_mk, OptionT.run_bind,
    OptionT.run_lift, bind_pure_comp, Option.elimM_map, Option.elim_some]
  congr
  funext outcome
  cases outcome <;> simp

theorem prompt_map (f : α → β) (call : Call m α) :
    Call.prompt (f <$> call) = f <$> call.prompt := by
  rw [map_eq_pure_bind, prompt_bind, map_eq_pure_bind]
  simp only [prompt_pure]

end Call

namespace Attempt

theorem poll_prompt (call : Call m α) : Attempt.poll call.prompt = some <$> call := by
  apply ExceptT.ext
  simp [Attempt.poll, Call.prompt]

/-- To await what never waits is to call it. -/
theorem await_prompt (patience : Nat) (call : Call m α) :
    await (patience + 1) call.prompt = call.prompt := by
  rw [await, poll_prompt, Call.prompt_map, bind_map_left]
  exact bind_pure _

/-- A slot that is polled for what never waits has its value. -/
theorem poll_slot_prompt (call : Call m α) :
    Slot.poll ⟨call.prompt, none⟩ = (fun value => ⟨call.prompt, some value⟩) <$> call := by
  rw [Slot.poll, poll_prompt, bind_map_left]
  rfl

/-- A round of polls for what never waits brings all values. `next` and `finish` are what follows,
the one on the slots and the other on the values in them. -/
theorem bind_mapM_poll (items : List ι) (work : ι → Call m α)
    {next : List (Slot m α) → Attempt m β} {finish : List α → Attempt m β}
    (h : ∀ slots values, slots.mapM (·.value?) = some values → next slots = finish values) :
    Call.prompt ((items.map fun item => ⟨(work item).prompt, none⟩).mapM Slot.poll) >>= next =
      Call.prompt (items.mapM work) >>= finish := by
  induction items generalizing next finish with
  | nil => simpa [Call.prompt_pure] using h [] [] rfl
  | cons item items ih =>
      simp only [List.map_cons, List.mapM_cons, poll_slot_prompt, bind_map_left, Call.prompt_bind,
        Call.prompt_pure, bind_assoc, pure_bind]
      congr
      funext value
      apply ih
      intro slots values hslots
      exact h _ _ (by rw [List.mapM_cons, hslots]; rfl)

/-- To join what never waits is to make the calls one after another. -/
theorem joinAll_prompt (patience : Nat) (items : List ι) (work : ι → Call m α) :
    joinAll (patience + 1) (items.map fun item => (work item).prompt) =
      Call.prompt (items.mapM work) := by
  rw [joinAll, List.map_map, rounds]
  refine (bind_mapM_poll items work ?_).trans (bind_pure _)
  intro slots values hslots
  rw [hslots]

end Attempt

end Prompt

/-! ## Polls in a state -/

namespace Attempt

variable {σ α β : Type} {s t : σ} {attempt : Attempt (StateM σ) α} {outcome : KvResult α}

theorem start_prompt (call : Call (StateM σ) α) :
    start call.prompt s = (some (call.start s).1, (call.start s).2) := rfl

/-- After a value the rest is polled in the state left behind. -/
theorem start_bind_ok {value : α} (h : start attempt s = (some (.ok value), t))
    (next : α → Attempt (StateM σ) β) : start (attempt >>= next) s = start (next value) t := by
  unfold start at h ⊢
  rw [ExceptT.run_bind, OptionT.run_bind, Option.elimM, StateT.run_bind, h]
  rfl

/-- After a failure nothing else is polled. -/
theorem start_bind_error {error : KvError} (h : start attempt s = (some (.error error), t))
    (next : α → Attempt (StateM σ) β) :
    start (attempt >>= next) s = (some (.error error), t) := by
  unfold start at h ⊢
  rw [ExceptT.run_bind, OptionT.run_bind, Option.elimM, StateT.run_bind, h]
  rfl

/-- What follows has to wait for an outcome. -/
theorem start_bind_none (h : start attempt s = (none, t)) (next : α → Attempt (StateM σ) β) :
    start (attempt >>= next) s = (none, t) := by
  unfold start at h ⊢
  rw [ExceptT.run_bind, OptionT.run_bind, Option.elimM, StateT.run_bind, h]
  rfl

/-- Mapping the result keeps failures and the state. -/
theorem start_map {outcome? : Option (KvResult α)} (h : start attempt s = (outcome?, t))
    (f : α → β) : start (f <$> attempt) s = (outcome?.map (·.map f), t) := by
  rw [map_eq_pure_bind]
  match outcome? with
  | none => exact start_bind_none h _
  | some (.error error) => exact start_bind_error h _
  | some (.ok value) => exact start_bind_ok h _

/-- A result on its own is the outcome. -/
theorem start_liftM (result : KvResult α) :
    start (liftM result : Attempt (StateM σ) α) s = (some result, s) := by
  cases result <;> rfl

theorem start_poll_none (h : start attempt s = (none, t)) :
    Call.start attempt.poll s = (.ok none, t) := by
  unfold start at h
  rw [Call.start, poll, ExceptT.run_mk, StateT.run_bind, h]
  rfl

theorem start_poll_some (h : start attempt s = (some outcome, t)) :
    Call.start attempt.poll s = (outcome.map some, t) := by
  unfold start at h
  rw [Call.start, poll, ExceptT.run_mk, StateT.run_bind, h]
  rfl

/-! ### Awaiting -/

/-- While there is nothing yet, there is a poll less to come. -/
theorem start_await_none (h : start attempt s = (none, t)) (patience : Nat) :
    start (await (patience + 1) attempt) s = start (await patience attempt) t := by
  have hpoll : start (Call.prompt attempt.poll) s = (some (.ok none), t) := by
    rw [start_prompt, start_poll_none h]
  rw [await, start_bind_ok hpoll]

/-- An outcome ends the waiting. -/
theorem start_await_some (h : start attempt s = (some outcome, t)) (patience : Nat) :
    start (await (patience + 1) attempt) s = (some outcome, t) := by
  have hpoll : start (Call.prompt attempt.poll) s = (some (outcome.map some), t) := by
    rw [start_prompt, start_poll_some h]
  cases outcome with
  | ok value => exact start_bind_ok hpoll _
  | error error => exact start_bind_error hpoll _

/-! ### Rounds -/

section Rounds

variable {slots polled : List (Slot (StateM σ) α)}

theorem start_rounds_of_error {error : KvError}
    (h : Call.start (slots.mapM Slot.poll) s = (.error error, t)) (patience : Nat) :
    start (rounds (patience + 1) slots) s = (some (.error error), t) := by
  have hround : start (Call.prompt (slots.mapM Slot.poll)) s = (some (.error error), t) := by
    rw [start_prompt, h]
  exact start_bind_error hround _

theorem start_rounds_of_ok (h : Call.start (slots.mapM Slot.poll) s = (.ok polled, t))
    (patience : Nat) : start (rounds (patience + 1) slots) s =
      match polled.mapM (·.value?) with
      | some values => (some (.ok values), t)
      | none => start (rounds patience polled) t := by
  have hround : start (Call.prompt (slots.mapM Slot.poll)) s = (some (.ok polled), t) := by
    rw [start_prompt, h]
  rw [rounds, start_bind_ok hround]
  cases polled.mapM (·.value?) <;> rfl

end Rounds

/-! ### Patience -/

/-- Once there is an outcome, more patience makes no difference. -/
def Settles (attempt : Nat → Attempt (StateM σ) α) : Prop :=
  ∀ ⦃patience more : Nat⦄, patience ≤ more → ∀ ⦃s t : σ⦄ ⦃outcome : KvResult α⦄,
    start (attempt patience) s = (some outcome, t) → start (attempt more) s = (some outcome, t)

theorem Settles.const (attempt : Attempt (StateM σ) α) : Settles fun _ => attempt :=
  fun _ _ _ _ _ _ => id

theorem Settles.bind {attempt : Nat → Attempt (StateM σ) α} (h : Settles attempt)
    {next : Nat → α → Attempt (StateM σ) β} (hnext : ∀ value, Settles (next · value)) :
    Settles fun patience => attempt patience >>= next patience := by
  intro patience more hle s u outcome hstart
  cases hpoll : start (attempt patience) s with
  | mk result t =>
      match result with
      | none =>
          rw [start_bind_none hpoll] at hstart
          cases hstart
      | some (.error error) =>
          rw [start_bind_error hpoll] at hstart
          rw [start_bind_error (h hle hpoll), hstart]
      | some (.ok value) =>
          rw [start_bind_ok hpoll] at hstart
          rw [start_bind_ok (h hle hpoll)]
          exact hnext value hle hstart

theorem settles_await (attempt : Attempt (StateM σ) α) : Settles (await · attempt) := by
  intro patience
  induction patience with
  | zero => nofun
  | succ patience ih =>
      intro more hle s u outcome hstart
      obtain ⟨more, rfl⟩ := Nat.exists_eq_add_of_lt hle
      cases hpoll : start attempt s with
      | mk result t =>
          cases result with
          | none =>
              rw [start_await_none hpoll] at hstart ⊢
              exact ih (by omega) hstart
          | some result =>
              rw [start_await_some hpoll] at hstart ⊢
              exact hstart

theorem settles_rounds (slots : List (Slot (StateM σ) α)) : Settles (rounds · slots) := by
  intro patience
  induction patience generalizing slots with
  | zero => nofun
  | succ patience ih =>
      intro more hle s u outcome hstart
      obtain ⟨more, rfl⟩ := Nat.exists_eq_add_of_lt hle
      cases hround : Call.start (slots.mapM Slot.poll) s with
      | mk result t =>
          cases result with
          | error error =>
              rw [start_rounds_of_error hround] at hstart ⊢
              exact hstart
          | ok polled =>
              rw [start_rounds_of_ok hround] at hstart ⊢
              cases hvalues : polled.mapM (·.value?) with
              | some values =>
                  rw [hvalues] at hstart
                  exact hstart
              | none =>
                  rw [hvalues] at hstart
                  exact ih polled (by omega) hstart

theorem settles_joinAll (attempts : List (Attempt (StateM σ) α)) :
    Settles (joinAll · attempts) :=
  settles_rounds _

end Attempt

end Keyspace
