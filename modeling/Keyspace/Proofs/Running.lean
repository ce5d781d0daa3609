/-
# Running what may fail

Actions on a store and calls of a peer are run alike: in a state, of which something is
left also where they fail. What is said here holds of both, whatever their failures are.
-/

import Mathlib
import Keyspace.Proofs.Result

namespace Keyspace.Running

variable {ε σ α β : Type} {s t : σ}

/-- The outcome of what may fail, started in a state, and the state that it leaves behind. -/
def run (work : ExceptT ε (StateM σ) α) (s : σ) : Except ε α × σ := (ExceptT.run work).run s

/-- After a success the rest runs on the state left behind. -/
theorem run_bind_ok {work : ExceptT ε (StateM σ) α} {value : α} (h : run work s = (.ok value, t))
    (next : α → ExceptT ε (StateM σ) β) : run (work >>= next) s = run (next value) t := by
  show (ExceptT.bindCont next (run work s).1).run (run work s).2 = _
  rw [h]
  rfl

/-- After a failure nothing else runs. -/
theorem run_bind_error {work : ExceptT ε (StateM σ) α} {error : ε}
    (h : run work s = (.error error, t)) (next : α → ExceptT ε (StateM σ) β) :
    run (work >>= next) s = (.error error, t) := by
  show (ExceptT.bindCont next (run work s).1).run (run work s).2 = _
  rw [h]
  rfl

/-- Mapping the result keeps failures and the state. -/
theorem run_map (f : α → β) (work : ExceptT ε (StateM σ) α) :
    run (f <$> work) s = ((run work s).1.map f, (run work s).2) := by
  cases h : run work s with
  | mk outcome t =>
      cases outcome with
      | ok value => exact run_bind_ok h _
      | error error => exact run_bind_error h _

/-- Working on items one after another, without changing the state, is working on all of them at
once. -/
theorem run_mapM {items : List α} {work : α → ExceptT ε (StateM σ) β} {result : α → Except ε β}
    (h : ∀ item ∈ items, run (work item) s = (result item, s)) :
    run (items.mapM work) s = (items.mapM result, s) := by
  induction items with
  | nil => rfl
  | cons item items ih =>
      rw [List.forall_mem_cons] at h
      rw [List.mapM_cons, List.mapM_cons]
      cases hitem : result item with
      | error error => exact run_bind_error (h.1.trans (by rw [hitem])) _
      | ok value =>
          rw [run_bind_ok (h.1.trans (by rw [hitem]))]
          have hrest := ih h.2
          cases hitems : items.mapM result with
          | error error => exact run_bind_error (hrest.trans (by rw [hitems])) _
          | ok values => exact run_bind_ok (hrest.trans (by rw [hitems])) _

end Keyspace.Running
