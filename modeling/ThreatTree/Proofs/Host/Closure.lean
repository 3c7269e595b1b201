import Mathlib.Order.Defs.Unbundled
import ThreatTree.Proofs.Host.Outcome

/-!
# What all steps of an action keep

An action is within a relation and some faults if the host after it is in that relation to the host
before it, and it ends with no other fault (`Action.Within`). What is put together from actions within
a reflexive and transitive relation is within it too. What a part of a run changes of its host is told
by such relations: which files stay, what is printed, who is alerted.
-/

namespace ThreatTree.Action

variable {α β ε : Type} {R R' : Host → Host → Prop} {faults faults' : Fault → Prop}

/-- The host after an action is related to the host before it, and the action ends with no fault but
some of the given ones. -/
def Within (a : Action α) (R : Host → Host → Prop) (faults : Fault → Prop) : Prop :=
  ∀ h, R h (a.outcome h).2 ∧ ∀ f, (a.outcome h).1 = .error f → faults f

theorem Within.mono {a : Action α} (ha : a.Within R faults) (hR : ∀ h h', R h h' → R' h h')
    (hfaults : ∀ f, faults f → faults' f) : a.Within R' faults' :=
  fun h => ⟨hR h _ (ha h).1, fun f hf => hfaults f ((ha h).2 f hf)⟩

/-! ### Steps of a host -/

theorem within_modify {f : Host → Host} (hf : ∀ h, R h (f h)) :
    (modify f : Action Unit).Within R faults := by
  intro h
  refine ⟨hf h, ?_⟩
  rintro f ⟨⟩

theorem within_noteAll {j : Journal} (hj : ∀ h, R h (h.noted j)) : (noteAll j).Within R faults :=
  within_modify hj

variable [IsPreorder Host R]

/-- An action that leaves the host as it is. -/
theorem within_of_same {a : Action α} (hsame : ∀ h, (a.outcome h).2 = h)
    (hfaults : ∀ h f, (a.outcome h).1 = .error f → faults f) : a.Within R faults := by
  intro h
  rw [hsame]
  exact ⟨refl_of R h, hfaults h⟩

theorem within_pure (x : α) : (pure x : Action α).Within R faults := by
  apply within_of_same (fun _ => rfl)
  rintro h f ⟨⟩

theorem within_throw {f : Fault} (hf : faults f) : (throw f : Action α).Within R faults := by
  apply within_of_same (fun _ => rfl)
  rintro h f' ⟨⟩
  exact hf

theorem within_get : (get : Action Host).Within R faults := by
  apply within_of_same (fun _ => rfl)
  rintro h f ⟨⟩

theorem within_lift {fault : ε → Fault} {r : Except ε α}
    (hr : ∀ e, r = .error e → faults (fault e)) : (lift fault r).Within R faults := by
  cases r with
  | ok a => exact within_pure a
  | error e => exact within_throw (hr e rfl)

theorem within_bind {a : Action α} {f : α → Action β} (ha : a.Within R faults)
    (hf : ∀ x, (f x).Within R faults) : (a >>= f).Within R faults := by
  intro h
  obtain ⟨hrel, hfault⟩ := ha h
  rw [outcome_bind]
  rcases hrun : a.outcome h with ⟨e | x, h'⟩ <;> rw [hrun] at hrel hfault
  · refine ⟨hrel, ?_⟩
    rintro f' ⟨⟩
    exact hfault e rfl
  · -- The second action starts from what the first one left.
    obtain ⟨hrel', hfault'⟩ := hf x h'
    exact ⟨trans_of R hrel hrel', hfault'⟩

theorem within_tryCatch {a : Action α} {f : Fault → Action α} (ha : a.Within R faults')
    (hf : ∀ e, (f e).Within R faults) : (tryCatch a f).Within R faults := by
  intro h
  obtain ⟨hrel, -⟩ := ha h
  rw [outcome_tryCatch]
  rcases hrun : a.outcome h with ⟨e | x, h'⟩ <;> rw [hrun] at hrel
  · obtain ⟨hrel', hfault'⟩ := hf e h'
    exact ⟨trans_of R hrel hrel', hfault'⟩
  · refine ⟨hrel, ?_⟩
    rintro f' ⟨⟩

end ThreatTree.Action
