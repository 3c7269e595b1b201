import ThreatTree.Proofs.Files.Content
import ThreatTree.Proofs.Host.Closure

/-!
# Actions that fail without a trace

Most steps of a run change no file at all (`Keeps`). A step that writes is `Tidy` if it does so only
where it ends well, or with a fault that comes late, after the writing. Two ways to put actions together
keep them tidy: a tidy action may follow one that changes no file, and what follows a tidy action must
have none but late faults.
-/

namespace ThreatTree

/-- The files of two hosts have the same bytes at every place. -/
def Host.SameFiles (h h' : Host) : Prop := h.files.Same h'.files

instance : IsPreorder Host Host.SameFiles where
  refl h := .refl h.files
  trans _ _ _ := Files.Same.trans

namespace Action

variable {α β ε : Type} {late : Fault → Prop}

/-- An action changes no file, however it ends. -/
abbrev Keeps (a : Action α) : Prop := a.Within Host.SameFiles fun _ => True

/-- An action that ends with a fault has changed no file, unless the fault is a late one. -/
def Tidy (a : Action α) (late : Fault → Prop) : Prop :=
  ∀ h f h', a.outcome h = (.error f, h') → h.SameFiles h' ∨ late f

/-! ### Actions that change no file -/

theorem Keeps.tidy {a : Action α} (ha : a.Keeps) : a.Tidy late := by
  intro h f h' hrun
  have hsame := (ha h).1
  rw [hrun] at hsame
  exact .inl hsame

/-- What follows a tidy action must not fail, or late. -/
theorem Tidy.bind {a : Action α} {f : α → Action β} (ha : a.Tidy late)
    (hf : ∀ x, (f x).Within Host.SameFiles late) : (a >>= f).Tidy late := by
  intro h e h'' hrun
  rcases hfirst : a.outcome h with ⟨e' | x, h'⟩
  · rw [outcome_bind_error hfirst] at hrun
    cases hrun
    exact ha h e _ hfirst
  · rw [outcome_bind_ok hfirst] at hrun
    exact .inr ((hf x h').2 e (congrArg Prod.fst hrun))

/-- A fault is looked into without a change of files, and a late one stays late. -/
theorem Tidy.tryCatch {a : Action α} {f : Fault → Action α} (ha : a.Tidy fun _ => False)
    (hf : ∀ e, (f e).Keeps) : (tryCatch a f).Tidy late := by
  intro h e h'' hrun
  rw [outcome_tryCatch] at hrun
  rcases hfirst : a.outcome h with ⟨e' | x, h'⟩ <;> rw [hfirst] at hrun
  · have hsame := (ha h e' h' hfirst).resolve_right id
    exact ((hf e').tidy h' e h'' hrun).imp_left hsame.trans
  · cases hrun

end Action
end ThreatTree
