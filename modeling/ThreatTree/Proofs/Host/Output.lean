import ThreatTree.Proofs.Host.Closure
import ThreatTree.Proofs.Host.Settings

/-!
# What a run prints

Reading files, taking settings and setting up log lines print nothing (`Action.Mute`), and what is put
together from such steps prints nothing either. The output stream of a run therefore has what its
command says and nothing before it.
-/

namespace ThreatTree

namespace Journal

/-- Where no event prints anything, nothing is printed. -/
theorem output_eq_empty {j : Journal} (hj : ∀ e ∈ j, e.output = "") : j.output = "" := by
  induction j with
  | nil => rfl
  | cons e j ih =>
    rw [← List.singleton_append, output_append, ih fun e he => hj e (List.mem_cons_of_mem _ he)]
    simp [output, String.join, hj e List.mem_cons_self]

end Journal

/-- On two hosts the same was printed so far. -/
def Host.SamePrinted (h h' : Host) : Prop := h.journal.output = h'.journal.output

instance : IsPreorder Host Host.SamePrinted where
  refl _ := rfl
  trans _ _ _ := Eq.trans

namespace Action

variable {α : Type}

/-- An action prints nothing. -/
abbrev Mute (a : Action α) : Prop := a.Within Host.SamePrinted fun _ => True

theorem mute_noteAll {j : Journal} (hj : j.output = "") : (noteAll j).Mute := by
  apply within_noteAll
  intro h
  rw [Host.SamePrinted, Host.noted_journal, Journal.output_append, hj, String.append_empty]

/-! ### Setting up -/

theorem mute_loadSettings {warn : String → Event} (hwarn : ∀ line, (warn line).output = "") :
    (loadSettings warn).Mute := by
  have hlisting : variableListing.Mute := by
    refine within_of_same (fun h => ?_) fun _ _ _ => trivial
    rw [outcome_variableListing]
  refine within_bind hlisting fun listing => within_bind (mute_noteAll ?_) fun _ =>
    within_bind within_get fun _ => within_lift fun _ _ => trivial
  apply Journal.output_eq_empty
  intro e he
  obtain ⟨n, -, rfl⟩ := List.mem_map.mp he
  exact hwarn _

end Action

end ThreatTree
