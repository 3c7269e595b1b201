/-!
# Reachability

The ids that a list of arcs leads to from a set of ids, every number of steps counted.

Main statements: `reach` keeps what it starts from (`subset_reach`) and leaves no arc that leads out
of it (`closed_reach`).
-/

namespace ThreatTree

variable {α : Type} [DecidableEq α]

/-- An arc that leads from `seen` out of it. -/
def leaving? (arcs : List (α × α)) (seen : List α) : Option (α × α) :=
  arcs.find? fun a => seen.contains a.1 && !seen.contains a.2

/-- The arcs that lead to what is not in `seen`: the search ends because there are fewer of them
after each step. -/
def openArcs (arcs : List (α × α)) (seen : List α) : Nat :=
  arcs.countP fun a => !seen.contains a.2

theorem openArcs_cons_lt {arcs : List (α × α)} {seen : List α} {a : α × α}
    (h : leaving? arcs seen = some a) : openArcs arcs (a.2 :: seen) < openArcs arcs seen := by
  have hmem := List.mem_of_find?_eq_some h
  have hp := List.find?_some h
  simp only [Bool.and_eq_true, Bool.not_eq_eq_eq_not, Bool.not_true] at hp
  unfold openArcs
  clear h
  -- No arc joins the count, and `a` itself leaves it.
  induction arcs with
  | nil => simp at hmem
  | cons b arcs ih =>
    have hle : arcs.countP (fun x => !(a.2 :: seen).contains x.2) ≤
        arcs.countP (fun x => !seen.contains x.2) := by
      apply List.countP_mono_left
      intro x _ hx
      simp only [List.contains_cons, Bool.not_or, Bool.and_eq_true] at hx
      exact hx.2
    simp only [List.countP_cons]
    rcases List.mem_cons.1 hmem with rfl | hm
    · have h1 : (!(a.2 :: seen).contains a.2) = false := by simp
      have h2 : (!seen.contains a.2) = true := by rw [hp.2]; rfl
      rw [if_neg (by rw [h1]; simp), if_pos h2]
      omega
    · have := ih hm
      have hb : (!(a.2 :: seen).contains b.2) = true → (!seen.contains b.2) = true := by
        intro hx
        simp only [List.contains_cons, Bool.not_or, Bool.and_eq_true] at hx
        exact hx.2
      split <;> split <;> first | omega | simp_all

/-- What the arcs lead to from `seen`, itself included. -/
def reach (arcs : List (α × α)) (seen : List α) : List α :=
  match _h : leaving? arcs seen with
  | some a => reach arcs (a.2 :: seen)
  | none => seen
termination_by openArcs arcs seen
decreasing_by exact openArcs_cons_lt (by assumption)

theorem subset_reach (arcs : List (α × α)) (seen : List α) : seen ⊆ reach arcs seen := by
  fun_induction reach arcs seen with
  | case1 seen a _ ih => exact fun x hx => ih (List.mem_cons_of_mem _ hx)
  | case2 seen _ => exact fun _ hx => hx

/-- No arc leads out of what is reached. -/
theorem closed_reach {arcs : List (α × α)} {seen : List α} {a b : α}
    (hab : (a, b) ∈ arcs) (ha : a ∈ reach arcs seen) : b ∈ reach arcs seen := by
  fun_induction reach arcs seen with
  | case1 seen c _ ih => exact ih ha
  | case2 seen h =>
    have := List.find?_eq_none.1 h (a, b) hab
    simpa [ha] using this

end ThreatTree
