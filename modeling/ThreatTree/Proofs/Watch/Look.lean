import Mathlib.Data.List.Chain
import ThreatTree.Proofs.Session.History
import ThreatTree.Watch

/-!
# The looks of a watch

A watch goes from look to look. What one look does is told here once, case by case: the document is
not there, it has the stamp that was found last, or it is tried (`outcome_poll_absent`,
`outcome_poll_same`, `outcome_poll_tried`). What looks do one after the other follows from that by
induction, whatever others do to the host in the pauses (`Watch.Takes`).

Main statements: `seen_of_takes`, what was found last is the stamp of the last look that found the
document, and `takes_looks`, the looks of a run are taken one after the other.
-/

namespace ThreatTree

open ThreatTree.Action

/-- A look at a document: the stamp that was found last, and the host that is looked at. -/
structure Look where
  seen : Option Stamp
  host : Host

namespace Look

/-- The stamp of the document, if it is there. -/
def found? (l : Look) (w : Watch) : Option Stamp := (l.host.files.stamp w.document).toOption

/-- Whether the document is there with another stamp than the one that was found last. -/
def tries (l : Look) (w : Watch) : Bool := (l.found? w).isSome && l.found? w ≠ l.seen

end Look

namespace Watch

variable {w : Watch}

/-! ### What a look finds -/

theorem found?_eq_some_iff {l : Look} {stamp : Stamp} :
    l.found? w = some stamp ↔ l.host.files.stamp w.document = .ok stamp := by
  unfold Look.found?
  cases l.host.files.stamp w.document <;> simp [Except.toOption]

theorem found?_eq_none_iff {l : Look} :
    l.found? w = none ↔ ∃ e, l.host.files.stamp w.document = .error e := by
  unfold Look.found?
  cases l.host.files.stamp w.document <;> simp [Except.toOption]

theorem tries_eq_true_iff {l : Look} :
    l.tries w = true ↔
      ∃ stamp, l.host.files.stamp w.document = .ok stamp ∧ l.seen ≠ some stamp := by
  unfold Look.tries Look.found?
  cases l.host.files.stamp w.document with
  | error e => simp [Except.toOption]
  | ok stamp =>
    constructor
    · intro htries
      exact ⟨stamp, rfl, fun hseen => by simp [Except.toOption, hseen] at htries⟩
    · rintro ⟨_, ⟨⟩, hseen⟩
      exact decide_eq_true (Ne.symm hseen)

/-- A version that is found and not tried is the one that was found last. -/
theorem seen_of_not_tries {l : Look} {stamp : Stamp} (htries : l.tries w = false)
    (hfound : l.found? w = some stamp) : l.seen = some stamp := by
  by_contra hseen
  rw [tries_eq_true_iff.mpr ⟨stamp, found?_eq_some_iff.mp hfound, hseen⟩] at htries
  cases htries

/-- The stamp of the last of some looks that found the document. -/
def lastFound (w : Watch) (ls : List Look) : Option Stamp := (ls.filterMap (·.found? w)).getLast?

theorem getLast?_filterMap_concat {α β : Type} (f : α → Option β) (xs : List α) (x : α) :
    ((xs ++ [x]).filterMap f).getLast? = (f x).or (xs.filterMap f).getLast? := by
  rw [List.filterMap_append]
  cases hx : f x <;> simp [hx]

theorem lastFound_concat (w : Watch) (ls : List Look) (l : Look) :
    w.lastFound (ls ++ [l]) = (l.found? w).or (w.lastFound ls) :=
  getLast?_filterMap_concat _ ls l

/-! ### One look -/

theorem outcome_report (f : Fault) (h : Host) :
    (report f).outcome h =
      if f.isExpected then (.ok (), h.noted [.alert ("Not updated: " ++ f.message)])
      else (.error f, h) := by
  unfold report
  split <;> rfl

end Watch

section Looks

variable [SetOrder]

namespace Look

/-- What a look comes to: what is found, or the fault that ends the watch. -/
def result (l : Look) (w : Watch) : Except Fault (Option Stamp) :=
  ((w.poll l.seen).outcome l.host).1

/-- The host after a look. -/
def after (l : Look) (w : Watch) : Host := ((w.poll l.seen).outcome l.host).2

/-- The host that the next look finds, after what others do in the pause. -/
def next (l : Look) (w : Watch) (changes : List Change) : Host :=
  changes.foldl Change.apply ((l.after w).noted [.pause w.interval])

end Look

namespace Watch

variable {w : Watch} {seen : Option Stamp} {h : Host}

/-- The document is not there. -/
theorem outcome_poll_absent {e : FileError} (hstamp : h.files.stamp w.document = .error e) :
    (w.poll seen).outcome h =
      if (Fault.file e).isExpected then
        (.ok seen, h.noted [.alert ("Not updated: " ++ e.message)])
      else (.error (.file e), h) := by
  rw [poll, outcome_bind_ok (outcome_get h), hstamp]
  dsimp only
  rw [outcome_bind, outcome_report]
  by_cases hexpected : (Fault.file e).isExpected = true
  · rw [if_pos hexpected, if_pos hexpected]
    rfl
  · rw [if_neg hexpected, if_neg hexpected]

/-- The document is the one that was found last. -/
theorem outcome_poll_same {stamp : Stamp} (hstamp : h.files.stamp w.document = .ok stamp) :
    (w.poll (some stamp)).outcome h = (.ok (some stamp), h) := by
  rw [poll, outcome_bind_ok (outcome_get h), hstamp]
  dsimp only
  rw [if_pos rfl, outcome_pure]

/-- The document is another one. -/
theorem outcome_poll_tried {stamp : Stamp} (hstamp : h.files.stamp w.document = .ok stamp)
    (hseen : seen ≠ some stamp) :
    (w.poll seen).outcome h =
      match w.update.outcome h with
      | (.ok (), h') => (.ok (some stamp), h')
      | (.error f, h') =>
        if f.isExpected then
          (.ok (some stamp), h'.noted [.alert ("Not updated: " ++ f.message)])
        else (.error f, h') := by
  rw [poll, outcome_bind_ok (outcome_get h), hstamp]
  dsimp only
  rw [if_neg hseen, outcome_bind, outcome_tryCatch]
  rcases w.update.outcome h with ⟨f | ⟨⟩, h'⟩
  · dsimp only
    rw [outcome_report]
    by_cases hexpected : f.isExpected = true
    · rw [if_pos hexpected, if_pos hexpected]
      rfl
    · rw [if_neg hexpected, if_neg hexpected]
  · rfl

/-- A version is rendered and, if there is a picture of it, exported. -/
theorem outcome_update (w : Watch) (h : Host) :
    w.update.outcome h =
      match (w.session.refreshFile w.document).outcome h with
      | (.error f, h') => (.error f, h')
      | (.ok shot, h') =>
        match shot.error with
        | some e => (.ok (), h'.noted [.alert ("Not rendered: " ++ e)])
        | none =>
          if shot.hasRender then
            match (w.session.exportTo shot w.output).outcome h' with
            | (.ok (), h'') => (say w.updatedLine).outcome h''
            | (.error f, h'') => (.error f, h'')
          else (.ok (), h') := by
  unfold update
  rw [outcome_bind]
  rcases (w.session.refreshFile w.document).outcome h with ⟨f | shot, h'⟩
  · rfl
  dsimp only
  cases shot.error with
  | some e => rfl
  | none =>
    dsimp only
    split
    · rw [outcome_bind]
      rcases (w.session.exportTo shot w.output).outcome h' with ⟨f | ⟨⟩, h''⟩ <;> rfl
    · rfl

/-! ### What is found last -/

/-- A look finds what is there, or keeps what was found before. -/
theorem eq_of_result_eq_ok {l : Look} (hresult : l.result w = .ok seen) :
    seen = (l.found? w).or l.seen := by
  unfold Look.result at hresult
  unfold Look.found?
  cases hstamp : l.host.files.stamp w.document with
  | error e =>
    rw [outcome_poll_absent hstamp] at hresult
    split at hresult
    · cases hresult
      rfl
    · cases hresult
  | ok stamp =>
    show seen = some stamp
    by_cases hseen : l.seen = some stamp
    · rw [hseen, outcome_poll_same hstamp] at hresult
      cases hresult
      rfl
    -- The stamp is kept however the update ended.
    rw [outcome_poll_tried hstamp hseen] at hresult
    rcases hupdate : w.update.outcome l.host with ⟨f | ⟨⟩, h'⟩ <;> rw [hupdate] at hresult <;>
      dsimp only at hresult
    · split at hresult
      · cases hresult
        rfl
      · cases hresult
    · cases hresult
      rfl

/-! ### Look after look -/

variable (w)

/-- Looks are taken one after the other: nothing is found before the first, and each of the others
knows what the one before it came to. What happens to the host between them is left open. -/
def Takes (ls : List Look) : Prop :=
  (∀ l ∈ ls.head?, l.seen = none) ∧ ls.IsChain fun l l' => l.result w = .ok l'.seen

variable {w}

theorem Takes.left {before after : List Look} (h : w.Takes (before ++ after)) : w.Takes before := by
  refine ⟨fun l hl => h.1 l ?_, h.2.left_of_append⟩
  rw [Option.mem_def] at hl ⊢
  rw [List.head?_append, hl, Option.some_or]

/-- A look knows what the one before it came to. -/
theorem Takes.result_eq {before : List Look} {l l' : Look} (h : w.Takes (before ++ [l] ++ [l'])) :
    l.result w = .ok l'.seen := by
  have hstep := (List.isChain_append.mp h.2).2.2
  exact hstep l (by simp) l' (by simp)

/-- **A look knows the stamp of the last look before it that found the document.** -/
theorem seen_of_takes {before : List Look} {l : Look} (h : w.Takes (before ++ [l])) :
    l.seen = w.lastFound before := by
  induction before using List.reverseRecOn generalizing l with
  | nil => exact h.1 l rfl
  | append_singleton before l' ih =>
    rw [lastFound_concat, eq_of_result_eq_ok h.result_eq, ih h.left]

/-! ### The looks of a run -/

variable (w)

/-- The looks of a run; the last one of them is the one that ends it, if one does. -/
def looks (seen : Option Stamp) (h : Host) : List (List Change) → List Look
  | [] => [⟨seen, h⟩]
  | changes :: rest =>
    ⟨seen, h⟩ ::
      match (w.turn seen).outcome h with
      | (.ok seen', h') => looks seen' (changes.foldl Change.apply h') rest
      | (.error _, _) => []

variable {w}

theorem outcome_turn (seen : Option Stamp) (h : Host) :
    (w.turn seen).outcome h =
      match (Look.mk seen h).result w with
      | .ok seen' => (.ok seen', ((Look.mk seen h).after w).noted [.pause w.interval])
      | .error f => (.error f, (Look.mk seen h).after w) := by
  unfold turn Look.result Look.after
  rw [outcome_bind]
  rcases (w.poll seen).outcome h with ⟨f | seen', h'⟩ <;> rfl

theorem looks_of_error {f : Fault} (hresult : (Look.mk seen h).result w = .error f)
    (pauses : List (List Change)) : w.looks seen h pauses = [⟨seen, h⟩] := by
  cases pauses with
  | nil => rfl
  | cons changes rest => rw [looks, outcome_turn, hresult]

theorem looks_cons_of_ok {seen' : Option Stamp} (hresult : (Look.mk seen h).result w = .ok seen')
    (changes : List Change) (rest : List (List Change)) :
    w.looks seen h (changes :: rest) =
      ⟨seen, h⟩ :: w.looks seen' ((Look.mk seen h).next w changes) rest := by
  rw [looks, outcome_turn, hresult]
  rfl

theorem head?_looks (pauses : List (List Change)) :
    (w.looks seen h pauses).head? = some ⟨seen, h⟩ := by
  cases pauses <;> rfl

variable (w)

/-- **The looks of a run are taken one after the other.** -/
theorem takes_looks (h : Host) (pauses : List (List Change)) : w.Takes (w.looks none h pauses) := by
  refine ⟨by simp [head?_looks], ?_⟩
  -- Looks are chained from whatever was found first.
  generalize (none : Option Stamp) = seen
  induction pauses generalizing seen h with
  | nil => exact .singleton _
  | cons changes rest ih =>
    cases hresult : (Look.mk seen h).result w with
    | error f =>
      rw [looks_of_error hresult]
      exact .singleton _
    | ok seen' =>
      rw [looks_cons_of_ok hresult]
      refine List.isChain_cons.mpr ⟨?_, ih _ _⟩
      intro l hl
      rw [head?_looks, Option.mem_some_iff] at hl
      rw [← hl, hresult]

end Watch
end Looks
end ThreatTree
