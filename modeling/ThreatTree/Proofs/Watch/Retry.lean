import ThreatTree.Proofs.Watch.Survival

/-!
# Which versions are tried again

A watch tries a version once. Whether that went well is not remembered, only which version it was: the
next look that finds the document tries it exactly if its stamp is another one than the last that was
found, however the look before it ended (`retries_iff`). So a failure whose cause goes away is made
good by the next change of the document and by nothing else (`stays_failed`).
-/

namespace ThreatTree.Watch

open ThreatTree.Action

variable {w : Watch}

/-- Looks that do not find the document change nothing about what was found last. -/
theorem lastFound_append_of_absent {before gap : List Look} (hgap : ∀ m ∈ gap, m.found? w = none) :
    w.lastFound (before ++ gap) = w.lastFound before := by
  unfold lastFound
  rw [List.filterMap_append, List.filterMap_eq_nil_iff.mpr hgap, List.append_nil]

/-- **A version is tried again exactly if its stamp is another one.** After any look, a failed one
included, the next look that finds the document tries it if its stamp is not the one that was found
last, and then does the whole update. Else it does nothing at all. -/
theorem retries_iff [SetOrder] {before gap : List Look} {l l' : Look} {stamp : Stamp}
    (htakes : w.Takes (before ++ [l] ++ gap ++ [l'])) (hgap : ∀ m ∈ gap, m.found? w = none)
    (hfound : l'.host.files.stamp w.document = .ok stamp) :
    (l'.tries w = true ↔ (l.found? w).or (w.lastFound before) ≠ some stamp) ∧
    (l'.tries w = false → (w.poll l'.seen).outcome l'.host = (.ok (some stamp), l'.host)) ∧
    (l'.tries w = true → (w.poll l'.seen).outcome l'.host =
      match w.update.outcome l'.host with
      | (.ok (), h) => (.ok (some stamp), h)
      | (.error f, h) =>
        if f.isExpected then (.ok (some stamp), h.noted [.alert ("Not updated: " ++ f.message)])
        else (.error f, h)) := by
  have hseen : l'.seen = (l.found? w).or (w.lastFound before) := by
    rw [seen_of_takes htakes, lastFound_append_of_absent hgap, lastFound_concat]
  have htries : l'.tries w = true ↔ l'.seen ≠ some stamp := by
    rw [tries_eq_true_iff, hfound]
    simp
  refine ⟨by rw [htries, hseen], ?_, ?_⟩
  · intro hsame
    have hsame : l'.seen = some stamp := by
      by_contra hne
      rw [htries.mpr hne] at hsame
      cases hsame
    rw [hsame, outcome_poll_same hfound]
  · intro hother
    exact outcome_poll_tried hfound (htries.mp hother)

/-! ### A failure that stays -/

attribute [local instance] SetOrder.written

/-- A layout program that draws no pictures of points. -/
def vectorEngine : Layout.Engine := fun r =>
  if r.format = "png" then .finished 1 [] (Text.Utf8.encode "Error: x\n") else Session.blankEngine r

/-- A watch that writes pictures of points. -/
def rasterWatch : Watch := { exampleWatch with output := .ofString "o.png" }

/-- A host with a document and this program. -/
def vectorHost : Host := { exampleHost with engine := vectorEngine }

/-- The first look, which fails. -/
def failedLook : Look := ⟨none, vectorHost⟩

/-- The second look, at a layout program that is repaired. -/
def repairedLook : Look :=
  ⟨failedLook.found? rasterWatch, failedLook.next rasterWatch [.engine Session.blankEngine]⟩

/-- The error of the layout program, if that is why a run failed. -/
def layoutError? {α : Type} : Except Fault α → Option Layout.LayoutError
  | .error (.layout e) => some e
  | _ => none

theorem exists_layoutError {α : Type} {r : Except Fault α} (h : (layoutError? r).isSome = true) :
    ∃ e, r = .error (.layout e) := by
  unfold layoutError? at h
  split at h
  · next e => exact ⟨e, rfl⟩
  · cases h

/-- The watch goes on after the first look, and the second one finds the document as it was. -/
theorem looks_rasterWatch :
    rasterWatch.looks none vectorHost [[.engine Session.blankEngine]] = [failedLook, repairedLook] ∧
      repairedLook.host.files.stamp rasterWatch.document = .ok (.change 0) := by
  obtain ⟨hresult, hfound⟩ :
      (failedLook.result rasterWatch).toOption = some (failedLook.found? rasterWatch) ∧
        repairedLook.found? rasterWatch = some (.change 0) := by
    decide +kernel
  exact ⟨looks_cons_of_ok (toOption_eq_some_iff.mp hresult) _ _, found?_eq_some_iff.mp hfound⟩

/-- What a look at the repaired program finds is what the failed look before it found, so it does
nothing. -/
theorem retries_iff_repaired :
    (failedLook.found? rasterWatch).or (rasterWatch.lastFound []) = some (.change 0) ∧
      repairedLook.tries rasterWatch = false ∧
      (rasterWatch.poll repairedLook.seen).outcome repairedLook.host =
        (.ok (some (.change 0)), repairedLook.host) := by
  have htakes : rasterWatch.Takes ([] ++ [failedLook] ++ [] ++ [repairedLook]) := by
    have htakes := rasterWatch.takes_looks vectorHost [[.engine Session.blankEngine]]
    rwa [looks_rasterWatch.1] at htakes
  obtain ⟨hiff, hsame, -⟩ := retries_iff htakes (by simp) looks_rasterWatch.2
  have hlast : (failedLook.found? rasterWatch).or (rasterWatch.lastFound []) =
      some (.change 0) := by decide +kernel
  have htries : repairedLook.tries rasterWatch = false := by
    rw [← Bool.not_eq_true, hiff]
    exact not_not_intro hlast
  exact ⟨hlast, htries, hsame htries⟩

/-- A failed version is not tried again when the cause is gone: the second look does nothing, though
an update would go well and write the picture. -/
theorem stays_failed :
    rasterWatch.looks none vectorHost [[.engine Session.blankEngine]] =
      [failedLook, repairedLook] ∧
    (∃ e, (rasterWatch.update.outcome failedLook.host).1 = .error (.layout e)) ∧
    (repairedLook.found? rasterWatch).isSome = true ∧
    repairedLook.after rasterWatch = repairedLook.host ∧
    (repairedLook.host.files.read rasterWatch.output).toOption = none ∧
    ∃ h, rasterWatch.update.outcome repairedLook.host = (.ok (), h) ∧
      (h.files.read rasterWatch.output).toOption.isSome = true := by
  refine ⟨looks_rasterWatch.1, ?_, by decide +kernel, ?_, by decide +kernel, ?_⟩
  · exact exists_layoutError (by decide +kernel)
  · have hseen : repairedLook.seen = some (.change 0) := by decide +kernel
    unfold Look.after
    rw [hseen, outcome_poll_same looks_rasterWatch.2]
  · obtain ⟨h, hrun⟩ := exists_outcome_eq_ok (h := repairedLook.host) (a := rasterWatch.update)
      (x := ()) (by decide +kernel)
    have hread : ((rasterWatch.update.outcome repairedLook.host).2.files.read
        rasterWatch.output).toOption.isSome = true := by decide +kernel
    rw [hrun] at hread
    exact ⟨h, hrun, hread⟩

end ThreatTree.Watch
