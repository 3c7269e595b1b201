import ThreatTree.Layout.Engine

/-!
# What an attempt rests on

An attempt to make a picture makes one request at most, and which one does not depend on the layout
program (`request?`). All that comes of it is determined by the answer to this request
(`attempt_eq`). A picture is what the layout program wrote when it succeeded, and there is none of a
text that cannot be encoded (`exists_of_attemptOf_eq_ok`).
-/

namespace ThreatTree.Layout

/-- The request that is made for a picture; none if the way to arrange the graph or the format is
unknown. -/
def request? (dot format program : String) : Option Request :=
  if programs.contains (Text.lower program) && formats.contains (Text.lower format) then
    some ⟨Text.lower program, format, inputOf dot⟩
  else none

/-- Why no request is made. -/
def refusal (format program : String) : LayoutError :=
  if programs.contains (Text.lower program) then .unknownFormat format
  else .unknownProgram (Text.lower program)

/-- What an answer to a request comes to. -/
def answered (r : Request) : Response → Attempt
  | .missing => ⟨some r, "", .error .notInstalled⟩
  | .finished status output errors =>
    match Text.Utf8.gap? errors with
    | some g => ⟨some r, "", .error (.unreadableReport g)⟩
    | none =>
      ⟨some r, (Text.Utf8.decode? errors).getD "",
        if status = 0 then .ok output else .error (.failed r status errors)⟩

variable {engine engine' : Engine} {dot format program : String}

theorem attempt_eq :
    attempt engine dot format program =
      match request? dot format program with
      | some r => answered r (engine r)
      | none => ⟨none, "", .error (refusal format program)⟩ := by
  unfold attempt request? refusal
  dsimp only
  cases programs.contains (Text.lower program)
  · rfl
  cases formats.contains (Text.lower format)
  · rfl
  simp only [Bool.not_true, Bool.false_eq_true, if_false, Bool.and_self, if_true]
  cases engine ⟨Text.lower program, format, inputOf dot⟩ with
  | missing => rfl
  | finished status output errors =>
    dsimp only [answered]
    cases Text.Utf8.gap? errors <;> rfl

@[simp] theorem answered_request (r : Request) (answer : Response) :
    (answered r answer).request = some r := by
  cases answer with
  | missing => rfl
  | finished status output errors =>
    dsimp only [answered]
    cases Text.Utf8.gap? errors <;> rfl

theorem attempt_request :
    (attempt engine dot format program).request = request? dot format program := by
  rw [attempt_eq]
  split
  · next hr => rw [answered_request, hr]
  · next hr => exact hr.symm

/-- Layout programs that answer the request alike are alike for a picture. -/
theorem attempt_congr (h : ∀ r ∈ request? dot format program, engine r = engine' r) :
    attempt engine dot format program = attempt engine' dot format program := by
  rw [attempt_eq, attempt_eq]
  split
  · next r hr => rw [h r hr]
  · rfl

/-- A picture is what the layout program wrote when it succeeded. -/
theorem exists_of_attempt_eq_ok {bytes : Bytes}
    (h : (attempt engine dot format program).result = .ok bytes) :
    ∃ r errors, request? dot format program = some r ∧ engine r = .finished 0 bytes errors := by
  rw [attempt_eq] at h
  split at h
  · next r hr =>
    cases hanswer : engine r with
    | missing => rw [hanswer] at h; cases h
    | finished status output errors =>
      rw [hanswer, answered] at h
      split at h
      · cases h
      · by_cases hstatus : status = 0
        · rw [if_pos hstatus] at h
          cases h
          exact ⟨r, errors, hr, hstatus ▸ hanswer⟩
        · rw [if_neg hstatus] at h
          cases h
  · cases h

/-- A layout program that succeeds and reports nothing makes a picture of what it writes. -/
theorem attempt_eq_ok {r : Request} (hr : request? dot format program = some r) {output : Bytes}
    (hanswer : engine r = .finished 0 output []) :
    (attempt engine dot format program).result = .ok output := by
  have hgap : Text.Utf8.gap? [] = none := by decide +kernel
  rw [attempt_eq, hr]
  dsimp only
  rw [hanswer, answered, hgap]
  rfl

/-! ### Texts that cannot be encoded -/

variable {whole : Bool}

theorem brokenOff_request (a : Attempt) : a.brokenOff.request = a.request := by
  unfold Attempt.brokenOff
  cases a.result with
  | error e =>
    dsimp only
    split <;> rfl
  | ok _ => rfl

theorem brokenOff_result_ne_ok (a : Attempt) (bytes : Bytes) : a.brokenOff.result ≠ .ok bytes := by
  unfold Attempt.brokenOff
  cases hresult : a.result with
  | error e =>
    dsimp only
    split <;> simp [hresult]
  | ok _ => simp

theorem attemptOf_request :
    (attemptOf engine dot format program whole).request = request? dot format program := by
  unfold attemptOf
  cases whole with
  | true => exact attempt_request
  | false => exact (brokenOff_request _).trans attempt_request

/-- A picture is one of a text that can be encoded, and is what the layout program wrote when it
succeeded. -/
theorem exists_of_attemptOf_eq_ok {bytes : Bytes}
    (h : (attemptOf engine dot format program whole).result = .ok bytes) :
    whole = true ∧
      ∃ r errors, request? dot format program = some r ∧ engine r = .finished 0 bytes errors := by
  cases whole with
  | true => exact ⟨rfl, exists_of_attempt_eq_ok h⟩
  | false => exact absurd h (brokenOff_result_ne_ok _ bytes)

/-- The format of a request is the one of the picture. -/
theorem format_of_request? {r : Request} (h : request? dot format program = some r) :
    r.format = format := by
  unfold request? at h
  split at h
  · cases h
    rfl
  · cases h

end ThreatTree.Layout
