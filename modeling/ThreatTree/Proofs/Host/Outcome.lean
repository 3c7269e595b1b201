import ThreatTree.Host
import ThreatTree.Proofs.Sequence

/-!
# What actions come to

An action on a host comes to a value or a fault, and to another host (`Action.outcome`). One
equation for each way of putting actions together and one for each step that a host offers; what
longer actions come to is computed with them, and no proof about an action opens the monad.
-/

namespace ThreatTree

/-- The host with some more events in its journal. -/
def Host.noted (h : Host) (j : Journal) : Host := { h with journal := h.journal ++ j }

/-- The host with other files. -/
def Host.withFiles (h : Host) (files : Files) : Host := { h with files := files }

namespace Host

/-- The output stream takes a text. -/
def Prints (h : Host) (text : String) : Prop := h.refusal? (Text.plain text) = none

variable (h : Host) (j k : Journal) (files : Files)

@[simp] theorem noted_files : (h.noted j).files = h.files := rfl

@[simp] theorem noted_engine : (h.noted j).engine = h.engine := rfl

@[simp] theorem noted_time : (h.noted j).time = h.time := rfl

@[simp] theorem noted_refusal? : (h.noted j).refusal? = h.refusal? := rfl

@[simp] theorem noted_journal : (h.noted j).journal = h.journal ++ j := rfl

@[simp] theorem noted_noted : (h.noted j).noted k = h.noted (j ++ k) := by
  simp [noted]

@[simp] theorem withFiles_files : (h.withFiles files).files = files := rfl

@[simp] theorem withFiles_engine : (h.withFiles files).engine = h.engine := rfl

@[simp] theorem withFiles_time : (h.withFiles files).time = h.time := rfl

@[simp] theorem withFiles_refusal? : (h.withFiles files).refusal? = h.refusal? := rfl

@[simp] theorem withFiles_journal : (h.withFiles files).journal = h.journal := rfl

end Host

namespace Action

variable {α β ε : Type}

/-- What an action comes to on a host, and the host after it. -/
def outcome (a : Action α) (h : Host) : Except Fault α × Host := StateT.run (ExceptT.run a) h

/-! ### Actions put together -/

@[simp] theorem outcome_pure (x : α) (h : Host) : (pure x : Action α).outcome h = (.ok x, h) := rfl

@[simp] theorem outcome_throw (f : Fault) (h : Host) :
    (throw f : Action α).outcome h = (.error f, h) := rfl

theorem outcome_bind (a : Action α) (f : α → Action β) (h : Host) :
    (a >>= f).outcome h =
      match a.outcome h with
      | (.ok x, h') => (f x).outcome h'
      | (.error e, h') => (.error e, h') := by
  simp only [outcome, ExceptT.run_bind, StateT.run_bind]
  rcases StateT.run (ExceptT.run a) h with ⟨x | x, h'⟩ <;> rfl

/-- The actions after one that succeeds. -/
theorem outcome_bind_ok {a : Action α} {h h' : Host} {x : α} (ha : a.outcome h = (.ok x, h'))
    (f : α → Action β) : (a >>= f).outcome h = (f x).outcome h' := by
  rw [outcome_bind, ha]

/-- A fault ends the actions after it as well. -/
theorem outcome_bind_error {a : Action α} {h h' : Host} {e : Fault}
    (ha : a.outcome h = (.error e, h')) (f : α → Action β) :
    (a >>= f).outcome h = (.error e, h') := by
  rw [outcome_bind, ha]

/-- Actions one after the other succeed if each of them does. -/
theorem outcome_bind_eq_ok_iff {a : Action α} {f : α → Action β} {h h'' : Host} {y : β} :
    (a >>= f).outcome h = (.ok y, h'') ↔
      ∃ x h', a.outcome h = (.ok x, h') ∧ (f x).outcome h' = (.ok y, h'') := by
  rw [outcome_bind]
  rcases a.outcome h with ⟨e | x, h'⟩
  · simp
  · simp

theorem outcome_tryCatch (a : Action α) (f : Fault → Action α) (h : Host) :
    (tryCatch a f).outcome h =
      match a.outcome h with
      | (.ok x, h') => (.ok x, h')
      | (.error e, h') => (f e).outcome h' := by
  show StateT.run (ExceptT.run (ExceptT.tryCatch a f)) h = _
  simp only [outcome, ExceptT.run, ExceptT.tryCatch, ExceptT.mk, StateT.run_bind]
  rcases StateT.run a h with ⟨x | x, h'⟩ <;> rfl

theorem exists_outcome_eq_ok {a : Action α} {h : Host} {x : α}
    (hok : (a.outcome h).1.toOption = some x) : ∃ h', a.outcome h = (.ok x, h') := by
  rcases houtcome : a.outcome h with ⟨e | y, h'⟩ <;> rw [houtcome] at hok <;> cases hok
  exact ⟨h', rfl⟩

/-! ### Steps of a host -/

@[simp] theorem outcome_get (h : Host) : (get : Action Host).outcome h = (.ok h, h) := rfl

@[simp] theorem outcome_modify (f : Host → Host) (h : Host) :
    (modify f : Action Unit).outcome h = (.ok (), f h) := rfl

@[simp] theorem outcome_noteAll (j : Journal) (h : Host) :
    (noteAll j).outcome h = (.ok (), h.noted j) := rfl

@[simp] theorem outcome_note (e : Event) (h : Host) :
    (note e).outcome h = (.ok (), h.noted [e]) := rfl

@[simp] theorem outcome_lift (fault : ε → Fault) (r : Except ε α) (h : Host) :
    (lift fault r).outcome h = (r.mapError fault, h) := by
  cases r <;> rfl

/-- A text is printed unless it is refused, and then nothing is noted. -/
theorem outcome_print (text : String) (whole : Bool) (h : Host) :
    (print text whole).outcome h =
      match h.refused? text whole with
      | some r => (.error (.unprinted text r), h)
      | none => (.ok (), h.noted [.print text]) := by
  rw [print, outcome_bind_ok (outcome_get h)]
  cases h.refused? text whole <;> rfl

theorem outcome_say (line : String) (h : Host) :
    (say line).outcome h =
      match h.refusal? (Text.plain (line ++ "\n")) with
      | some r => (.error (.unprinted (line ++ "\n") r), h)
      | none => (.ok (), h.noted [.print (line ++ "\n")]) :=
  outcome_print _ true h

/-- A line that is printed changes no file. -/
theorem files_of_say {line : String} {h h' : Host} (hrun : (say line).outcome h = (.ok (), h')) :
    h'.files = h.files := by
  rw [outcome_say] at hrun
  split at hrun <;> cases hrun
  rfl

/-- A text that the output stream takes is printed. -/
theorem outcome_print_of_prints {text : String} {h : Host} (hprints : h.Prints text) :
    (print text true).outcome h = (.ok (), h.noted [.print text]) := by
  rw [outcome_print, Host.refused?, if_pos rfl, hprints]

theorem outcome_readBytes (p : Path) (h : Host) :
    (readBytes p).outcome h = ((h.files.read p).mapError .file, h) := by
  rw [readBytes, outcome_bind_ok (outcome_get h), outcome_lift]

/-- The text of some bytes, with newlines alone as line ends. -/
def textOf? (bytes : Bytes) : Option String :=
  (Text.Utf8.decodeChars? bytes).map fun cs => String.ofList (Text.normalizeNewlines cs)

/-- The text that a file holds, or why there is none. -/
def textIn (files : Files) (p : Path) : Except Fault String :=
  match files.read p with
  | .error e => .error (.file e)
  | .ok bytes =>
    match textOf? bytes with
    | some text => .ok text
    | none => .error .notText

theorem outcome_readText (p : Path) (h : Host) :
    (readText p).outcome h = (textIn h.files p, h) := by
  rw [readText, outcome_bind, outcome_readBytes, textIn]
  cases h.files.read p with
  | error e => rfl
  | ok bytes =>
    dsimp only [mapError_ok, textOf?]
    cases Text.Utf8.decodeChars? bytes <;> rfl

theorem outcome_writeBytes (p : Path) (bytes : Bytes) (h : Host) :
    (writeBytes p bytes).outcome h =
      match h.files.write p bytes with
      | .ok files => (.ok (), h.withFiles files)
      | .error e => (.error (.file e), h) := by
  rw [writeBytes, outcome_bind_ok (outcome_get h), outcome_bind, outcome_lift]
  cases h.files.write p bytes <;> rfl

/-- Writing a file changes nothing but the files. -/
theorem exists_outcome_writeBytes (p : Path) (bytes : Bytes) (h : Host) :
    ∃ x files, (writeBytes p bytes).outcome h = (Except.mapError .file x, h.withFiles files) := by
  rw [outcome_writeBytes]
  cases h.files.write p bytes with
  | error e => exact ⟨.error e, h.files, rfl⟩
  | ok files => exact ⟨.ok (), files, rfl⟩

theorem outcome_makeDirectories (p : Path) (h : Host) :
    (makeDirectories p).outcome h =
      ((h.files.makeDirectories p).2.mapError .file, h.withFiles (h.files.makeDirectories p).1) := by
  rw [makeDirectories, outcome_bind_ok (outcome_get h)]
  simp only [outcome_bind, outcome_modify, outcome_lift]
  rfl

/-! ### Pictures -/

/-- What is noted of the attempt to make a picture, and of the picture if there is one. -/
def pictureLog (a : Layout.Attempt) (format program : String) : Journal :=
  attemptLog a ++
    match a.result with
    | .ok bytes => [pictureLine bytes format program]
    | .error _ => []

/-- The layout program is asked once if the attempt gets as far. -/
theorem requests_pictureLog (a : Layout.Attempt) (format program : String) :
    (pictureLog a format program).requests = a.request.toList := by
  obtain ⟨request, report, result⟩ := a
  rw [pictureLog, attemptLog, Journal.requests_append, Journal.requests_append]
  cases request <;> cases result <;> by_cases hr : report = "" <;>
    simp [hr, Journal.requests, Event.request?, pictureLine]

theorem outcome_picture (dot format program : String) (whole : Bool) (h : Host) :
    (picture dot format program whole).outcome h =
      ((Layout.attemptOf h.engine dot format program whole).result.mapError .layout,
        h.noted
          (pictureLog (Layout.attemptOf h.engine dot format program whole) format program)) := by
  rw [picture, outcome_bind_ok (outcome_get h), outcome_bind_ok (outcome_noteAll _ h), outcome_bind,
    outcome_lift, pictureLog]
  cases (Layout.attemptOf h.engine dot format program whole).result with
  | error e => simp
  | ok bytes =>
    simp only [mapError_ok, outcome_bind, outcome_note, outcome_pure, Host.noted_noted]

theorem outcome_rasterPicture (dot program : String) (dpi : Int) (h : Host) :
    (rasterPicture dot program dpi).outcome h =
      ((Layout.attempt h.engine (Layout.withDpi dot dpi) "png" program).result.mapError .layout,
        h.noted (pictureLog (Layout.attempt h.engine (Layout.withDpi dot dpi) "png" program) "png"
          program)) :=
  outcome_picture _ _ _ true h

/-- A picture as a text, or why there is none. -/
def vectorResult (a : Layout.Attempt) : Except Fault String :=
  match a.result with
  | .error e => .error (.layout e)
  | .ok bytes =>
    match Text.Utf8.decode? bytes with
    | some svg => .ok svg
    | none => .error .notText

theorem outcome_vectorPicture (dot program : String) (whole : Bool) (h : Host) :
    (vectorPicture dot program whole).outcome h =
      (vectorResult (Layout.attemptOf h.engine dot "svg" program whole),
        h.noted (pictureLog (Layout.attemptOf h.engine dot "svg" program whole) "svg" program)) := by
  rw [vectorPicture, outcome_bind, outcome_picture, vectorResult]
  cases (Layout.attemptOf h.engine dot "svg" program whole).result with
  | error e => rfl
  | ok bytes =>
    dsimp only [mapError_ok]
    cases Text.Utf8.decode? bytes <;> rfl

end Action
end ThreatTree
