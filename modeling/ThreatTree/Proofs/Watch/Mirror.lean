import ThreatTree.Proofs.Session.History
import ThreatTree.Proofs.Session.Process
import ThreatTree.Proofs.Watch.Output
import ThreatTree.Proofs.Watch.Survival

/-!
# The output of a watch mirrors the document

Where the layout program does its work, stamps tell versions apart and nobody else writes the output,
the output is after every look what an export of the last version to be shown would write, and no file
is touched before there is one (`mirrors_last_shown`). What is broken, empty or missing in between
changes nothing. An export at another time writes another page, one by another process may show a set in
another order, and a version that cannot be encoded has no picture though it compiles
(`mirrors_otherwise`).

The proof goes by induction on the looks. Two facts are kept from look to look: if the version that
was tried last is one to be shown, it is the last one of these that was seen (`lastShown_of_lastTried`),
and the output holds the artifact of the last version to be shown (`Mirrored`).
-/

namespace ThreatTree.Watch

open ThreatTree.Action

section Looks

variable [o : SetOrder]

variable (w : Watch)

/-- The text of the last version to be shown that some looks found. -/
def lastShown (ls : List Look) : Option String := (ls.filterMap (·.shown? w)).getLast?

/-- The last of some looks that tried the version it found. -/
def lastTried (ls : List Look) : Option Look := (ls.filter (·.tries w)).getLast?

/-- What a watch can rely on, all through some looks. -/
structure Undisturbed (engine : Layout.Engine) (ls : List Look) : Prop where
  takes : w.Takes ls
  /-- The layout program stays the same and does its work. -/
  steady : ∀ l ∈ ls, l.host.engine = engine
  succeeds : engine.Succeeds w.session.program
  /-- A version with the stamp of the one that was tried last is the same. -/
  content : ∀ before l after, ls = before ++ l :: after → ∀ l₀ ∈ w.lastTried before,
    l.found? w = l₀.found? w → l.host.files.read w.document = l₀.host.files.read w.document
  writable : ∀ l ∈ ls, l.host.files.Writable w.output
  /-- Between two looks the output stays as it is. -/
  untouched : ls.IsChain fun l l' => l'.host.files.read w.output = (l.after w).files.read w.output

variable {w} {engine : Layout.Engine} {ls : List Look} {l : Look}

theorem Undisturbed.left {after : List Look} (h : w.Undisturbed engine (ls ++ after)) :
    w.Undisturbed engine ls where
  takes := h.takes.left
  steady l hl := h.steady l (List.mem_append_left _ hl)
  succeeds := h.succeeds
  content before l rest hls := by
    refine h.content before l (rest ++ after) ?_
    rw [hls, List.append_assoc, List.cons_append]
  writable l hl := h.writable l (List.mem_append_left _ hl)
  untouched := h.untouched.left_of_append

theorem lastShown_concat (ls : List Look) (l : Look) :
    w.lastShown (ls ++ [l]) = (l.shown? w).or (w.lastShown ls) :=
  getLast?_filterMap_concat _ ls l

omit o in
theorem lastTried_concat (ls : List Look) (l : Look) :
    w.lastTried (ls ++ [l]) = if l.tries w then some l else w.lastTried ls := by
  unfold lastTried
  rw [List.filter_append]
  split <;> next htries => simp [htries]

/-! ### The version that was tried last -/

/-- What was found last was found by the look that tried last. -/
theorem lastFound_eq (h : w.Takes ls) : w.lastFound ls = (w.lastTried ls).bind (·.found? w) := by
  induction ls using List.reverseRecOn with
  | nil => rfl
  | append_singleton ls l ih =>
    rw [lastFound_concat, lastTried_concat]
    cases htries : l.tries w with
    | true =>
      obtain ⟨stamp, hstamp, -⟩ := tries_eq_true_iff.mp htries
      rw [found?_eq_some_iff.mpr hstamp, Option.some_or, if_pos rfl, Option.bind_some,
        found?_eq_some_iff.mpr hstamp]
    | false =>
      rw [if_neg (by simp), ← ih h.left]
      cases hfound : l.found? w with
      | none => rw [Option.none_or]
      | some stamp =>
        rw [Option.some_or, ← seen_of_takes h, seen_of_not_tries htries hfound]

/-- A look that finds a version and does not try it finds the one that was tried last. -/
theorem exists_lastTried (h : w.Undisturbed engine (ls ++ [l])) (htries : l.tries w = false)
    {stamp : Stamp} (hfound : l.found? w = some stamp) :
    ∃ l₀ ∈ w.lastTried ls, l.host.files.read w.document = l₀.host.files.read w.document := by
  have hlast : (w.lastTried ls).bind (·.found? w) = some stamp := by
    rw [← lastFound_eq h.takes.left, ← seen_of_takes h.takes, seen_of_not_tries htries hfound]
  obtain ⟨l₀, hl₀, hsame⟩ := Option.bind_eq_some_iff.mp hlast
  exact ⟨l₀, hl₀, h.content ls l [] rfl l₀ hl₀ (hfound.trans hsame.symm)⟩

theorem shown?_congr {l l₀ : Look}
    (h : l.host.files.read w.document = l₀.host.files.read w.document) :
    l.shown? w = l₀.shown? w := by
  rw [Look.shown?, Look.shown?, textIn, textIn, h]

theorem shown?_of_absent (hfound : l.found? w = none) : l.shown? w = none := by
  obtain ⟨e, hstamp⟩ := found?_eq_none_iff.mp hfound
  obtain ⟨e', hread⟩ := Files.exists_of_stamp_eq_error hstamp
  rw [Look.shown?, textIn, hread]

/-- If the version that was tried last is one to be shown, it is the last one of these that was
found. -/
theorem lastShown_of_lastTried (h : w.Undisturbed engine ls) {l₀ : Look}
    (hl₀ : l₀ ∈ w.lastTried ls) {text : String} (hshown : l₀.shown? w = some text) :
    w.lastShown ls = some text := by
  induction ls using List.reverseRecOn with
  | nil => cases hl₀
  | append_singleton ls l ih =>
    rw [lastTried_concat] at hl₀
    rw [lastShown_concat]
    cases htries : l.tries w with
    | true =>
      rw [htries, if_pos rfl] at hl₀
      cases hl₀
      rw [hshown, Option.some_or]
    | false =>
      rw [htries, if_neg (by simp)] at hl₀
      cases hfound : l.found? w with
      | none => rw [shown?_of_absent hfound, Option.none_or, ih h.left hl₀]
      | some stamp =>
        -- The version is the one that was tried last, so it has the same text.
        obtain ⟨l₁, hl₁, hsame⟩ := exists_lastTried h htries hfound
        obtain rfl : l₀ = l₁ := Option.some.inj (hl₀.symm.trans hl₁)
        rw [shown?_congr hsame, hshown, Option.some_or]

/-! ### The output -/

/-- The output after some looks: the artifact of the last version to be shown, as the look that tried
it made it; before there is such a version, no look has changed a file. -/
def Mirrored (w : Watch) (engine : Layout.Engine) (ls : List Look) : Prop :=
  match w.lastShown ls with
  | none => ∀ m ∈ ls, (m.after w).files = m.host.files
  | some text =>
    ∃ bytes, ∃ m ∈ ls, m.shown? w = some text ∧
      w.session.IsArtifact engine m.host.time text (Format.ofPath w.output) bytes ∧
      ∀ l ∈ ls.getLast?, (l.after w).files.read w.output = .ok bytes

/-- A look that changes no file leaves the output as it was after the look before. -/
theorem Mirrored.concat (h : w.Mirrored engine ls) (hls : w.Undisturbed engine (ls ++ [l]))
    (hfiles : (l.after w).files = l.host.files)
    (hshown : w.lastShown (ls ++ [l]) = w.lastShown ls) : w.Mirrored engine (ls ++ [l]) := by
  unfold Mirrored at h ⊢
  rw [hshown]
  cases hlast : w.lastShown ls with
  | none =>
    rw [hlast] at h
    intro m hm
    rcases List.mem_append.mp hm with hm | hm
    · exact h m hm
    · rw [List.mem_singleton.mp hm, hfiles]
  | some text =>
    rw [hlast] at h
    obtain ⟨bytes, m, hm, htext, hartifact, hread⟩ := h
    refine ⟨bytes, m, List.mem_append_left _ hm, htext, hartifact, ?_⟩
    intro l' hl'
    obtain rfl : l = l' := by simpa using hl'
    have hbefore := List.getLast?_eq_some_getLast (List.ne_nil_of_mem hm)
    have hstep := (List.isChain_append.mp hls.untouched).2.2 _ hbefore l (by simp)
    rw [hfiles, hstep, hread _ hbefore]

/-- **After any looks the output is the artifact of the last version to be shown.** -/
theorem mirrored_of_undisturbed (h : w.Undisturbed engine ls) : w.Mirrored engine ls := by
  induction ls using List.reverseRecOn with
  | nil => simp [Mirrored, lastShown]
  | append_singleton ls l ih =>
    have hmem : l ∈ ls ++ [l] := by simp
    have hprogram : l.host.engine.Succeeds w.session.program := by
      rw [h.steady l hmem]
      exact h.succeeds
    cases hshown : l.shown? w with
    | none =>
      refine (ih h.left).concat h (Look.files_after (.inr hshown)) ?_
      rw [lastShown_concat, hshown, Option.none_or]
    | some text =>
      cases htries : l.tries w with
      | true =>
        obtain ⟨bytes, hread, hartifact⟩ := Look.read_after hprogram (h.writable l hmem) htries hshown
        rw [h.steady l hmem] at hartifact
        rw [Mirrored, lastShown_concat, hshown, Option.some_or]
        refine ⟨bytes, l, hmem, hshown, hartifact, ?_⟩
        intro l' hl'
        obtain rfl : l = l' := by simpa using hl'
        exact hread
      | false =>
        -- The version was tried before, and what was written then is still there.
        refine (ih h.left).concat h (Look.files_after (.inl htries)) ?_
        cases hfound : l.found? w with
        | none =>
          rw [shown?_of_absent hfound] at hshown
          cases hshown
        | some stamp =>
          obtain ⟨l₀, hl₀, hsame⟩ := exists_lastTried h htries hfound
          rw [shown?_congr hsame] at hshown
          rw [lastShown_concat, shown?_congr hsame, hshown, Option.some_or,
            lastShown_of_lastTried h.left hl₀ hshown]

/-! ### The watch of a command -/

/-- A watch between two paths, as a command asks for it. -/
def watching (document output : String) (view : View) (settings : Settings) (interval : Float) :
    Watch :=
  ⟨.ofString document, .ofString output, .start view.focus view.theme settings, interval⟩

/-- **Watching is exporting the last version to be shown.** After every look, as long as no version
compiled to a graph with a node and to a text that can be encoded, no look has changed any file. From then
on the output holds what a one-time export of the last such version writes, in any process that reads the
version alike and on any host with this version, the same layout program and an output that can be
written; what an export writes depends on its time only on a page, and there only in the footer. -/
theorem mirrors_last_shown {document output : String} {view : View} {settings : Settings}
    {interval : Float} {engine : Layout.Engine} {ls : List Look}
    (h : (watching document output view settings interval).Undisturbed engine ls)
    {before after : List Look} {l : Look} (hls : ls = before ++ l :: after) :
    let w := watching document output view settings interval
    match w.lastShown (before ++ [l]) with
    | none => ∀ m ∈ before ++ [l], (m.after w).files = m.host.files
    | some text =>
      ∃ artifact : String → Bytes,
        (Format.ofPath w.output ≠ .html → ∀ time time', artifact time = artifact time') ∧
        (Format.ofPath w.output = .html → ∃ above, ∀ time,
          artifact time = Text.Utf8.encode (above ++ Page.footer time)) ∧
        (∃ m ∈ before ++ [l], m.shown? w = some text ∧
          (l.after w).files.read w.output = .ok (artifact m.host.time)) ∧
        ∀ (o' : SetOrder) (g : Host), Yaml.ReadAlike o o' text →
          textIn g.files w.document = .ok text → g.engine = engine → g.files.Writable w.output →
          ∃ g', (@Command.runExport o' (some settings) document output view).outcome g =
              (say (Command.exportedLine (.ofString output))).outcome g' ∧
            g'.files.read w.output = .ok (artifact g.time) := by
  intro w
  have hprefix : w.Undisturbed engine (before ++ [l]) := by
    have hwhole : w.Undisturbed engine ((before ++ [l]) ++ after) := by
      rwa [List.append_assoc, List.singleton_append, ← hls]
    exact hwhole.left
  have hmirrored := mirrored_of_undisturbed hprefix
  unfold Mirrored at hmirrored
  cases hlast : w.lastShown (before ++ [l]) with
  | none =>
    rw [hlast] at hmirrored
    exact hmirrored
  | some text =>
    rw [hlast] at hmirrored
    obtain ⟨bytes, m, hm, htext, hbytes, hread⟩ := hmirrored
    have hshows := (Look.shown?_eq_some_iff.mp htext).2
    obtain ⟨artifact, hiff, hconstant, hfooter⟩ :=
      w.session.exists_artifacts hprefix.succeeds hshows (Format.ofPath w.output)
    obtain rfl := (hiff _ _).mp hbytes
    refine ⟨artifact, hconstant, hfooter, ⟨m, hm, htext, hread l (by simp)⟩, ?_⟩
    have hsucceeds := hprefix.succeeds
    intro o' g halike hg hengine hwritable
    subst hengine
    -- In the other process the version is shown too, and has the same artifacts.
    rw [w.session.shows_eq_of_readAlike halike] at hshows
    obtain ⟨g', bytes', hexport, hread', hartifact⟩ :=
      @Command.exists_runExport o' settings view document output text g hsucceeds hg hshows hwritable
    have hartifact := (w.session.isArtifact_iff_of_readAlike halike).mpr hartifact
    obtain rfl := (hiff _ _).mp hartifact
    exact ⟨g', hexport, hread'⟩

end Looks

/-! ### A version that is broken -/

attribute [local instance] SetOrder.written

/-- A watch of one file, as a command asks for it. -/
def fileWatch : Watch := watching "d.yaml" "o.svg" ⟨[], none⟩ .default 1

/-- A look at a document that is shown. -/
def shownLook : Look := ⟨none, exampleHost⟩

/-- What breaks the document. -/
def breaking : List Change := [rewritten (Text.Utf8.encode "facts: [b\n")]

/-- The next look, after the document was broken. -/
def brokenLook : Look := ⟨shownLook.found? fileWatch, shownLook.next fileWatch breaking⟩

theorem undisturbed_fileWatch :
    fileWatch.Undisturbed Session.blankEngine [shownLook, brokenLook] := by
  have hresult : shownLook.result fileWatch = .ok (shownLook.found? fileWatch) :=
    toOption_eq_some_iff.mp (by decide +kernel)
  refine ⟨?takes, ?steady, succeeds_blankEngine, ?content, ?writable, ?untouched⟩
  case takes =>
    have htakes := fileWatch.takes_looks exampleHost [breaking]
    rwa [looks_cons_of_ok hresult] at htakes
  case steady =>
    intro l hl
    obtain ⟨files, j, hafter, -⟩ := Look.exists_after (by decide +kernel) hresult
    rcases List.mem_pair.mp hl with rfl | rfl
    · rfl
    · rw [brokenLook, Look.next, hafter]
      rfl
  case content =>
    intro before l after hls l₀ hl₀ hfound
    -- Only the broken version has one that was tried before it, and the two have different stamps.
    cases before with
    | nil => cases hl₀
    | cons l₁ rest =>
      rw [List.cons_append, List.cons.injEq] at hls
      obtain ⟨rfl, hls⟩ := hls
      cases rest with
      | nil =>
        obtain ⟨rfl, rfl⟩ := List.cons.inj hls
        have htried : fileWatch.lastTried [shownLook] = some shownLook := by
          have htries : shownLook.tries fileWatch = true := by decide +kernel
          simp [lastTried, htries]
        rw [htried, Option.mem_some_iff] at hl₀
        subst hl₀
        exact absurd hfound (by decide +kernel)
      | cons l₂ rest => simp at hls
  case writable =>
    intro l hl
    rcases List.mem_pair.mp hl with rfl | rfl
    · decide +kernel
    · decide +kernel
  case untouched =>
    refine .cons_cons ?_ (.singleton _)
    decide +kernel

/-- After a version that is broken the output is still what an export of the one before it writes, also in
a process that lists sets in another order. -/
theorem mirrors_broken_file :
    ∃ bytes, (brokenLook.after fileWatch).files.read fileWatch.output = .ok bytes ∧
      ∃ g', (@Command.runExport .reversed (some .default) "d.yaml" "o.svg" ⟨[], none⟩).outcome
            exampleHost = (say (Command.exportedLine (.ofString "o.svg"))).outcome g' ∧
        g'.files.read fileWatch.output = .ok bytes := by
  have hlast : (watching "d.yaml" "o.svg" ⟨[], none⟩ .default 1).lastShown
      ([shownLook] ++ [brokenLook]) = some "facts: [a]\n" := by decide +kernel
  have hmirrors := mirrors_last_shown undisturbed_fileWatch (l := brokenLook)
    (rfl : _ = [shownLook] ++ brokenLook :: [])
  dsimp only at hmirrors
  rw [hlast] at hmirrors
  obtain ⟨artifact, hconstant, -, ⟨m, hm, -, hread⟩, hexport⟩ := hmirrors
  have hshown : shownLook.shown? fileWatch = some "facts: [a]\n" := by decide +kernel
  obtain ⟨g', hrun, hread'⟩ := hexport .reversed exampleHost (Yaml.readAlike_oneFact _ _)
    (Look.shown?_eq_some_iff.mp hshown).1 rfl (by decide +kernel)
  rw [hconstant (by decide +kernel) m.host.time exampleHost.time] at hread
  exact ⟨_, hread, g', hrun, hread'⟩

/-! ### Versions that are exported otherwise -/

/-- A watch that writes a page. -/
def pageWatch : Watch := watching "d.yaml" "o.html" ⟨[], none⟩ .default 1

/-- A watch that writes a DOT text. -/
def dotWatch : Watch := watching "d.yaml" "o.gv" ⟨[], none⟩ .default 1

/-- A look at a document with a set. -/
def setLook : Look := ⟨none, hostWith Session.setDocument⟩

/-- The look after the shown one, at a document with half a surrogate pair. -/
def halfLook : Look :=
  ⟨shownLook.found? fileWatch,
    shownLook.next fileWatch [rewritten (Text.Utf8.encode Session.halfDocument)]⟩

/-- The same host at another time. -/
def laterHost : Host := { exampleHost with time := Session.laterHost.time }

/-- What the first look at a version and a one-time export of it by another process write are artifacts
of it in the two processes. -/
theorem exists_look_and_export (o o' : SetOrder) {output text : String} {h g : Host}
    (hlook : textIn h.files (.ofString "d.yaml") = .ok text ∧ h.engine.Succeeds "dot" ∧
      h.files.Writable (.ofString output) ∧
      @Session.shows o (.start [] none .default) text = true ∧
      @Look.tries ⟨none, h⟩ (watching "d.yaml" output ⟨[], none⟩ .default 1) = true)
    (hexport : textIn g.files (.ofString "d.yaml") = .ok text ∧ g.engine.Succeeds "dot" ∧
      g.files.Writable (.ofString output) ∧
      @Session.shows o' (.start [] none .default) text = true) :
    ∃ bytes bytes' g',
      (@Look.after o ⟨none, h⟩ (watching "d.yaml" output ⟨[], none⟩ .default 1)).files.read
        (.ofString output) = .ok bytes ∧
      (@Command.runExport o' (some .default) "d.yaml" output ⟨[], none⟩).outcome g =
        (say (Command.exportedLine (.ofString output))).outcome g' ∧
      g'.files.read (.ofString output) = .ok bytes' ∧
      @Session.IsArtifact o (.start [] none .default) h.engine h.time text
        (Format.ofPath (.ofString output)) bytes ∧
      @Session.IsArtifact o' (.start [] none .default) g.engine g.time text
        (Format.ofPath (.ofString output)) bytes' := by
  obtain ⟨htext, hengine, hwritable, hshows, htries⟩ := hlook
  obtain ⟨htext', hengine', hwritable', hshows'⟩ := hexport
  obtain ⟨bytes, hread, hartifact⟩ := @Look.read_after o
    (watching "d.yaml" output ⟨[], none⟩ .default 1) ⟨none, h⟩ hengine hwritable htries text
    ((@Look.shown?_eq_some_iff o _ _ _).mpr ⟨htext, hshows⟩)
  obtain ⟨g', bytes', hrun, hread', hartifact'⟩ :=
    @Command.exists_runExport o' .default ⟨[], none⟩ "d.yaml" output text g hengine' htext' hshows'
      hwritable'
  exact ⟨bytes, bytes', g', hread, hrun, hread', hartifact, hartifact'⟩

/-- The output need not be what an export writes if that comes later and writes a page, or if it comes of
another process and shows a set, or if the version cannot be encoded, though it compiles to a graph with a
node. -/
theorem mirrors_otherwise :
    (∃ bytes bytes' g', (shownLook.after pageWatch).files.read pageWatch.output = .ok bytes ∧
      (Command.runExport (some .default) "d.yaml" "o.html" ⟨[], none⟩).outcome laterHost =
        (say (Command.exportedLine (.ofString "o.html"))).outcome g' ∧
      g'.files.read pageWatch.output = .ok bytes' ∧ bytes ≠ bytes') ∧
    (∃ bytes bytes' g', (setLook.after dotWatch).files.read dotWatch.output = .ok bytes ∧
      (@Command.runExport .reversed (some .default) "d.yaml" "o.gv" ⟨[], none⟩).outcome setLook.host =
        (say (Command.exportedLine (.ofString "o.gv"))).outcome g' ∧
      g'.files.read dotWatch.output = .ok bytes' ∧ bytes ≠ bytes') ∧
    (∃ c, fileWatch.session.compile Session.halfDocument = .ok c ∧ c.graph.nodes ≠ []) ∧
      textIn halfLook.host.files fileWatch.document = .ok Session.halfDocument ∧
      (∃ bytes, (halfLook.after fileWatch).files.read fileWatch.output = .ok bytes) ∧
      ∀ bytes, ((Command.runExport (some .default) "d.yaml" "o.svg" ⟨[], none⟩).outcome
        (hostWith Session.halfDocument)).2.files.read fileWatch.output ≠ .ok bytes := by
  refine ⟨?page, ?set, ?half⟩
  case page =>
    have htext : textIn exampleHost.files (.ofString "d.yaml") = .ok "facts: [a]\n" :=
      toOption_eq_some_iff.mp (by decide +kernel)
    have hshows : (Session.start [] none .default).shows "facts: [a]\n" = true := by decide +kernel
    obtain ⟨bytes, bytes', g', hread, hrun, hread', hartifact, hartifact'⟩ :=
      @exists_look_and_export .written .written "o.html" _ exampleHost laterHost
        ⟨htext, succeeds_blankEngine, by decide +kernel, hshows, by decide +kernel⟩
        ⟨htext, succeeds_blankEngine, by decide +kernel, hshows⟩
    refine ⟨bytes, bytes', g', hread, hrun, hread', ?_⟩
    -- The two pages differ in their footers.
    obtain ⟨artifact, hiff, -, hfooter⟩ :=
      Session.exists_artifacts _ succeeds_blankEngine hshows (Format.ofPath (.ofString "o.html"))
    obtain ⟨above, habove⟩ := hfooter (by decide +kernel)
    rw [(hiff _ _).mp hartifact, (hiff _ _).mp hartifact', habove, habove]
    intro hsame
    have hfooters := congrArg String.toList (Text.Utf8.encode_inj.mp hsame)
    rw [String.toList_append, String.toList_append] at hfooters
    have htimes := Page.escape_eq_of_footer (List.append_cancel_left hfooters)
    exact absurd htimes (by decide +kernel)
  case set =>
    have htext : textIn setLook.host.files (.ofString "d.yaml") = .ok Session.setDocument :=
      toOption_eq_some_iff.mp (by decide +kernel)
    obtain ⟨hshows, hshows'⟩ :
        @Session.shows .written (.start [] none .default) Session.setDocument = true ∧
          @Session.shows .reversed (.start [] none .default) Session.setDocument = true := by
      decide +kernel
    obtain ⟨bytes, bytes', g', hread, hrun, hread', hartifact, hartifact'⟩ :=
      @exists_look_and_export .written .reversed "o.gv" _ setLook.host setLook.host
        ⟨htext, succeeds_blankEngine, by decide +kernel, hshows, by decide +kernel⟩
        ⟨htext, succeeds_blankEngine, by decide +kernel, hshows'⟩
    refine ⟨bytes, bytes', g', hread, hrun, hread', ?_⟩
    have hformat : Format.ofPath (.ofString "o.gv") = .dot := by decide +kernel
    rw [hformat] at hartifact hartifact'
    obtain ⟨c, hc, -⟩ := (@Session.shows_eq_true_iff .written _ _).mp hshows
    obtain ⟨c', hc', -⟩ := (@Session.shows_eq_true_iff .reversed _ _).mp hshows'
    rw [hartifact.eq_embed hc, @Session.IsArtifact.eq_embed .reversed _ _ _ _ _ _ hartifact' hc']
    intro hsame
    have hdot := Embed.Dot.embed_left_inj (Text.Utf8.encode_inj.mp hsame)
    exact Session.dot_ne_of_setDocument hc hc' hdot.symm
  case half =>
    obtain ⟨c, hc, hnodes, hwhole⟩ := Session.exists_compile_halfDocument
    have hshows : fileWatch.session.shows Session.halfDocument = false := by
      rw [← Bool.not_eq_true, Session.shows_eq_true_iff]
      rintro ⟨c', hc', -, hwhole'⟩
      obtain rfl : c = c' := Except.ok.inj (hc.symm.trans hc')
      rw [hwhole] at hwhole'
      cases hwhole'
    have htext : textIn halfLook.host.files fileWatch.document = .ok Session.halfDocument :=
      toOption_eq_some_iff.mp (by decide +kernel)
    refine ⟨⟨c, hc, hnodes⟩, htext, ?_, ?_⟩
    · have hshown : halfLook.shown? fileWatch = none := by
        rw [Look.shown?, htext]
        exact if_neg (by simp [hshows])
      rw [Look.files_after (.inr hshown)]
      have hread : (halfLook.host.files.read fileWatch.output).toOption.isSome = true := by
        decide +kernel
      obtain ⟨bytes, hbytes⟩ := Option.isSome_iff_exists.mp hread
      exact ⟨bytes, toOption_eq_some_iff.mp hbytes⟩
    · rw [Command.files_runExport .default ⟨[], none⟩ "o.svg" (toOption_eq_some_iff.mp (by decide +kernel))
        hshows]
      intro bytes hbytes
      have hmissing : ((hostWith Session.halfDocument).files.read fileWatch.output).toOption =
          none := by decide +kernel
      rw [hbytes] at hmissing
      cases hmissing

end ThreatTree.Watch
