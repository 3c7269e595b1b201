import ThreatTree.Proofs.Document.WellFormed

/-!
# Problems of the focus

The focus is read last, so a document that is rejected for anything else is rejected for the same
reason whatever its focus is, and never with a focus error (`ofValue_eq_error_of_without`). But not
all problems of a focus are focus errors: a member is read as an id before it is looked up, and what
goes wrong there is reported as for any other id.

Main statement: `reportsFocus_iff`, the problems of the focus are reported as focus errors exactly if
its first member that names no node is an id that can be written out.
-/

namespace ThreatTree

open Grammar

/-! ### A mapping without one of its keys -/

/-- A value without what its mapping has under a text key. -/
def Value.without (key : String) : Value → Value
  | .map es => .map (es.filter (!·.1.isText key))
  | v => v

theorem Value.eq_of_isText {k : Value} {s t : String} (hs : k.isText s = true)
    (ht : k.isText t = true) : s = t :=
  Value.text.inj ((isText_iff.mp hs).symm.trans (isText_iff.mp ht))

theorem field?_filter {key name : String} (h : name ≠ key) (es : List (Value × Value)) :
    Value.field? name (es.filter (!·.1.isText key)) = Value.field? name es := by
  have hkeep (k : Value) (hk : k.isText name = true) : (!k.isText key) = true := by
    rw [Bool.not_eq_true', Bool.eq_false_iff]
    exact fun hkey => h (Value.eq_of_isText hk hkey)
  rw [Value.field?, lookup?_filter hkeep, Value.field?]

theorem field?_filter_self (key : String) (es : List (Value × Value)) :
    Value.field? key (es.filter (!·.1.isText key)) = none := by
  have hlookup : Value.lookup? key (es.filter (!·.1.isText key)) = none := by
    induction es with
    | nil => rfl
    | cons e es ih =>
      obtain ⟨k, v⟩ := e
      by_cases hk : k.isText key = true
      · simp [hk, ih]
      · simp [hk, lookup?_cons, ih]
  rw [Value.field?, hlookup]

theorem areEntryTrees_filter {es : List (Value × Value)} (h : Value.areEntryTrees es = true)
    (keep : Value × Value → Bool) : Value.areEntryTrees (es.filter keep) = true := by
  rw [Value.areEntryTrees_iff] at h ⊢
  intro e he
  exact h e (List.mem_of_mem_filter he)

/-! ### What is read before the focus -/

/-- The title, the theme and the nodes of a document. -/
def readParts (es : List (Value × Value)) :
    Except DocumentError (Option String × Option String × List NodeDef) := do
  let title ← readTitle es
  let theme ← readTheme es
  let nodes ← Category.all.foldlM (readSection es) []
  checkRefs nodes
  return (title, theme, nodes)

theorem ofEntries_eq_readParts (es : List (Value × Value)) :
    Document.ofEntries es = do
      let (title, theme, nodes) ← readParts es
      let focus ← readFocus (focusIds nodes) (Value.field? "filter" es)
      return Document.ofNodes title theme focus nodes := by
  simp only [Document.ofEntries, readParts, bind_assoc, pure_bind, Document.ofNodes]

/-- The focus has no part in what is read before it. -/
theorem readParts_filter (es : List (Value × Value)) :
    readParts (es.filter (!·.1.isText "filter")) = readParts es := by
  have hsection : readSection (es.filter (!·.1.isText "filter")) = readSection es := by
    funext seen c
    have hname : c.sectionName ≠ "filter" := by cases c <;> decide
    rw [readSection, field?_filter hname, readSection]
  have htitle : readTitle (es.filter (!·.1.isText "filter")) = readTitle es := by
    rw [readTitle, field?_filter (by decide), readTitle]
  have htheme : readTheme (es.filter (!·.1.isText "filter")) = readTheme es := by
    rw [readTheme, field?_filter (by decide), readTheme]
  rw [readParts, htitle, htheme, hsection, readParts]

/-! ### The errors of the focus -/

/-- A computation never fails with a focus error. -/
def NoFocusError {α : Type} (x : Except DocumentError α) : Prop :=
  FailsWith (fun e => e.isFocusError = false) x

theorem isFocusError_quoting {vs : List Value} {e : DocumentError} (h : e.isFocusError = false) :
    (DocumentError.quoting vs e).isFocusError = false := by
  unfold DocumentError.quoting
  split
  · exact h
  · rfl

theorem noFocusError_id (owner : Option String) (v : Value) : NoFocusError (idOfValue owner v) := by
  have hchecked (s : String) : NoFocusError
      (if Text.isBlankText s then .error (.blankId owner) else .ok s) := by
    split
    · exact .error rfl
    · exact .ok _
  cases v with
  | text s => exact hchecked s
  | int n => exact hchecked _
  | float x => exact hchecked _
  | _ => exact .error (isFocusError_quoting rfl)

theorem noFocusError_text (role : TextRole) (owner : String) (v : Value) :
    NoFocusError (textOfValue role owner v) := by
  unfold textOfValue
  split
  · exact .error rfl
  · exact .error rfl
  · exact .error rfl
  · split
    · exact .ok _
    · exact .error rfl

theorem noFocusError_under (ref owner : String) (v : Value) :
    NoFocusError (underRef ref owner v) := by
  unfold underRef
  split
  · exact .ok _
  · dsimp only
    split
    · exact .ok _
    · exact .error (isFocusError_quoting rfl)
  · exact (noFocusError_text _ _ _).bind fun _ => .ok _

theorem noFocusError_flagged (flags : Flags) (tag : Option String) (ref owner : String) :
    NoFocusError (flaggedRef flags tag ref owner) := by
  have hbool (flag : Flag) (otherwise : Bool) :
      NoFocusError (flags.bool flag otherwise ref owner) := by
    unfold Flags.bool
    split
    · exact .ok _
    · exact .ok _
    · exact .error rfl
  have htag : NoFocusError (flags.tag tag owner) := by
    unfold Flags.tag
    split
    · exact .ok _
    · exact .ok _
    · exact (noFocusError_text _ _ _).map
  exact (hbool _ _).bind fun _ => (hbool _ _).bind fun _ => htag.bind fun _ => .ok _

theorem noFocusError_ref (owner : String) (v : Value) : NoFocusError (Ref.ofValue owner v) := by
  unfold Ref.ofValue
  split
  · dsimp only
    split
    · refine (noFocusError_id _ _).bind fun ref => (noFocusError_under _ _ _).bind fun under => ?_
      split
      · exact .ok _
      · exact noFocusError_flagged _ _ _ _
    · exact .error (isFocusError_quoting rfl)
  · exact (noFocusError_id _ _).map

theorem noFocusError_node (c : Category) (v : Value) : NoFocusError (NodeDef.ofValue c v) := by
  have hrefs (owner : String) (o : Option Value) : NoFocusError (refsOfValue owner o) := by
    unfold refsOfValue
    split
    · exact .ok _
    · exact .mapM (noFocusError_ref owner) _
    · exact .error rfl
  unfold NodeDef.ofValue
  split
  · dsimp only
    split
    · refine (noFocusError_id _ _).bind fun id => ?_
      split
      · exact (hrefs id _).bind fun _ => .ok _
      · exact (noFocusError_text _ _ _).map.bind fun _ => (hrefs id _).bind fun _ => .ok _
    · exact .error (isFocusError_quoting rfl)
  · exact (noFocusError_id _ _).bind fun _ => .ok _

theorem noFocusError_section (es : List (Value × Value)) (seen : List NodeDef) (c : Category) :
    NoFocusError (readSection es seen c) := by
  have hentries (seen : List NodeDef) (vs : List Value) : NoFocusError (readEntries c seen vs) := by
    induction vs generalizing seen with
    | nil => exact .ok _
    | cons v vs ih =>
      refine (noFocusError_node c v).bind fun n => ?_
      split
      · exact .error rfl
      · exact ih _
  unfold readSection
  split
  · exact .ok _
  · exact hentries _ _
  · exact .error rfl

/-- **What is wrong before the focus is no focus error.** -/
theorem noFocusError_parts (es : List (Value × Value)) : NoFocusError (readParts es) := by
  have htitle : NoFocusError (readTitle es) := by
    unfold readTitle
    split
    · exact .ok _
    · exact (noFocusError_text _ _ _).map
  have htheme : NoFocusError (readTheme es) := by
    unfold readTheme
    split
    · exact .ok _
    · split
      · exact .ok _
      · exact .error rfl
    · exact .error rfl
  have hrefs (nodes : List NodeDef) : NoFocusError (checkRefs nodes) := by
    unfold checkRefs
    dsimp only
    split
    · exact .ok _
    · exact .error rfl
  exact htitle.bind fun _ => htheme.bind fun _ =>
    (FailsWith.foldlM (noFocusError_section es) _ _).bind fun _ => (hrefs _).bind fun _ => .ok _

/-! ### Which errors a focus has -/

theorem isFocusError_of_focusOfValue {known : List String} {v : Value} {e : DocumentError}
    (h : focusOfValue known v = .error e) :
    e.isFocusError = true ↔ IsId v ∧ v.isWritable = true := by
  rw [focusOfValue, bind_eq_error_iff] at h
  rcases h with hid | ⟨id, hid, h⟩
  · have hplain : e.isFocusError = false := noFocusError_id _ _ e hid
    refine iff_of_false (by simp [hplain]) ?_
    rintro ⟨hv, hwritable⟩
    rw [idOfValue_eq_ok_iff.mpr ⟨hv, hwritable, rfl⟩] at hid
    cases hid
  · obtain ⟨hv, hwritable, -⟩ := idOfValue_eq_ok_iff.mp hid
    split at h
    · cases h
    · cases h
      exact iff_of_true rfl ⟨hv, hwritable⟩

/-! ### Documents with and without their focus -/

/-- The focus that stands in a value. -/
def focusOf (v : Value) : Option Value := (topEntries? v).bind (Value.field? "filter")

namespace Document

/-- A value names a node of the graph that a document has. -/
def Names (d : Document) (v : Value) : Prop := IsId v ∧ v.display ∈ d.graphNodes.map (·.id)

/-- The first member of a focus that names no node, or that cannot be written out. -/
def IsFirstStranger (d : Document) (focus : Option Value) (v : Value) : Prop :=
  ∃ before after, members focus = before ++ v :: after ∧
    (∀ u ∈ before, d.Names u ∧ u.isWritable = true) ∧ ¬ (d.Names v ∧ v.isWritable = true)

theorem exists_parts_of_ofEntries {es : List (Value × Value)} {d : Document}
    (hd : ofEntries (es.filter (!·.1.isText "filter")) = .ok d) :
    ∃ title theme nodes, readParts es = .ok (title, theme, nodes) ∧
      ofNodes title theme [] nodes = d ∧
      ∀ id, id ∈ focusIds nodes ↔ id ∈ d.graphNodes.map (·.id) := by
  rw [ofEntries_eq_readParts, readParts_filter, field?_filter_self, bind_eq_ok_iff] at hd
  obtain ⟨⟨title, theme, nodes⟩, hparts, ⟨⟩⟩ := hd
  refine ⟨title, theme, nodes, hparts, rfl, fun id => ?_⟩
  obtain ⟨_, -, h⟩ := bind_eq_ok_iff.mp hparts
  obtain ⟨_, -, h⟩ := bind_eq_ok_iff.mp h
  obtain ⟨_, hnodes, h⟩ := bind_eq_ok_iff.mp h
  obtain ⟨_, -, ⟨⟩⟩ := bind_eq_ok_iff.mp h
  obtain ⟨blocks, hblocks, rfl, -⟩ := foldlM_readSection_all_eq_ok_iff.mp hnodes
  rw [mem_focusIds, mem_ids_graphNodes, declaredIds, refs, nodes_ofNodes hblocks, nodeIds]
  simp only [List.mem_map]

/-- What is accepted without a focus is, up to the focus, the same document with it, if the focus
can be read. -/
theorem ofValue_eq_of_without {v : Value} (hv : v.isTree = true) {d : Document}
    (hd : ofValue (v.without "filter") = .ok d) :
    ∃ known, (∀ id, id ∈ known ↔ id ∈ d.graphNodes.map (·.id)) ∧
      ofValue v = (fun focus => { d with focus }) <$> readFocus known (focusOf v) := by
  have parts {es : List (Value × Value)} (htop : topEntries? v = some es)
      (hread : ofValue v = ofEntries es)
      (hd : ofEntries (es.filter (!·.1.isText "filter")) = .ok d) :
      ∃ known, (∀ id, id ∈ known ↔ id ∈ d.graphNodes.map (·.id)) ∧
        ofValue v = (fun focus => { d with focus }) <$> readFocus known (focusOf v) := by
    obtain ⟨title, theme, nodes, hparts, rfl, hknown⟩ := exists_parts_of_ofEntries hd
    refine ⟨_, hknown, ?_⟩
    rw [hread, ofEntries_eq_readParts, hparts, focusOf, htop]
    rfl
  cases v with
  | null => exact parts rfl rfl hd
  | map es =>
    have hes : Value.areEntryTrees es = true := by rwa [Value.isTree] at hv
    rw [Value.without, ofValue, Value.entries_eq_self (areEntryTrees_filter hes _)] at hd
    refine parts rfl rfl ?_
    rwa [Value.entries_eq_self hes]
  | _ => cases hd

theorem ofValue_eq_error_of_without {v : Value} (hv : v.isTree = true) {e : DocumentError}
    (he : ofValue (v.without "filter") = .error e) :
    ofValue v = .error e ∧ e.isFocusError = false := by
  cases v with
  | null => cases he
  | map es =>
    have hes : Value.areEntryTrees es = true := by rwa [Value.isTree] at hv
    rw [Value.without, ofValue, Value.entries_eq_self (areEntryTrees_filter hes _),
      ofEntries_eq_readParts, readParts_filter, field?_filter_self, bind_eq_error_iff] at he
    obtain he | ⟨_, -, ⟨⟩⟩ := he
    refine ⟨?_, noFocusError_parts es e he⟩
    rw [ofValue, Value.entries_eq_self hes, ofEntries_eq_readParts, he]
    rfl
  | _ =>
    cases he
    exact ⟨rfl, rfl⟩

/-! ### Which problems are reported as problems of the focus -/

/-- A value is rejected with a focus error. -/
def HasFocusError (v : Value) : Prop := ∃ e, ofValue v = .error e ∧ e.isFocusError = true

/-- Focus errors are reported for the problems of the focus, and for nothing else. -/
structure ReportsFocus (v : Value) : Prop where
  /-- What is wrong without the focus is what is wrong with it, and no focus error. -/
  rest : ∀ e, ofValue (v.without "filter") = .error e →
    ofValue v = .error e ∧ e.isFocusError = false
  /-- A focus changes nothing but that there may be a focus error. -/
  focus : ∀ d, ofValue (v.without "filter") = .ok d →
    (∃ d', ofValue v = .ok d') ∨ HasFocusError v
  /-- There is one if the focus is not a list of ids that name nodes. -/
  stranger : ∀ d, ofValue (v.without "filter") = .ok d → ¬ ListOf d.Names (focusOf v) →
    HasFocusError v

variable {v : Value} {d : Document}

theorem exists_focusOfValue_iff {known : List String}
    (hknown : ∀ id, id ∈ known ↔ id ∈ d.graphNodes.map (·.id)) {u : Value} :
    (∃ id, focusOfValue known u = .ok id) ↔ d.Names u ∧ u.isWritable = true := by
  simp only [focusOfValue_eq_ok_iff, hknown, Names]
  constructor
  · rintro ⟨id, ⟨hid, hwritable, rfl⟩, hnode⟩
    exact ⟨⟨hid, hnode⟩, hwritable⟩
  · rintro ⟨⟨hid, hnode⟩, hwritable⟩
    exact ⟨_, ⟨hid, hwritable, rfl⟩, hnode⟩

/-- A focus names nodes, or is no list, or has a first stranger. -/
theorem ofValue_cases_of_without (hv : v.isTree = true)
    (hd : ofValue (v.without "filter") = .ok d) :
    (∃ d', ofValue v = .ok d') ∧ ListOf d.Names (focusOf v) ∨
      ofValue v = .error .focusNotList ∨ ∃ u, d.IsFirstStranger (focusOf v) u := by
  obtain ⟨known, hknown, hread⟩ := ofValue_eq_of_without hv hd
  rw [readFocus_eq] at hread
  by_cases hlist : IsList (focusOf v)
  · rw [readList_of_isList hlist] at hread
    cases hfocus : (members (focusOf v)).mapM (focusOfValue known) with
    | ok focus =>
      left
      rw [hfocus] at hread
      refine ⟨⟨_, hread⟩, listOf_iff.mpr ⟨hlist, fun u hu => ?_⟩⟩
      exact ((exists_focusOfValue_iff hknown).mp (exists_mapM_eq_ok_iff.mp ⟨_, hfocus⟩ u hu)).1
    | error e =>
      obtain ⟨before, u, after, hmembers, hbefore, hu⟩ := mapM_eq_error_iff.mp hfocus
      simp only [exists_focusOfValue_iff hknown] at hbefore
      refine .inr (.inr ⟨u, before, after, hmembers, hbefore, ?_⟩)
      rw [← exists_focusOfValue_iff hknown, hu]
      exact nofun
  · rw [readList_of_not_isList hlist] at hread
    exact .inr (.inl hread)

/-- The first stranger of a focus is what the document is rejected for. -/
theorem exists_error_of_isFirstStranger (hv : v.isTree = true)
    (hd : ofValue (v.without "filter") = .ok d) {u : Value}
    (hu : d.IsFirstStranger (focusOf v) u) :
    ∃ e, ofValue v = .error e ∧ (e.isFocusError = true ↔ IsId u ∧ u.isWritable = true) := by
  obtain ⟨known, hknown, hread⟩ := ofValue_eq_of_without hv hd
  obtain ⟨before, after, hmembers, hbefore, hstrange⟩ := hu
  simp only [← exists_focusOfValue_iff hknown] at hbefore hstrange
  have hlist : IsList (focusOf v) := isList_of_mem (v := u) (by simp [hmembers])
  cases hfocus : focusOfValue known u with
  | ok id => exact absurd ⟨id, hfocus⟩ hstrange
  | error e =>
    refine ⟨e, ?_, isFocusError_of_focusOfValue hfocus⟩
    rw [hread, readFocus_eq, readList_of_isList hlist,
      mapM_eq_error_iff.mpr ⟨before, u, after, hmembers, hbefore, hfocus⟩]
    rfl

/-- **The problems of a focus are reported as such exactly if its first stranger, if it has one, is
an id that can be written out.** -/
theorem reportsFocus_iff (hv : v.isTree = true) :
    ReportsFocus v ↔ ∀ d, ofValue (v.without "filter") = .ok d →
      ∀ u, d.IsFirstStranger (focusOf v) u → IsId u ∧ u.isWritable = true := by
  constructor
  · intro h d hd u hu
    obtain ⟨e, he, hfocus⟩ := exists_error_of_isFirstStranger hv hd hu
    rcases h.focus d hd with ⟨d', hd'⟩ | ⟨e', he', hfocus'⟩
    · rw [he] at hd'
      cases hd'
    · obtain rfl := Except.error.inj (he.symm.trans he')
      exact hfocus.mp hfocus'
  · intro h
    have hcases {d : Document} (hd : ofValue (v.without "filter") = .ok d) :
        (∃ d', ofValue v = .ok d') ∧ ListOf d.Names (focusOf v) ∨ HasFocusError v := by
      rcases ofValue_cases_of_without hv hd with hok | hlist | ⟨u, hu⟩
      · exact .inl hok
      · exact .inr ⟨_, hlist, rfl⟩
      · obtain ⟨e, he, hfocus⟩ := exists_error_of_isFirstStranger hv hd hu
        exact .inr ⟨e, he, hfocus.mpr (h d hd u hu)⟩
    constructor
    · intro e he
      exact ofValue_eq_error_of_without hv he
    · intro d hd
      exact (hcases hd).imp_left And.left
    · intro d hd hnames
      exact (hcases hd).resolve_left fun hok => hnames hok.2

/-- A focus with a member that is declared and one that is not. -/
def astray : Value :=
  .map [(.text "facts", .list [.text "a"]), (.text "filter", .list [.text "a", .int 7])]

theorem reportsFocus_astray : astray.isTree = true ∧ ReportsFocus astray := by
  refine ⟨rfl, (reportsFocus_iff rfl).mpr ?_⟩
  rintro d - u ⟨before, after, hmembers, -, -⟩
  have hu : u ∈ members (focusOf astray) := by rw [hmembers]; simp
  have hmem : u ∈ [Value.text "a", .int 7] := hu
  simp only [List.mem_cons, List.not_mem_nil, or_false] at hmem
  rcases hmem with rfl | rfl
  · exact ⟨.text rfl, rfl⟩
  · exact ⟨.int 7, rfl⟩

/-- A focus on a truth value. -/
def focusOnTruth : Value :=
  .map [(.text "facts", .list [.text "a"]), (.text "filter", .list [.bool true])]

/-- A focus on a truth value is reported as an id that is none. -/
theorem not_reportsFocus_focusOnTruth :
    ofValue focusOnTruth = .error (.badId (.bool true) (some "filter")) ∧
      ¬ ReportsFocus focusOnTruth := by
  have hread : ofValue focusOnTruth = .error (.badId (.bool true) (some "filter")) := rfl
  have hbare : ∃ d, ofValue (focusOnTruth.without "filter") = .ok d := ⟨_, rfl⟩
  refine ⟨hread, fun h => ?_⟩
  obtain ⟨d, hd⟩ := hbare
  obtain ⟨d', hd'⟩ | ⟨e, he, hfocus⟩ := h.focus d hd
  · rw [hread] at hd'
    cases hd'
  · rw [hread] at he
    cases he
    cases hfocus

end Document
end ThreatTree
