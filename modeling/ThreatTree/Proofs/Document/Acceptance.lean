import ThreatTree.Proofs.Document.Sections

/-!
# Which documents are accepted

After the sections come the checks that tie the parts of a document together: every reference leads
to a declared node or to `reality`, and the focus stays among the nodes that there will be.

Main statement: `accepts_iff`, a value is accepted exactly if it is a document of the grammar and
what its texts are taken from can be written out.
-/

namespace ThreatTree

open Grammar

/-! ### References between nodes -/

theorem checkRefs_eq_ok_iff {nodes : List NodeDef} :
    checkRefs nodes = .ok () ↔
      ∀ id ∈ (nodes.flatMap (·.refs)).map Ref.id, id ∈ nodeIds nodes ∨ id = realityId := by
  have hdangling : checkRefs nodes = .ok () ↔
      (nodes.flatMap fun n => (n.refs.filter fun r =>
        !(nodeIds nodes).contains r.id && r.id ≠ realityId).map fun r => (r.id, n.id)) = [] := by
    unfold checkRefs nodeIds
    dsimp only
    split
    · exact iff_of_true rfl ‹_›
    · rename_i hcons
      exact iff_of_false (by simp) (by rw [hcons]; simp)
  rw [hdangling, List.flatMap_eq_nil_iff]
  simp only [List.map_eq_nil_iff, List.filter_eq_nil_iff, List.mem_map, List.mem_flatMap]
  constructor
  · rintro h id ⟨r, ⟨n, hn, hr⟩, rfl⟩
    have hr := h n hn r hr
    by_cases hid : r.id ∈ nodeIds nodes
    · exact .inl hid
    · right
      simpa [hid] using hr
  · intro h n hn r hr
    rcases h r.id ⟨r, ⟨n, hn, hr⟩, rfl⟩ with hid | hid
    · simp [hid]
    · simp [hid]

/-! ### The focus -/

theorem mem_focusIds {nodes : List NodeDef} {id : String} :
    id ∈ focusIds nodes ↔
      id ∈ nodeIds nodes ∨ id = realityId ∧ realityId ∈ (nodes.flatMap (·.refs)).map Ref.id := by
  rw [focusIds, List.mem_append, nodeIds]
  refine or_congr_right ?_
  simp only [List.contains_eq_mem, decide_eq_true_eq]
  split
  · simp [*]
  · simp [*]

theorem focusOfValue_eq_ok_iff {known : List String} {v : Value} {id : String} :
    focusOfValue known v = .ok id ↔
      (IsId v ∧ v.isWritable = true ∧ v.display = id) ∧ id ∈ known := by
  simp only [focusOfValue, bind_eq_ok_iff, idOfValue_eq_ok_iff]
  constructor
  · rintro ⟨id', hid, h⟩
    split at h
    · cases h
      exact ⟨hid, by simpa using ‹known.contains _ = true›⟩
    · cases h
  · rintro ⟨hid, hknown⟩
    refine ⟨id, hid, ?_⟩
    rw [if_pos (by simpa using hknown)]
    rfl

theorem readFocus_eq (known : List String) (o : Option Value) :
    readFocus known o = readList (focusOfValue known) .focusNotList o := by
  cases o with
  | none => rfl
  | some v => cases v <;> rfl

theorem exists_focus_iff {known : List String} {o : Option Value} :
    (∃ focus, readFocus known o = .ok focus) ↔
      ListOf (fun v => IsId v ∧ v.display ∈ known) o ∧ ∀ t ∈ members o, t.isWritable = true := by
  have hmember (v : Value) : (∃ id, focusOfValue known v = .ok id) ↔
      (IsId v ∧ v.display ∈ known) ∧ ∀ t ∈ [v], t.isWritable = true := by
    simp only [focusOfValue_eq_ok_iff, List.forall_mem_singleton]
    constructor
    · rintro ⟨id, ⟨hid, hwritable, rfl⟩, hknown⟩
      exact ⟨⟨hid, hknown⟩, hwritable⟩
    · rintro ⟨⟨hid, hknown⟩, hwritable⟩
      exact ⟨_, ⟨hid, hwritable, rfl⟩, hknown⟩
  simp only [readFocus_eq, exists_readList_iff, hmember, listOf_writable_iff,
    List.flatMap_singleton']

/-! ### Title and theme -/

theorem exists_title_iff {es : List (Value × Value)} :
    (∃ title, readTitle es = .ok title) ↔
      (∀ v, Value.field? "title" es = some v → IsText v) ∧
        ∀ t ∈ (Value.field? "title" es).toList, t.isWritable = true := by
  unfold readTitle
  cases Value.field? "title" es with
  | none => simp
  | some v => simp [map_eq_ok_iff, textOfValue_eq_ok_iff]

theorem ofName?_eq_some_iff {name : String} {t : Theme} :
    Theme.ofName? name = some t ↔ name = t.name := by
  constructor
  · intro h
    have hname := List.find?_some h
    rw [decide_eq_true_eq] at hname
    exact hname.symm
  · rintro rfl
    exact Theme.ofName?_name t

/-- The themes that a document may have: none, or one that there is. -/
def IsThemeChoice (theme : Option String) : Prop := ∀ name ∈ theme, ∃ t : Theme, name = t.name

/-- A choice that is empty or names a theme. -/
theorem isThemeChoice_of_known {choice : Option String}
    (h : choice = none ∨ choice = some "" ∨ ∃ t : Theme, choice = some t.name) :
    choice = some "" ∨ IsThemeChoice choice := by
  rcases h with rfl | rfl | ⟨t, rfl⟩
  · exact .inr (by simp [IsThemeChoice])
  · exact .inl rfl
  · refine .inr ?_
    rintro name ⟨⟩
    exact ⟨t, rfl⟩

theorem exists_theme_iff {es : List (Value × Value)} :
    (∃ theme, readTheme es = .ok theme) ↔
      ∀ v, Value.field? "theme" es = some v → ∃ t : Theme, v = .text t.name := by
  unfold readTheme
  cases Value.field? "theme" es with
  | none => simp
  | some v =>
    cases v with
    | text name =>
      simp only [Option.some.injEq, forall_eq', Value.text.injEq, ← ofName?_eq_some_iff]
      cases Theme.ofName? name <;> simp
    | _ => simp

theorem isThemeChoice_of_readTheme {es : List (Value × Value)} {theme : Option String}
    (h : readTheme es = .ok theme) : IsThemeChoice theme := by
  unfold readTheme at h
  split at h
  · cases h
    simp [IsThemeChoice]
  · split at h
    · cases h
      rintro name ⟨⟩
      exact ⟨_, ofName?_eq_some_iff.mp ‹_›⟩
    · cases h
  · cases h

/-! ### The document -/

/-- A document with some nodes. -/
def Document.ofNodes (title theme : Option String) (focus : List String) (nodes : List NodeDef) :
    Document where
  title := title
  theme := theme
  facts := nodes.filter (·.category = .fact)
  attacks := nodes.filter (·.category = .attack)
  mitigations := nodes.filter (·.category = .mitigation)
  goals := nodes.filter (·.category = .goal)
  focus := focus

/-- Reading a document, check by check. -/
theorem Document.ofEntries_eq_ok_iff {es : List (Value × Value)} {d : Document} :
    Document.ofEntries es = .ok d ↔
      ∃ title theme blocks focus, readTitle es = .ok title ∧ readTheme es = .ok theme ∧
        readBlocks es = .ok blocks ∧ (declared es).Nodup ∧
        (∀ id ∈ referred es, id ∈ declared es ∨ id = realityId) ∧
        readFocus (focusIds blocks.flatten) (Value.field? "filter" es) = .ok focus ∧
        Document.ofNodes title theme focus blocks.flatten = d := by
  simp only [Document.ofEntries, bind_eq_ok_iff, foldlM_readSection_all_eq_ok_iff]
  constructor
  · rintro ⟨title, htitle, theme, htheme, _, ⟨blocks, hblocks, rfl, hnodup⟩, ⟨⟩, hrefs, focus,
      hfocus, ⟨⟩⟩
    rw [checkRefs_eq_ok_iff, ids_of_readBlocks hblocks, refs_of_readBlocks hblocks] at hrefs
    exact ⟨title, theme, blocks, focus, htitle, htheme, hblocks, hnodup, hrefs, hfocus, rfl⟩
  · rintro ⟨title, theme, blocks, focus, htitle, htheme, hblocks, hnodup, hrefs, hfocus, rfl⟩
    rw [← ids_of_readBlocks hblocks, ← refs_of_readBlocks hblocks, ← checkRefs_eq_ok_iff] at hrefs
    exact ⟨title, htitle, theme, htheme, _, ⟨blocks, hblocks, rfl, hnodup⟩, (), hrefs, focus,
      hfocus, rfl⟩

theorem mem_focusIds_of_readBlocks {es : List (Value × Value)} {blocks : List (List NodeDef)}
    (h : readBlocks es = .ok blocks) {id : String} :
    id ∈ focusIds blocks.flatten ↔ InReach es id := by
  rw [mem_focusIds, ids_of_readBlocks h, refs_of_readBlocks h, InReach]

theorem exists_ofEntries_iff {es : List (Value × Value)} :
    (∃ d, Document.ofEntries es = .ok d) ↔
      IsTop es ∧ ∀ t ∈ topTexts es, t.isWritable = true := by
  simp only [Document.ofEntries_eq_ok_iff, topTexts, List.forall_mem_append]
  constructor
  · rintro ⟨d, title, theme, blocks, focus, htitle, htheme, hblocks, hnodup, hrefs, hfocus, -⟩
    obtain ⟨htitle, htitleText⟩ := exists_title_iff.mp ⟨_, htitle⟩
    obtain ⟨hsections, hnodeTexts⟩ := exists_blocks_iff.mp ⟨_, hblocks⟩
    obtain ⟨hfocus, hfocusTexts⟩ := exists_focus_iff.mp ⟨_, hfocus⟩
    simp only [mem_focusIds_of_readBlocks hblocks] at hfocus
    exact ⟨⟨htitle, exists_theme_iff.mp ⟨_, htheme⟩, hsections, hnodup, hrefs, hfocus⟩,
      ⟨htitleText, hnodeTexts⟩, hfocusTexts⟩
  · rintro ⟨htop, ⟨htitleText, hnodeTexts⟩, hfocusTexts⟩
    obtain ⟨title, htitle⟩ := exists_title_iff.mpr ⟨htop.title, htitleText⟩
    obtain ⟨theme, htheme⟩ := exists_theme_iff.mpr htop.theme
    obtain ⟨blocks, hblocks⟩ := exists_blocks_iff.mpr ⟨htop.sections, hnodeTexts⟩
    have hfocus := htop.focus
    simp only [← mem_focusIds_of_readBlocks hblocks] at hfocus
    obtain ⟨focus, hfocus⟩ := exists_focus_iff.mpr ⟨hfocus, hfocusTexts⟩
    exact ⟨_, title, theme, blocks, focus, htitle, htheme, hblocks, htop.distinct, htop.refs,
      hfocus, rfl⟩

/-- **A value is accepted exactly if it is a document and its texts can be written out.** -/
theorem accepts_iff (v : Value) :
    (∃ d, Document.ofValue v = .ok d) ↔
      IsDocument v ∧ ∀ t ∈ documentTexts v, t.isWritable = true := by
  have top {es : List (Value × Value)} (htop : topEntries? v = some es)
      (hread : Document.ofValue v = Document.ofEntries es) :
      (∃ d, Document.ofValue v = .ok d) ↔
        IsDocument v ∧ ∀ t ∈ documentTexts v, t.isWritable = true := by
    rw [hread, exists_ofEntries_iff, IsDocument, documentTexts, htop]
    simp
  cases v with
  | null => exact top rfl rfl
  | map es => exact top rfl rfl
  | _ =>
    constructor
    · rintro ⟨d, ⟨⟩⟩
    · rintro ⟨⟨es, ⟨⟩, -⟩, -⟩

/-- A document that is nothing but a title. -/
def titled (title : Value) : Value := .map [(.text "title", title)]

theorem isDocument_titled_hugeInt (n : Int) : IsDocument (titled (.hugeInt n)) := by
  refine ⟨_, rfl, ?_⟩
  have hfield (name : String) (hname : "title" ≠ name) :
      Value.field? name (Value.entries [(.text "title", .hugeInt n)]) = none := by
    simp [Value.entries, Value.field?, Value.lookup?, hname]
  have hsection (c : Category) :
      Value.field? c.sectionName (Value.entries [(.text "title", .hugeInt n)]) = none :=
    hfield _ (by cases c <;> decide)
  have hnodes : nodeEntries (Value.entries [(.text "title", .hugeInt n)]) = [] := by
    simp [nodeEntries, sectionEntries, hsection, members]
  exact {
    title := by
      rintro v ⟨⟩
      trivial
    theme := by simp [hfield]
    sections := fun c => hsection c ▸ .absent
    distinct := by simp [declared, hnodes]
    refs := by simp [referred, hnodes]
    focus := hfield "filter" (by decide) ▸ .absent }

theorem ofInt_eq_hugeInt {n : Nat} (h : Decimal.isBeyondNumerals n = true) :
    Value.ofInt n = .hugeInt n := by
  rw [Value.ofInt, if_pos]
  rwa [Int.natAbs_natCast]

theorem isBeyondNumerals_pow : Decimal.isBeyondNumerals (Nat.pow 16 3600) = true := by
  have hpow (k : Nat) : Nat.pow 10 (43 * k) ≤ Nat.pow 16 (36 * k) := by
    simp only [Nat.pow_eq, Nat.pow_mul]
    exact Nat.pow_le_pow_left (by decide) k
  have hlongest : Decimal.longestNumeral = 43 * 100 := rfl
  have hdigits : 3600 = 36 * 100 := rfl
  rw [Decimal.isBeyondNumerals, decide_eq_true_eq, hlongest, hdigits]
  exact hpow 100

/-- A document of the grammar is refused if its title has more digits than any numeral. -/
theorem refuses_huge_title :
    IsDocument (titled (Value.ofInt (Nat.pow 16 3600))) ∧
      Document.ofValue (titled (Value.ofInt (Nat.pow 16 3600))) = .error .unwritable := by
  rw [ofInt_eq_hugeInt isBeyondNumerals_pow]
  exact ⟨isDocument_titled_hugeInt _, rfl⟩

end ThreatTree
