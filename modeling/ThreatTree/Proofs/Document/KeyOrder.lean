import ThreatTree.Proofs.Document.Acceptance
import ThreatTree.Proofs.Value.Reordered

/-!
# The order of keys

A document does not depend on the order in which the keys of its mappings are written. The reader asks
for what stands under a key, for the one key that names a node, and for flags in two places; it stops at
its first problem, and in which order it looks for problems is settled by lists and by the reader itself.
Two errors may quote different values and keys in another order, but they are of one kind and about one
node (`DocumentError.outline`).

Main statement: `ofValue_reordered`.
-/

namespace ThreatTree

open Grammar Value

/-! ### Errors without their wording -/

namespace DocumentError

/-- What an error is apart from its wording. -/
structure Outline where
  isReported : Bool
  isFocusError : Bool
  nodeId? : Option String

def outline (e : DocumentError) : Outline := ⟨e.isReported, e.isFocusError, e.nodeId?⟩

theorem outline_quoting {vs ws : List Value} (h : areWritable vs = areWritable ws)
    {e f : DocumentError} (hef : e.outline = f.outline) :
    (quoting vs e).outline = (quoting ws f).outline := by
  rw [quoting, quoting, h]
  split
  · exact hef
  · rfl

end DocumentError

section Outlined

variable {α β γ : Type}

/-- A computation with its error told in outline. -/
def outlined (x : Except DocumentError α) : Except DocumentError.Outline α :=
  x.mapError DocumentError.outline

theorem outlined_error {e f : DocumentError} (h : e.outline = f.outline) :
    outlined (.error e : Except DocumentError α) = outlined (.error f) :=
  congrArg Except.error h

theorem outlined_bind (x : Except DocumentError α) (f : α → Except DocumentError β) :
    outlined (x >>= f) = outlined x >>= fun a => outlined (f a) := by
  cases x <;> rfl

theorem outlined_bind_congr {x y : Except DocumentError α} {f g : α → Except DocumentError β}
    (hx : outlined x = outlined y) (h : ∀ a, outlined (f a) = outlined (g a)) :
    outlined (x >>= f) = outlined (y >>= g) := by
  rw [outlined_bind, outlined_bind, hx]
  simp only [h]

theorem outlined_map_congr (f : α → β) {x y : Except DocumentError α}
    (h : outlined x = outlined y) : outlined (f <$> x) = outlined (f <$> y) :=
  outlined_bind_congr h fun _ => rfl

theorem outlined_mapM_congr {r : α → γ → Prop} {f : α → Except DocumentError β}
    {g : γ → Except DocumentError β} (h : ∀ a c, r a c → outlined (f a) = outlined (g c))
    {xs : List α} {ys : List γ} (hxs : List.Forall₂ r xs ys) :
    outlined (xs.mapM f) = outlined (ys.mapM g) := by
  induction hxs with
  | nil => rfl
  | cons hhead _ ih =>
    rw [List.mapM_cons, List.mapM_cons]
    exact outlined_bind_congr (h _ _ hhead) fun b => outlined_bind_congr ih fun _ => rfl

theorem outlined_foldlM_congr {f g : β → α → Except DocumentError β}
    (h : ∀ b a, outlined (f b a) = outlined (g b a)) (xs : List α) (b : β) :
    outlined (xs.foldlM f b) = outlined (xs.foldlM g b) := by
  induction xs generalizing b with
  | nil => rfl
  | cons a xs ih =>
    rw [List.foldlM_cons, List.foldlM_cons]
    exact outlined_bind_congr (h b a) ih

/-- Computations with one outline end alike. -/
theorem outlined_eq_iff {x y : Except DocumentError α} :
    outlined x = outlined y ↔ (∃ a, x = .ok a ∧ y = .ok a) ∨
      ∃ e f, x = .error e ∧ y = .error f ∧ e.outline = f.outline := by
  cases x with
  | ok a =>
    cases y with
    | ok b => simp [outlined, eq_comm]
    | error f => simp [outlined]
  | error e =>
    cases y with
    | ok b => simp [outlined]
    | error f => simp [outlined]

end Outlined

/-! ### Ids and texts -/

variable {place : Standing} {v w : Value} {o o' : Option Value} {es gs : List (Value × Value)}

theorem outlined_idOfValue (owner : Option String) (h : Reordered place v w) :
    outlined (idOfValue owner v) = outlined (idOfValue owner w) := by
  have hwritable : areWritable [v] = areWritable [w] := by
    simp only [areWritable, h.isWritable_eq]
  cases h.view with
  | same _ => rfl
  | list _ => exact outlined_error (DocumentError.outline_quoting hwritable rfl)
  | pair => exact outlined_error (DocumentError.outline_quoting hwritable rfl)
  | map _ _ _ => exact outlined_error (DocumentError.outline_quoting hwritable rfl)

theorem outlined_textOfValue (role : TextRole) (owner : String) (h : Reordered .elsewhere v w) :
    outlined (textOfValue role owner v) = outlined (textOfValue role owner w) := by
  cases h.view with
  | same _ => rfl
  | list _ => rfl
  | map _ _ _ => rfl

/-- A list that may be left out, with members in their places. -/
theorem outlined_readList {β : Type} {f : Value → Except DocumentError β} (e : DocumentError)
    (hf : ∀ v w, Reordered .inList v w → outlined (f v) = outlined (f w))
    (h : Option.Rel (Reordered .elsewhere) o o') :
    outlined (readList f e o) = outlined (readList f e o') := by
  exact reordered_option_cases h rfl (fun _ _ => rfl)
    (fun _ _ _ hmembers => outlined_mapM_congr hf hmembers) (fun _ _ _ => rfl)

/-! ### Flags -/

/-- Flags with the same keys, and what stands under each of them reordered. -/
structure Flags.Reordered (f g : Flags) : Prop where
  isEmpty_eq : f.isEmpty = g.isEmpty
  rel_get? (name : String) : Option.Rel (Value.Reordered .elsewhere) (f.get? name) (g.get? name)

section Flags

variable {f g : Flags}

theorem outlined_bool (h : f.Reordered g) (flag : Flag) (otherwise : Bool) (ref owner : String) :
    outlined (f.bool flag otherwise ref owner) = outlined (g.bool flag otherwise ref owner) := by
  unfold Flags.bool
  exact reordered_option_cases (h.rel_get? flag.name) rfl (fun _ _ => rfl) (fun _ _ _ _ => rfl)
    (fun _ _ _ => rfl)

theorem outlined_tag (h : f.Reordered g) (otherwise : Option String) (owner : String) :
    outlined (f.tag otherwise owner) = outlined (g.tag otherwise owner) := by
  unfold Flags.tag
  exact reordered_option_cases (h.rel_get? labelFlag) rfl (fun _ _ => rfl) (fun _ _ _ _ => rfl)
    (fun _ _ _ => rfl)

theorem outlined_finish (h : f.Reordered g) (owner ref : String) (tag : Option String) :
    outlined (Ref.finish owner ref f tag) = outlined (Ref.finish owner ref g tag) := by
  unfold Ref.finish
  rw [h.isEmpty_eq]
  split
  · rfl
  · refine outlined_bind_congr (outlined_bool h ..) fun _ => ?_
    refine outlined_bind_congr (outlined_bool h ..) fun _ => ?_
    exact outlined_bind_congr (outlined_tag h ..) fun _ => rfl

/-- Flags in two places, where what stands in each of them is reordered. -/
theorem Flags.reordered {above above' below below' : List (Value × Value)}
    (habove : EntriesReordered above above') (hempty : below.isEmpty = below'.isEmpty)
    (hbelow : ∀ name, Option.Rel (Value.Reordered .elsewhere) (lookup? name below)
      (lookup? name below')) : Flags.Reordered ⟨above, below⟩ ⟨above', below'⟩ := by
  refine ⟨?_, fun name => ?_⟩
  · rw [Flags.isEmpty, Flags.isEmpty, habove.isEmpty_eq, hempty]
  · have hrel := habove.rel_lookup? name
    unfold Flags.get?
    generalize lookup? name above = o at hrel ⊢
    generalize lookup? name above' = o' at hrel ⊢
    cases hrel with
    | none => exact hbelow name
    | some h => exact .some h

end Flags

/-! ### References -/

theorem areWritable_perm {vs ws : List Value} (h : vs.Perm ws) : areWritable vs = areWritable ws := by
  rw [areWritable_eq_all, areWritable_eq_all, h.all_eq]

theorem areEntryTrees_flagsUnder (h : v.isTree = true) : areEntryTrees (flagsUnder v) = true := by
  cases v with
  | map es => exact h
  | _ => rfl

/-- What stands under the name of a reference, with the flags beside the name. -/
theorem outlined_underRef {above above' : List (Value × Value)}
    (habove : EntriesReordered above above') (ref owner : String) (h : Reordered .elsewhere v w) :
    outlined (do
        let (below, tag) ← underRef ref owner v
        Ref.finish owner ref ⟨above, below⟩ tag) =
      outlined (do
        let (below, tag) ← underRef ref owner w
        Ref.finish owner ref ⟨above', below⟩ tag) := by
  cases h.view with
  | same htree =>
    cases hunder : underRef ref owner v with
    | error e => rfl
    | ok x =>
      obtain ⟨below, tag⟩ := x
      obtain rfl := flags_of_underRef hunder
      have hbelow := rel_lookup?_self (areEntryTrees_flagsUnder htree)
      exact outlined_finish (Flags.reordered habove rfl hbelow) ..
  | list _ => rfl
  | @map _ es gs hself hself' hentries =>
    have hperm : ((es.map (·.1)).filter (!isFlagKey ·)).Perm ((gs.map (·.1)).filter (!isFlagKey ·)) :=
      hentries.keys_perm.filter _
    have hempty : ((es.map (·.1)).filter (!isFlagKey ·)).isEmpty =
        ((gs.map (·.1)).filter (!isFlagKey ·)).isEmpty := by
      rw [Bool.eq_iff_iff, List.isEmpty_iff_length_eq_zero, List.isEmpty_iff_length_eq_zero,
        hperm.length_eq]
    simp only [underRef, hempty]
    split
    · exact outlined_finish (Flags.reordered habove hentries.isEmpty_eq hentries.rel_lookup?) ..
    · exact outlined_error (DocumentError.outline_quoting (areWritable_perm hperm) rfl)

theorem Ref.ofValue_map_eq_error {owner : String} (h : (namings isFlagKey es).length ≠ 1) :
    Ref.ofValue owner (.map es) =
      .error (DocumentError.quoting ((namings isFlagKey es).map (·.1))
        (.refKeys ((namings isFlagKey es).map (·.1)) owner)) := by
  rw [namings] at h ⊢
  simp only [Ref.ofValue]
  split
  · rename_i hone
    rw [hone] at h
    exact absurd rfl h
  · rfl

theorem outlined_ref (owner : String) (h : Reordered place v w) :
    outlined (Ref.ofValue owner v) = outlined (Ref.ofValue owner w) := by
  have hid := outlined_idOfValue (some owner) h
  cases h.view with
  | same _ => rfl
  | list _ => exact outlined_map_congr .plain hid
  | pair => exact outlined_map_congr .plain hid
  | @map _ es gs hself hself' hentries =>
    have hnamings : EntriesReordered (namings isFlagKey es) (namings isFlagKey gs) := by
      rw [namings, namings, hself, hself']
      exact hentries.filter (!isFlagKey ·)
    have habove : EntriesReordered ((entries es).filter (isFlagKey ·.1))
        ((entries gs).filter (isFlagKey ·.1)) := by
      rw [hself, hself']
      exact hentries.filter isFlagKey
    rcases hnamings.single_or with ⟨key, under, under', hone, hone', hunder⟩ | ⟨hmany, hmany'⟩
    · rw [Ref.ofValue_map hone, Ref.ofValue_map hone']
      exact outlined_bind_congr rfl fun ref => outlined_underRef habove ref owner hunder
    · rw [Ref.ofValue_map_eq_error hmany, Ref.ofValue_map_eq_error hmany']
      exact outlined_error
        (DocumentError.outline_quoting (areWritable_perm hnamings.keys_perm) rfl)

/-! ### Entries and sections -/

theorem NodeDef.ofValue_map_eq_error {c : Category}
    (h : (namings (·.isText refsKey) es).length ≠ 1) :
    NodeDef.ofValue c (.map es) =
      .error (DocumentError.quoting ((namings (·.isText refsKey) es).map (·.1))
        (.entryKeys c ((namings (·.isText refsKey) es).map (·.1)))) := by
  rw [namings] at h ⊢
  simp only [NodeDef.ofValue]
  split
  · rename_i hone
    rw [hone] at h
    exact absurd rfl h
  · rfl

theorem outlined_label (id : String) (h : Reordered .elsewhere v w) :
    outlined (readLabel id v) = outlined (readLabel id w) := by
  cases h.view with
  | same _ => rfl
  | list _ => rfl
  | map _ _ _ => rfl

theorem outlined_node (c : Category) (h : Reordered place v w) :
    outlined (NodeDef.ofValue c v) = outlined (NodeDef.ofValue c w) := by
  have hid := outlined_idOfValue none h
  cases h.view with
  | same _ => rfl
  | list _ => exact outlined_bind_congr hid fun _ => rfl
  | pair => exact outlined_bind_congr hid fun _ => rfl
  | @map _ es gs hself hself' hentries =>
    have hnamings : EntriesReordered (namings (·.isText refsKey) es)
        (namings (·.isText refsKey) gs) := by
      rw [namings, namings, hself, hself']
      exact hentries.filter (!isText refsKey ·)
    rcases hnamings.single_or with ⟨key, label, label', hone, hone', hlabel⟩ | ⟨hmany, hmany'⟩
    · have hrefs := hentries.rel_field? refsKey
      rw [NodeDef.ofValue_map hone, NodeDef.ofValue_map hone', hself, hself']
      refine outlined_bind_congr rfl fun id => outlined_bind_congr (outlined_label id hlabel) ?_
      intro label
      refine outlined_bind_congr ?_ fun _ => rfl
      rw [refsOfValue_eq, refsOfValue_eq]
      exact outlined_readList _ (fun _ _ => outlined_ref id) hrefs
    · rw [NodeDef.ofValue_map_eq_error hmany, NodeDef.ofValue_map_eq_error hmany']
      exact outlined_error
        (DocumentError.outline_quoting (areWritable_perm hnamings.keys_perm) rfl)

theorem outlined_readEntries (c : Category) (seen : List NodeDef) {vs ws : List Value}
    (h : List.Forall₂ (Reordered .inList) vs ws) :
    outlined (readEntries c seen vs) = outlined (readEntries c seen ws) := by
  induction h generalizing seen with
  | nil => rfl
  | cons hhead _ ih =>
    refine outlined_bind_congr (outlined_node c hhead) fun n => ?_
    split
    · rfl
    · exact ih _

theorem outlined_readSection (h : EntriesReordered es gs) (seen : List NodeDef) (c : Category) :
    outlined (readSection es seen c) = outlined (readSection gs seen c) := by
  unfold readSection
  exact reordered_option_cases (h.rel_field? c.sectionName) rfl (fun _ _ => rfl)
    (fun _ _ _ hmembers => outlined_readEntries c seen hmembers) (fun _ _ _ => rfl)

/-! ### Title, theme and focus -/

theorem outlined_readTitle (h : EntriesReordered es gs) :
    outlined (readTitle es) = outlined (readTitle gs) := by
  unfold readTitle
  exact reordered_option_cases (h.rel_field? "title") rfl (fun _ _ => rfl)
    (fun _ _ h _ => outlined_map_congr some (outlined_textOfValue _ _ h))
    (fun _ _ h => outlined_map_congr some (outlined_textOfValue _ _ h))

theorem outlined_readTheme (h : EntriesReordered es gs) :
    outlined (readTheme es) = outlined (readTheme gs) := by
  unfold readTheme
  exact reordered_option_cases (h.rel_field? "theme") rfl (fun _ _ => rfl) (fun _ _ _ _ => rfl)
    (fun _ _ _ => rfl)

theorem outlined_readFocus (known : List String) (h : Option.Rel (Reordered .elsewhere) o o') :
    outlined (readFocus known o) = outlined (readFocus known o') := by
  rw [readFocus_eq, readFocus_eq]
  exact outlined_readList _
    (fun _ _ h => outlined_bind_congr (outlined_idOfValue _ h) fun _ => rfl) h

/-! ### The document -/

namespace Document

theorem outlined_ofEntries (h : EntriesReordered es gs) :
    outlined (ofEntries es) = outlined (ofEntries gs) := by
  refine outlined_bind_congr (outlined_readTitle h) fun title => ?_
  refine outlined_bind_congr (outlined_readTheme h) fun theme => ?_
  refine outlined_bind_congr (outlined_foldlM_congr (outlined_readSection h) _ _) fun nodes => ?_
  refine outlined_bind_congr rfl fun _ => ?_
  exact outlined_bind_congr (outlined_readFocus _ (h.rel_field? "filter")) fun _ => rfl

/-- **The order of keys does not matter.** Two values that differ only in the order of the keys of
mappings, wherever these stand, are the same document; or they are both refused, for errors of one kind
about one node. -/
theorem ofValue_reordered (h : Reordered .elsewhere v w) :
    (∃ d, ofValue v = .ok d ∧ ofValue w = .ok d) ∨
      ∃ e f, ofValue v = .error e ∧ ofValue w = .error f ∧ e.isReported = f.isReported ∧
        e.isFocusError = f.isFocusError ∧ e.nodeId? = f.nodeId? := by
  have houtlined : outlined (ofValue v) = outlined (ofValue w) := by
    cases h.view with
    | same _ => rfl
    | list _ => rfl
    | map hself hself' hentries =>
      rw [ofValue, ofValue, hself, hself']
      exact outlined_ofEntries hentries
  refine (outlined_eq_iff.mp houtlined).imp_right ?_
  rintro ⟨e, f, he, hf, hoff⟩
  obtain ⟨hreported, hfocus, hnode⟩ := DocumentError.Outline.mk.inj hoff
  exact ⟨e, f, he, hf, hreported, hfocus, hnode⟩

/-- A reference with flags beside its name and under it. -/
def flaggedValue : Value :=
  .map [(.text "a", .map [(.text "implemented", .bool false), (.text "label", .text "x")]),
    (.text "backwards", .bool true)]

/-- The same reference with both mappings in another order. -/
def shuffledValue : Value :=
  .map [(.text "backwards", .bool true),
    (.text "a", .map [(.text "label", .text "x"), (.text "implemented", .bool false)])]

/-- A document with a reference. -/
def flaggedDocument : Value :=
  .map [(.text "title", .text "t"), (.text "facts", .list [.text "a"]),
    (.text "attacks", .list [.map [(.text "b", .text "B"), (.text "from", .list [flaggedValue])]])]

/-- The same document with every mapping in another order. -/
def shuffledDocument : Value :=
  .map [(.text "facts", .list [.text "a"]), (.text "title", .text "t"),
    (.text "attacks", .list [.map [(.text "from", .list [shuffledValue]), (.text "b", .text "B")]])]

theorem reordered_shuffledValue : Reordered .inList flaggedValue shuffledValue := by
  have hflags : Reordered .elsewhere
      (.map [(.text "implemented", .bool false), (.text "label", .text "x")])
      (.map [(.text "label", .text "x"), (.text "implemented", .bool false)]) :=
    reordered_map (by simp [KeysDistinct, sameKey]) (.swap _ _ _)
      (.cons ⟨rfl, .same rfl⟩ (.cons ⟨rfl, .same rfl⟩ .nil))
  exact reordered_map (by simp [KeysDistinct, sameKey]) (.swap _ _ _)
    (.cons ⟨rfl, hflags⟩ (.cons ⟨rfl, .same rfl⟩ .nil))

theorem reordered_shuffledDocument : Reordered .elsewhere flaggedDocument shuffledDocument := by
  have hentry : Reordered .inList
      (.map [(.text "b", .text "B"), (.text "from", .list [flaggedValue])])
      (.map [(.text "from", .list [shuffledValue]), (.text "b", .text "B")]) :=
    reordered_map (by simp [KeysDistinct, sameKey]) (.swap _ _ _)
      (.cons ⟨rfl, .same rfl⟩
        (.cons ⟨rfl, reordered_list (.cons reordered_shuffledValue .nil)⟩ .nil))
  exact reordered_map (by simp [KeysDistinct, sameKey]) (.swap _ _ _)
    (.cons ⟨rfl, .same rfl⟩ (.cons ⟨rfl, .same rfl⟩
      (.cons ⟨rfl, reordered_list (.cons hentry .nil)⟩ .nil)))

/-- Both are read as one document. -/
theorem ofValue_shuffledDocument :
    ∃ d, ofValue flaggedDocument = .ok d ∧ ofValue shuffledDocument = .ok d := by
  have haccepted : (ofValue flaggedDocument).toOption.isSome = true := by decide +kernel
  refine (ofValue_reordered reordered_shuffledDocument).resolve_right ?_
  rintro ⟨e, f, he, -⟩
  rw [he] at haccepted
  cases haccepted

end Document
end ThreatTree
