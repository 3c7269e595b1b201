import ThreatTree.Proofs.Dot.Markup
import ThreatTree.Proofs.Dot.Names
import ThreatTree.Proofs.Session.Refresh
import ThreatTree.Proofs.Yaml.SetOrder
import ThreatTree.Proofs.Yaml.Surrogate

/-!
# One text in several processes

Two processes show a text alike if they read it alike (`shown_eq_of_readAlike`). If they list the
members of a set in two orders they need not: such a title has two DOT texts (`dot_ne_of_setDocument`).
In no process is there a picture of a text whose DOT text cannot be encoded, though it compiles like any
other (`exists_compile_halfDocument`).
-/

namespace ThreatTree.Session

/-! ### Processes that read a text alike -/

section Alike

variable {o o' : SetOrder} {text : String}

theorem compile_eq_of_readAlike (h : Yaml.ReadAlike o o' text) (s : Session) :
    @compile o s text = @compile o' s text :=
  compile_congr h _ _ _

theorem shown_eq_of_readAlike (h : Yaml.ReadAlike o o' text) (s : Session) (engine : Layout.Engine) :
    @shown o s engine text = @shown o' s engine text := by
  unfold shown
  rw [compile_eq_of_readAlike h]

end Alike

/-! ### What a text compiles to -/

variable {s : Session} {text : String} {c : Compiled}

section Compiling

variable [SetOrder]

/-- What a text compiles to is the DOT text of its graph. -/
theorem emit_of_compile (hc : s.compile text = .ok c) : Dot.emit c.graph = .ok c.dot := by
  obtain ⟨d, -, hc⟩ := bind_eq_ok_iff.mp hc
  obtain ⟨graph, -, hc⟩ := bind_eq_ok_iff.mp hc
  obtain ⟨dot, hdot, hc⟩ := bind_eq_ok_iff.mp hc
  cases hc
  exact mapError_eq_ok_iff.mp hdot

/-- The title of a document stays its title. -/
theorem exists_title_of_compile (hc : s.compile text = .ok c) :
    ∃ d, Document.ofText text = .ok d ∧ c.graph.title = d.title := by
  obtain ⟨d, hd, hc⟩ := bind_eq_ok_iff.mp hc
  obtain ⟨part, hpart, hc⟩ := bind_eq_ok_iff.mp hc
  obtain ⟨dot, -, hc⟩ := bind_eq_ok_iff.mp hc
  cases hc
  refine ⟨d, hd, ?_⟩
  obtain ⟨g, hg, hpart⟩ := bind_eq_ok_iff.mp hpart
  rw [mapError_eq_ok_iff] at hg hpart
  have htitle : g.title = d.title := by
    unfold Document.toGraph at hg
    dsimp only at hg
    split at hg <;> cases hg
    rfl
  rw [← htitle]
  unfold Graph.focusOn at hpart
  split at hpart
  · cases hpart
    rfl
  · split at hpart <;> cases hpart
    rfl

/-- A snapshot of a text that compiles has what it compiles to, and the text itself. -/
theorem dot_of_shown {engine : Layout.Engine} {shot : Snapshot}
    (hshot : s.shown engine text = .ok shot) (hc : s.compile text = .ok c) :
    shot.dot = c.dot ∧ shot.source = text := by
  unfold shown at hshot
  rw [hc] at hshot
  dsimp only at hshot
  split at hshot
  · unfold laidOut at hshot
    split at hshot
    · cases hshot
      exact ⟨rfl, rfl⟩
    · split at hshot <;> cases hshot
      exact ⟨rfl, rfl⟩
  · cases hshot
    exact ⟨rfl, rfl⟩

/-- A snapshot with a picture is one of a text that compiles, and this can be encoded. -/
theorem exists_compile_of_hasRender {engine : Layout.Engine} {shot : Snapshot}
    (hshot : s.shown engine text = .ok shot) (hrender : shot.hasRender = true) :
    ∃ c, s.compile text = .ok c ∧ Yaml.isWhole text c.dot = true := by
  unfold shown at hshot
  split at hshot
  · split at hshot <;> cases hshot
    simp [Snapshot.hasRender, Snapshot.rejected, Snapshot.empty] at hrender
  next c hc =>
  refine ⟨c, hc, ?_⟩
  split at hshot
  · unfold laidOut at hshot
    split at hshot
    · cases hshot
      simp [Snapshot.hasRender, Snapshot.compiled] at hrender
    · next hresult => exact (Layout.exists_of_attemptOf_eq_ok hresult).1
  · cases hshot
    simp [Snapshot.hasRender, Snapshot.compiled] at hrender

end Compiling

/-! ### A set in two orders -/

/-- A document with a set for its title. -/
def setDocument : String := "title: !!set {b, c}\nfacts: [a]\n"

/-- Two processes write `setDocument` to different DOT texts, whatever view is chosen. -/
theorem dot_ne_of_setDocument {s' : Session} {c' : Compiled}
    (hc : @compile .written s setDocument = .ok c)
    (hc' : @compile .reversed s' setDocument = .ok c') : c'.dot ≠ c.dot := by
  have htitles : (@Document.ofText .written setDocument).toOption.map Document.title =
        some (some "\x7b'b', 'c'\x7d") ∧
      (@Document.ofText .reversed setDocument).toOption.map Document.title =
        some (some "\x7b'c', 'b'\x7d") := by
    decide +kernel
  obtain ⟨d, hd, htitle⟩ := @exists_title_of_compile _ _ _ .written hc
  obtain ⟨d', hd', htitle'⟩ := @exists_title_of_compile _ _ _ .reversed hc'
  rw [hd, hd'] at htitles
  have hown : d.title = some "\x7b'b', 'c'\x7d" := Option.some.inj htitles.1
  have hown' : d'.title = some "\x7b'c', 'b'\x7d" := Option.some.inj htitles.2
  intro hsame
  have htitles : "\x7b'b', 'c'\x7d" = "\x7b'c', 'b'\x7d" :=
    Dot.title_eq_of_emit (@emit_of_compile _ _ _ .written hc)
      (hsame ▸ @emit_of_compile _ _ _ .reversed hc') (htitle.trans hown) (htitle'.trans hown')
      (by decide) (by decide) (by decide +kernel)
  exact absurd htitles (by decide)

/-! ### Half a surrogate pair -/

/-- A document with half a surrogate pair in it. -/
def halfDocument : String := "facts: [\"\\ud800\"]\n"

attribute [local instance] SetOrder.written

/-- What stands for the half in it. -/
def halfStandIn : Char := Yaml.Surrogate.standIn halfDocument.toList 0xd800

/-- It compiles to a graph with a node, and to a DOT text that cannot be encoded. -/
theorem exists_compile_halfDocument :
    ∃ c, (Session.start [] none .default).compile halfDocument = .ok c ∧ c.graph.nodes ≠ [] ∧
      Yaml.isWhole halfDocument c.dot = false := by
  obtain ⟨hids, hblock, hnamed, hname⟩ :
      ((Session.start [] none .default).compile halfDocument).toOption.map
          (·.graph.nodes.map Node.id) = some [String.singleton halfStandIn] ∧
        Yaml.Surrogate.block? halfDocument.toList = some 0x10f800 ∧
        0xd800 ∈ Yaml.Surrogate.named halfDocument.toList ∧
        halfStandIn ∈ (Dot.nameOf (String.singleton halfStandIn)).toList := by
    decide +kernel
  obtain ⟨c, hc, hids⟩ := Option.map_eq_some_iff.mp hids
  have hc := toOption_eq_some_iff.mp hc
  obtain ⟨n, hn, hid⟩ := List.mem_map.mp (hids ▸ List.mem_singleton_self (String.singleton halfStandIn))
  refine ⟨c, hc, List.ne_nil_of_mem hn, ?_⟩
  refine Yaml.isWhole_eq_false hblock hnamed (by decide) ?_
  rw [← hid] at hname
  exact (Dot.name_infix_of_emit (emit_of_compile hc) hn).subset hname

end ThreatTree.Session
