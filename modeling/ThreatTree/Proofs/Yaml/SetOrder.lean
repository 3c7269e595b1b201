import ThreatTree.Compile

/-!
# The order of sets

Two processes may list the members of a set in different orders, so they may read a text differently.
They read it alike (`Yaml.ReadAlike`) if there is no set in it, and then everything that they compile it
to is the same.

Main statements: `readAlike_of_hasSet_eq_false` and `compile_congr`.
-/

namespace ThreatTree

namespace Yaml

/-- Two processes read a text alike. -/
def ReadAlike (o o' : SetOrder) (text : String) : Prop := @load o text = @load o' text

namespace Node

mutual

/-- Whether a set is written somewhere in a tree. -/
def hasSet : Node → Bool
  | scalar _ _ | enclosing _ _ => false
  | sequence _ items => hasSetItems items
  | mapping tag entries => tag = .set || hasSetEntries entries

/-- Whether a set is written in some trees. -/
def hasSetItems : List Node → Bool
  | [] => false
  | n :: ns => hasSet n || hasSetItems ns

/-- Whether a set is written in some keys and values. -/
def hasSetEntries : List (Node × Node) → Bool
  | [] => false
  | (k, v) :: rest => hasSet k || hasSet v || hasSetEntries rest

end

variable (o o' : SetOrder)

mutual

theorem outcome_congr (n : Node) (hn : hasSet n = false) (depth : Nat) :
    @outcome o depth n = @outcome o' depth n := by
  cases n with
  | scalar tag text => rfl
  | enclosing up isMapping => rfl
  | sequence tag items =>
    rw [hasSet] at hn
    simp only [outcome, outcomes_congr items hn, pairOutcomes_congr items hn]
  | mapping tag entries =>
    rw [hasSet, Bool.or_eq_false_iff, decide_eq_false_iff_not] at hn
    obtain ⟨htag, hn⟩ := hn
    cases tag with
    | set => exact absurd rfl htag
    | _ => simp only [outcome, entryOutcomes_congr entries hn]

theorem outcomes_congr (ns : List Node) (hns : hasSetItems ns = false) (depth : Nat) :
    @outcomes o depth ns = @outcomes o' depth ns := by
  cases ns with
  | nil => rfl
  | cons n ns =>
    rw [hasSetItems, Bool.or_eq_false_iff] at hns
    simp only [outcomes, outcome_congr n hns.1, outcomes_congr ns hns.2]

theorem pairOutcomes_congr (ns : List Node) (hns : hasSetItems ns = false) (depth : Nat) :
    @pairOutcomes o depth ns = @pairOutcomes o' depth ns := by
  match ns with
  | [] => rfl
  | .mapping tag [(k, v)] :: ns =>
    simp only [hasSetItems, hasSet, hasSetEntries, Bool.or_eq_false_iff] at hns
    obtain ⟨⟨-, ⟨hk, hv⟩, -⟩, hns⟩ := hns
    simp only [pairOutcomes, outcome_congr k hk, outcome_congr v hv, pairOutcomes_congr ns hns]
  | .mapping tag [] :: ns | .mapping tag (_ :: _ :: _) :: ns | .scalar _ _ :: ns | .sequence _ _ :: ns
  | .enclosing _ _ :: ns =>
    rw [hasSetItems, Bool.or_eq_false_iff] at hns
    simp only [pairOutcomes, pairOutcomes_congr ns hns.2]

theorem entryOutcomes_congr (entries : List (Node × Node)) (hentries : hasSetEntries entries = false)
    (depth : Nat) : @entryOutcomes o depth entries = @entryOutcomes o' depth entries := by
  match entries with
  | [] => rfl
  | (k, v) :: rest =>
    simp only [hasSetEntries, Bool.or_eq_false_iff] at hentries
    obtain ⟨⟨hk, hv⟩, hrest⟩ := hentries
    have hkey := outcome_congr k hk depth
    have hvalue := outcome_congr v hv depth
    cases v with
    | mapping tag inner =>
      have hinner : hasSetEntries inner = false := by
        rw [hasSet, Bool.or_eq_false_iff] at hv
        exact hv.2
      simp only [entryOutcomes, entryOutcomes_congr rest hrest, entryOutcomes_congr inner hinner, hkey,
        hvalue]
    | sequence tag items =>
      have hitems : hasSetItems items = false := by rwa [hasSet] at hv
      simp only [entryOutcomes, entryOutcomes_congr rest hrest, mergedOutcomes_congr items hitems, hkey,
        hvalue]
    | scalar tag text => simp only [entryOutcomes, entryOutcomes_congr rest hrest, hkey, hvalue]
    | enclosing up isMapping =>
      cases isMapping <;>
        simp only [entryOutcomes, entryOutcomes_congr rest hrest, hkey, hvalue]

theorem mergedOutcomes_congr (ns : List Node) (hns : hasSetItems ns = false) (depth : Nat) :
    @mergedOutcomes o depth ns = @mergedOutcomes o' depth ns := by
  match ns with
  | [] => rfl
  | n :: ns =>
    rw [hasSetItems, Bool.or_eq_false_iff] at hns
    obtain ⟨hn, hns⟩ := hns
    cases n with
    | mapping tag inner =>
      have hinner : hasSetEntries inner = false := by
        rw [hasSet, Bool.or_eq_false_iff] at hn
        exact hn.2
      simp only [mergedOutcomes, mergedOutcomes_congr ns hns, entryOutcomes_congr inner hinner]
    | enclosing up isMapping =>
      cases isMapping <;> simp only [mergedOutcomes, mergedOutcomes_congr ns hns]
    | _ => simp only [mergedOutcomes, mergedOutcomes_congr ns hns]

end

end Node

/-- **A text without a set is read alike by all processes.** -/
theorem readAlike_of_hasSet_eq_false {text : String}
    (h : ∀ n, Node.ofText? text = .ok (some n) → n.hasSet = false) (o o' : SetOrder) :
    ReadAlike o o' text := by
  unfold ReadAlike load
  cases hnode : Node.ofText? text with
  | error f => rfl
  | ok found =>
    cases found with
    | none => rfl
    | some n =>
      show @Node.toValue o n = @Node.toValue o' n
      simp only [Node.toValue, Node.outcome_congr o o' n (h n hnode)]

/-- A document of one fact is read alike. -/
theorem readAlike_oneFact (o o' : SetOrder) : ReadAlike o o' "facts: [a]\n" := by
  apply readAlike_of_hasSet_eq_false
  intro n hn
  have hnone : (Node.ofText? "facts: [a]\n").toOption.join.map Node.hasSet = some false := by
    decide +kernel
  rw [hn] at hnone
  exact Option.some.inj hnone

end Yaml

/-- **What is read alike compiles to the same.** -/
theorem compile_congr {o o' : SetOrder} {text : String} (h : Yaml.ReadAlike o o' text)
    (focus : Option (List String)) (theme : Option String) (fallback : String) :
    @compile o text focus theme fallback = @compile o' text focus theme fallback := by
  unfold compile Document.ofText
  rw [h]

end ThreatTree
