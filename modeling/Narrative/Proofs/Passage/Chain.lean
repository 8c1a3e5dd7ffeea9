/-
Module: Narrative.Proofs.Passage.Chain
Purpose: Chains of descriptors, as an author reads them: "if this, or else that, or else the other".
  The flag that a telling hands from one descriptor to the next amounts to the chains: it considers
  the descriptors of each chain up to the first that may be told.
Main exports: Passage.isOpen, Node.chains, Node.considered, Node.asked, Node.asked_eq_flatMap,
  Node.exists_first_iff
-/
import Mathlib.Data.List.SplitBy
import Mathlib.Data.List.TakeWhile
import Narrative.Passage

namespace Narrative

/-- Whether the passage may be told. In doubt it may not. -/
def Passage.isOpen (has : Reference → Except EvaluationError Bool) (passage : Passage) : Bool :=
  match passage.isAvailable has with
  | .ok available => available
  | .error _ => false

theorem Passage.not_exhausted_of_isAvailable {has : Reference → Except EvaluationError Bool}
    {passage : Passage} (available : passage.isAvailable has = .ok true) :
    passage.exhausted = false := by
  unfold isAvailable at available
  split at available
  · cases available
  next fresh => exact Bool.not_eq_true _ ▸ fresh

@[simp] theorem Passage.told_false (passage : Passage) : passage.told false = passage := rfl

namespace Node

/-- Nodes with their positions, cut into chains. A chain begins at the first node and at every node
that does not depend on the one before it; those that do follow in it. -/
def chains (position : Nat) (nodes : List Node) : List (List (Node × Nat)) :=
  (nodes.zipIdx position).splitBy fun _ next => decide (next.1.passage.correlation = .otherwise)

/-- Those of a chain that are considered: up to the first that may be told. -/
def considered (has : Reference → Except EvaluationError Bool) (chain : List (Node × Nat)) :
    List (Node × Nat) :=
  chain.takeWhile (! ·.1.passage.isOpen has) ++ (chain.find? (·.1.passage.isOpen has)).toList

/-- The nodes that are considered, with their positions. The flag says whether the one before them was
told; one that is left out hands it on. -/
def asked (has : Reference → Except EvaluationError Bool) :
    (told : Bool) → (position : Nat) → List Node → List (Node × Nat)
  | _, _, [] => []
  | told, position, node :: rest =>
    if told && node.passage.isOtherwise then asked has true (position + 1) rest
    else (node, position) :: asked has (node.passage.isOpen has) (position + 1) rest

variable {has : Reference → Except EvaluationError Bool}

/-! ### One chain -/

theorem considered_cons (entry : Node × Nat) (chain : List (Node × Nat)) :
    considered has (entry :: chain) =
      entry :: if entry.1.passage.isOpen has then [] else considered has chain := by
  cases opened : entry.1.passage.isOpen has <;> simp [considered, opened]

/-- The first of a chain that may be told is the only one of those considered. -/
theorem mem_considered_iff {chain : List (Node × Nat)} {entry : Node × Nat}
    (opened : entry.1.passage.isOpen has = true) :
    entry ∈ considered has chain ↔ chain.find? (·.1.passage.isOpen has) = some entry := by
  have closed : entry ∉ chain.takeWhile (! ·.1.passage.isOpen has) := by
    intro member
    have shut := List.mem_takeWhile_imp member
    simp [opened] at shut
  simp [considered, closed]

/-- After a telling, the rest of the chain is left out; otherwise it is considered. Where the next
chain begins, the flag does not matter any more. -/
theorem asked_append {run others : List Node} (follows : ∀ node ∈ run, node.passage.isOtherwise)
    (begins : ∀ node ∈ others.head?, node.passage.isOtherwise = false) (told : Bool)
    (position : Nat) :
    asked has told position (run ++ others) =
      (if told then [] else considered has (run.zipIdx position)) ++
        asked has false (position + run.length) others := by
  induction run generalizing told position with
  | nil =>
      cases others with
      | nil => cases told <;> rfl
      | cons node rest =>
          have independent := begins node rfl
          cases told <;> simp [asked, considered, independent]
  | cons node run ih =>
      obtain ⟨here, later⟩ := List.forall_mem_cons.1 follows
      have length : position + 1 + run.length = position + (run.length + 1) := by omega
      rw [List.cons_append, asked, List.zipIdx_cons, considered_cons, List.length_cons]
      cases told with
      | true => simp [here, ih later, length]
      | false => simp [ih later, length]

/-! ### All chains -/

/-- The first chain reaches up to the next node that does not depend on the one before it. -/
theorem chains_append {node : Node} {run others : List Node}
    (follows : ∀ node ∈ run, node.passage.isOtherwise)
    (begins : ∀ node ∈ others.head?, node.passage.isOtherwise = false) (position : Nat) :
    chains position (node :: run ++ others) =
      (node :: run).zipIdx position :: chains (position + (run.length + 1)) others := by
  unfold chains
  rw [List.zipIdx_append, List.splitBy_append, List.splitBy_of_isChain]
  · rfl
  · simp
  · rw [List.isChain_iff_getElem]
    intro index within
    simp only [List.length_zipIdx, List.length_cons] at within
    simpa [Passage.isOtherwise] using follows run[index] (List.getElem_mem _)
  · intro _ _ next first
    rw [List.head?_zipIdx] at first
    obtain ⟨other, head, rfl⟩ := Option.map_eq_some_iff.1 first
    exact begins other head

/-- Where the chain of a node that comes before ends. -/
theorem exists_run (nodes : List Node) : ∃ run others, nodes = run ++ others ∧
    (∀ node ∈ run, node.passage.isOtherwise) ∧
    ∀ node ∈ others.head?, node.passage.isOtherwise = false := by
  refine ⟨_, _, (List.takeWhile_append_dropWhile (p := (·.passage.isOtherwise))).symm, ?_, ?_⟩
  · exact fun node => List.mem_takeWhile_imp (p := fun node : Node => node.passage.isOtherwise)
  · intro node head
    have stopped := List.head?_dropWhile_not (fun node => node.passage.isOtherwise) nodes
    rw [Option.mem_def] at head
    simpa [head] using stopped

/-- What a telling considers is what the chains say. -/
theorem asked_eq_flatMap (position : Nat) : ∀ nodes : List Node,
    asked has false position nodes = (chains position nodes).flatMap (considered has)
  | [] => rfl
  | node :: rest => by
      obtain ⟨run, others, rfl, follows, begins⟩ := exists_run rest
      have later := asked_eq_flatMap (position + (run.length + 1)) others
      rw [← List.cons_append, chains_append follows begins, List.flatMap_cons, ← later,
        List.zipIdx_cons, considered_cons, List.cons_append, asked, Bool.false_and,
        if_neg Bool.false_ne_true, asked_append follows begins, Nat.add_right_comm, Nat.add_assoc,
        List.cons_append]
termination_by nodes => nodes.length

/-- The nodes that are considered and may be told are the first such of their chains. -/
theorem exists_first_iff {position : Nat} {nodes : List Node} {entry : Node × Nat} :
    (∃ chain ∈ chains position nodes, chain.find? (·.1.passage.isOpen has) = some entry) ↔
      entry ∈ asked has false position nodes ∧ entry.1.passage.isOpen has = true := by
  rw [asked_eq_flatMap, List.mem_flatMap]
  constructor
  · rintro ⟨chain, cut, first⟩
    have opened : entry.1.passage.isOpen has = true := by simpa using List.find?_some first
    exact ⟨⟨chain, cut, (mem_considered_iff opened).2 first⟩, opened⟩
  · rintro ⟨⟨chain, cut, member⟩, opened⟩
    exact ⟨chain, cut, (mem_considered_iff opened).1 member⟩

end Node

end Narrative
