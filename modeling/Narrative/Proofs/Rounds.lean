/-
Module: Narrative.Proofs.Rounds
Purpose: Chains in which each link has to do with the next. Where nothing comes round to itself, they are
  no longer than there are things that can be links.
Main exports: length_le_of_nodup, length_le_of_isChain
-/
import Mathlib.Data.List.Chain
import Mathlib.Data.List.Perm.Subperm
import Mathlib.Logic.Relation

namespace Narrative

variable {α : Type} {related : α → α → Prop} {links things : List α}

/-- Different links among some things are no more than these. -/
theorem length_le_of_nodup (different : links.Nodup) (among : ∀ link ∈ links, link ∈ things) :
    links.length ≤ things.length := by
  have within : links.Subperm things := different.subperm fun link member => among link member
  exact within.length_le

/-- The links of a chain are different if none of them comes round to itself. -/
theorem nodup_of_isChain (chain : links.IsChain related)
    (ends : ∀ link ∈ links, ¬ Relation.TransGen related link link) : links.Nodup := by
  have ordered : links.Pairwise (Relation.TransGen related) :=
    List.isChain_iff_pairwise.1 (chain.imp fun _ _ => .single)
  refine ordered.imp_of_mem fun {link other} member _ leads => ?_
  rintro rfl
  exact ends link member leads

theorem length_le_of_isChain (chain : links.IsChain related)
    (ends : ∀ link ∈ links, ¬ Relation.TransGen related link link)
    (among : ∀ link ∈ links, link ∈ things) : links.length ≤ things.length :=
  length_le_of_nodup (nodup_of_isChain chain ends) among

end Narrative
