import Mathlib.Data.List.Induction
import Stencil.Proofs.Disk.Calm
import Stencil.Proofs.Disk.Names

/-!
# Trees of files

On a disk whose nodes form a tree every node stands in a directory, and so do the directories above it. So what stands
below a directory is reached from there by the names that lead to it (`Disk.IsTree.walk_eq`), as long as the path
is not too long (`Disk.IsTree.locate_below`).
-/

namespace Stencil.Disk

open DiskPath

/-- Can a node of the disk have the name? -/
structure IsNodeName (name : String) : Prop where
  isFileName : IsFileName name
  noNull : '\x00' ∉ name.toList
  short : name.utf8ByteSize ≤ greatestName

instance (name : String) : Decidable (IsNodeName name) :=
  decidable_of_iff (IsFileName name ∧ '\x00' ∉ name.toList ∧ name.utf8ByteSize ≤ greatestName)
    ⟨fun ⟨named, noNull, short⟩ => ⟨named, noNull, short⟩, fun h => ⟨h.isFileName, h.noNull, h.short⟩⟩

/-- The nodes of the disk form a tree: all names are such that files can have, each place has one node, and every node
stands in a directory. -/
structure IsTree (d : Disk) : Prop where
  named : ∀ entry ∈ d.nodes, ∀ name ∈ entry.1, IsNodeName name
  once : ∀ entry ∈ d.nodes, d.node? entry.1 = some entry.2
  housed : ∀ entry ∈ d.nodes, ∃ t, d.node? entry.1.dropLast = some (.directory t)

variable {d : Disk} {place above names : List String} {node : DiskNode} {p : DiskPath}

theorem mem_nodes_of_node? (here : d.node? place = some node) (inside : place ≠ []) : (place, node) ∈ d.nodes := by
  rw [node?, if_neg inside] at here
  obtain ⟨before, after, nodes, -⟩ := List.lookup_eq_some_iff.1 here
  rw [nodes]
  simp

/-- A path whose names lead somewhere leads there, if it is not too long. -/
theorem locate_of_short (short : d.place p ≠ .error .nameTooLong)
    (walked : d.walk (if p.isAbsolute then [] else d.working) p.names = .ok place) : d.locate p = .ok place := by
  rw [locate_eq_ok_iff]
  unfold Disk.place at short ⊢
  split
  · next long => exact absurd (if_pos long) short
  · exact walked

/-- Names that lead downwards from a directory end below it, if they end anywhere. -/
theorem eq_append_of_locate_below {root : DiskPath} {other : List String} (located : d.locate root = .ok place)
    (plain : DiskPath.above ∉ names) (below : d.locate (root.below names) = .ok other) : other = place ++ names := by
  rw [eq_resolve_of_locate below, resolve_below root plain, eq_resolve_of_locate located]

namespace IsTree

variable (tree : d.IsTree)
include tree

theorem isNodeName (here : d.node? place = some node) : ∀ name ∈ place, IsNodeName name := by
  intro name mem
  exact tree.named _ (mem_nodes_of_node? here (List.ne_nil_of_mem mem)) name mem

/-- All that lies above a node are directories. -/
theorem directory_above (here : d.node? (above ++ names) = some node) (below : names ≠ []) :
    ∃ t, d.node? above = some (.directory t) := by
  induction names using List.reverseRecOn generalizing node with
  | nil => exact absurd rfl below
  | append_singleton front last ih =>
    obtain ⟨t, parent⟩ := tree.housed _ (mem_nodes_of_node? here (by simp))
    rw [← List.append_assoc, List.dropLast_concat] at parent
    by_cases direct : front = []
    · rw [direct, List.append_nil] at parent
      exact ⟨t, parent⟩
    · exact ih parent direct

/-- A node is reached from above by the names that lead to it. -/
theorem walk_eq (here : d.node? (above ++ names) = some node) : d.walk above names = .ok (above ++ names) := by
  induction names generalizing above with
  | nil => rw [walk, List.append_nil]
  | cons name rest ih =>
    obtain ⟨t, directory⟩ := tree.directory_above here (List.cons_ne_nil _ _)
    have named := tree.isNodeName here name (by simp)
    rw [walk, directory]
    dsimp only
    rw [if_neg named.isFileName.2.2.1, if_neg (Nat.not_lt.2 named.short)]
    rw [List.append_cons] at here
    rw [ih here, ← List.append_cons]

theorem above_not_mem (here : d.node? (above ++ names) = some node) : DiskPath.above ∉ names :=
  fun mem => (tree.isNodeName here _ (List.mem_append_right _ mem)).isFileName.2.2.1 rfl

theorem locate_below {root : DiskPath} (located : d.locate root = .ok above)
    (here : d.node? (above ++ names) = some node) (short : d.place (root.below names) ≠ .error .nameTooLong) :
    d.locate (root.below names) = .ok (above ++ names) := by
  refine locate_of_short short ?_
  change d.walk (if root.isAbsolute then [] else d.working) (root.names ++ names) = _
  rw [walk_of_locate located, tree.walk_eq here]

end IsTree

end Stencil.Disk
