import SourceFacts.Syntax.Source
import SourceFacts.Syntax.Walk

/-!
# Paths in a tree

A place in a tree is a node with the nodes above it, the nearest first. The visits of a tree are its
places in pre-order.
-/

namespace SourceFacts.Node

/-! ## Pre-order -/

theorem walkAll_eq_flatMap (cut : Node → Bool) (ns : List Node) :
    walkAll cut ns = ns.flatMap (walkBelow cut) := by
  induction ns with
  | nil => rfl
  | cons n ns ih => rw [walkAll, ih, List.flatMap_cons]

theorem walkBelow_of_not_cut (cut : Node → Bool) (n : Node) (h : cut n = false) :
    walkBelow cut n = n.walk cut := by
  cases n with
  | node l cs => simp [walkBelow, walk, h]

theorem preorder_eq (n : Node) : n.preorder = n :: n.children.flatMap preorder := by
  unfold preorder
  rw [walk, walkAll_eq_flatMap]
  congr 2
  funext c
  exact walkBelow_of_not_cut _ c rfl

theorem visitsAll_eq_flatMap (above : List Node) (ns : List Node) :
    visitsAll above ns = ns.flatMap (visits above) := by
  induction ns with
  | nil => rfl
  | cons n ns ih => rw [visitsAll, ih, List.flatMap_cons]

theorem visits_eq (above : List Node) (n : Node) :
    n.visits above = (n, above) :: n.children.flatMap (visits (n :: above)) := by
  cases n with
  | node l cs => rw [visits, visitsAll_eq_flatMap, children_node]

mutual

/-- The visits of a tree meet its nodes in pre-order. -/
theorem map_fst_visits (above : List Node) : (n : Node) → (n.visits above).map (·.1) = n.preorder
  | .node l cs => by
      rw [visits, List.map_cons, map_fst_visitsAll (.node l cs :: above) cs, preorder_eq,
        children_node]

theorem map_fst_visitsAll (above : List Node) :
    (ns : List Node) → (visitsAll above ns).map (·.1) = ns.flatMap preorder
  | [] => rfl
  | n :: ns => by
      rw [visitsAll, List.map_append, map_fst_visits above n, map_fst_visitsAll above ns,
        List.flatMap_cons]

end

/-! ## Places -/

/-- The node stands in the tree below the given nodes, the nearest first. -/
inductive At (root : Node) : Node → List Node → Prop where
  | root : At root root []
  | child {parent child : Node} {above : List Node} (h : At root parent above)
      (hc : child ∈ parent.children) : At root child (parent :: above)

mutual

theorem At.of_mem_visits {root : Node} {above : List Node} {place : Node × List Node} :
    (n : Node) → At root n above → place ∈ n.visits above → At root place.1 place.2
  | .node l cs, hn, h => by
      rw [visits] at h
      rcases List.mem_cons.mp h with rfl | h
      · exact hn
      · exact At.of_mem_visitsAll cs (fun c hc => .child hn hc) h

theorem At.of_mem_visitsAll {root : Node} {above : List Node} {place : Node × List Node} :
    (ns : List Node) → (∀ n ∈ ns, At root n above) → place ∈ visitsAll above ns →
      At root place.1 place.2
  | [], _, h => absurd h List.not_mem_nil
  | n :: ns, hns, h => by
      rw [visitsAll] at h
      rcases List.mem_append.mp h with h | h
      · exact At.of_mem_visits n (hns n List.mem_cons_self) h
      · exact At.of_mem_visitsAll ns (fun m hm => hns m (List.mem_cons_of_mem _ hm)) h

end

mutual

theorem child_mem_visits {above above' : List Node} {parent child : Node}
    (hc : child ∈ parent.children) :
    (n : Node) → (parent, above') ∈ n.visits above → (child, parent :: above') ∈ n.visits above
  | .node l cs, h => by
      rw [visits] at h ⊢
      refine List.mem_cons_of_mem _ ?_
      rcases List.mem_cons.mp h with h | h
      · cases h
        rw [visitsAll_eq_flatMap]
        refine List.mem_flatMap.mpr ⟨child, hc, ?_⟩
        rw [visits_eq]
        exact List.mem_cons_self
      · exact child_mem_visitsAll hc cs h

theorem child_mem_visitsAll {above above' : List Node} {parent child : Node}
    (hc : child ∈ parent.children) :
    (ns : List Node) → (parent, above') ∈ visitsAll above ns →
      (child, parent :: above') ∈ visitsAll above ns
  | [], h => absurd h List.not_mem_nil
  | n :: ns, h => by
      rw [visitsAll] at h ⊢
      rcases List.mem_append.mp h with h | h
      · exact List.mem_append_left _ (child_mem_visits hc n h)
      · exact List.mem_append_right _ (child_mem_visitsAll hc ns h)

end

theorem mem_visits_iff {root n : Node} {above : List Node} :
    (n, above) ∈ root.visits [] ↔ root.At n above := by
  constructor
  · exact At.of_mem_visits root .root
  · intro h
    induction h with
    | root =>
        rw [visits_eq]
        exact List.mem_cons_self
    | child _ hc ih => exact child_mem_visits hc root ih

/-- Each node above a place has a place of its own. -/
theorem At.of_append {root n d : Node} {inner outer : List Node}
    (h : root.At n (inner ++ d :: outer)) : root.At d outer := by
  induction inner generalizing n with
  | nil =>
      cases h with
      | child h _ => exact h
  | cons parent inner ih =>
      cases h with
      | child h _ => exact ih h

theorem At.mem_preorder {root n : Node} {above : List Node} (h : root.At n above) :
    n ∈ root.preorder := by
  rw [← map_fst_visits []]
  exact List.mem_map.mpr ⟨(n, above), mem_visits_iff.mpr h, rfl⟩

theorem exists_at_of_mem_preorder {root n : Node} (h : n ∈ root.preorder) :
    ∃ above, root.At n above := by
  rw [← map_fst_visits []] at h
  obtain ⟨⟨_, above⟩, hplace, rfl⟩ := List.mem_map.mp h
  exact ⟨above, mem_visits_iff.mp hplace⟩

end SourceFacts.Node

namespace SourceFacts

/-! ## Small trees -/

/-- The source of a text of plain characters. -/
def plainSource (text : String) : Source :=
  ⟨text.toList.map fun c => c.val.toUInt8⟩

def token (kind : String) (start stop : Nat) : Node :=
  .node { kind, start, stop, isNamed := false } []

end SourceFacts
