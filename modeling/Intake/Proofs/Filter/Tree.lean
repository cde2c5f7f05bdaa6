import Intake.Filter
import Mathlib.Data.List.Nodup

/-!
# Filter trees

Induction over a filter and its nested filters, and the list of all filters of a tree.  A tree is
`Distinct` if no two filters that are nested in the same one have the same name.
-/

namespace Intake.Filter

/-- A property holds of every filter once it is inherited from the nested filters. -/
@[elab_as_elim]
theorem ind {motive : Filter → Prop}
    (step : ∀ filter : Filter, (∀ child ∈ filter.children, motive child) → motive filter)
    (filter : Filter) : motive filter := by
  refine Filter.rec (motive_1 := motive) (motive_2 := fun fields => ∀ field ∈ fields, motive field)
    ?_ ?_ ?_ ?_ ?_ ?_ filter
  · intro head rule
    exact step _ fun child hc => absurd hc (by simp [children])
  · intro head
    exact step _ fun child hc => absurd hc (by simp [children])
  · intro head element he
    refine step _ fun child hc => ?_
    rw [List.mem_singleton.mp hc]
    exact he
  · intro head fields hfields
    exact step _ hfields
  · intro field hf
    exact absurd hf (by simp)
  · intro field rest hfield hrest other ho
    rcases List.mem_cons.mp ho with he | hm
    · exact he ▸ hfield
    · exact hrest other hm

/-! ### The filters of a tree -/

mutual

/-- The filters of a tree: the filter itself, then those below it. -/
def nodes : Filter → List Filter
  | scalar head rule => [scalar head rule]
  | array head => [array head]
  | arrayOf head element => arrayOf head element :: element.nodes
  | hash head fields => hash head fields :: nodesOf fields

def nodesOf : List Filter → List Filter
  | [] => []
  | filter :: rest => filter.nodes ++ nodesOf rest

end

theorem mem_nodesOf {node : Filter} (filters : List Filter) :
    node ∈ nodesOf filters ↔ ∃ filter ∈ filters, node ∈ filter.nodes := by
  induction filters with
  | nil => simp [nodesOf]
  | cons filter rest ih => simp [nodesOf, ih]

theorem mem_nodes {node filter : Filter} :
    node ∈ filter.nodes ↔ node = filter ∨ ∃ child ∈ filter.children, node ∈ child.nodes := by
  cases filter with
  | scalar head rule => simp [nodes, children]
  | array head => simp [nodes, children]
  | arrayOf head element => simp [nodes, children]
  | hash head fields => rw [nodes, List.mem_cons, mem_nodesOf, children]

theorem mem_nodes_self (filter : Filter) : filter ∈ filter.nodes :=
  mem_nodes.mpr (Or.inl rfl)

theorem mem_nodes_of_child {node child filter : Filter} (hc : child ∈ filter.children)
    (hn : node ∈ child.nodes) : node ∈ filter.nodes :=
  mem_nodes.mpr (Or.inr ⟨child, hc, hn⟩)

theorem mem_nodes_trans {a b c : Filter} (ha : a ∈ b.nodes) : b ∈ c.nodes → a ∈ c.nodes := by
  induction c using ind with
  | step c ih =>
    intro hb
    rcases mem_nodes.mp hb with rfl | ⟨child, hc, hm⟩
    · exact ha
    · exact mem_nodes_of_child hc (ih child hc hm)

def isHost : Filter → Bool
  | scalar _ (.host _) => true
  | _ => false

/-! ### Different names -/

/-- Nowhere in a tree two filters that are nested in the same one have the same name. -/
def Distinct (filter : Filter) : Prop :=
  ∀ node ∈ filter.nodes, (node.children.map Filter.name).Nodup

theorem Distinct.names {filter : Filter} (h : filter.Distinct) :
    (filter.children.map Filter.name).Nodup :=
  h filter filter.mem_nodes_self

theorem Distinct.child {filter child : Filter} (h : filter.Distinct)
    (hc : child ∈ filter.children) : child.Distinct :=
  fun node hn => h node (mem_nodes_of_child hc hn)

theorem distinct_iff {filter : Filter} :
    filter.Distinct ↔
      (filter.children.map Filter.name).Nodup ∧ ∀ child ∈ filter.children, child.Distinct := by
  constructor
  · intro h
    exact ⟨h.names, fun child hc => h.child hc⟩
  · rintro ⟨hnames, hchildren⟩ node hn
    rcases mem_nodes.mp hn with he | ⟨child, hc, hm⟩
    · exact he ▸ hnames
    · exact hchildren child hc node hm

/-- Nested filters with the same name are the same. -/
theorem Distinct.eq_of_name_eq {filter a b : Filter} (h : filter.Distinct)
    (ha : a ∈ filter.children) (hb : b ∈ filter.children) (hab : a.name = b.name) : a = b :=
  List.inj_on_of_nodup_map h.names ha hb hab

end Intake.Filter
