import Intake.Proofs.Filter.Parts

/-!
# Fixed defaults

Where no default of a tree is lazy, it makes no difference how many times the defaults were resolved
before: not to a verdict, not to a default, not to the cleaning of a value.
-/

namespace Intake

/-- Whether a default may give another value each time. -/
def Default.isLazy : Default → Bool
  | fixed _ => false
  | lazy _ => true

theorem Default.resolve_of_fixed {default : Default} (h : default.isLazy = false) (n m : Nat) :
    default.resolve n = default.resolve m := by
  cases default with
  | fixed value => rfl
  | lazy supply => exact absurd h (by simp [isLazy])

namespace Filter

def FixedDefaults (filter : Filter) : Prop :=
  ∀ node ∈ filter.nodes, ∀ default ∈ node.options.default, default.isLazy = false

variable {ctx : Context} {filter : Filter}

theorem FixedDefaults.own (h : filter.FixedDefaults) {default : Default}
    (hd : filter.options.default = some default) : default.isLazy = false :=
  h filter filter.mem_nodes_self default hd

theorem FixedDefaults.child (h : filter.FixedDefaults) {child : Filter}
    (hc : child ∈ filter.children) : child.FixedDefaults :=
  fun node hn => h node (mem_nodes_of_child hc hn)

theorem FixedDefaults.node (h : filter.FixedDefaults) {node : Filter} (hn : node ∈ filter.nodes) :
    node.FixedDefaults :=
  fun below hb => h below (mem_nodes_trans hb hn)

theorem FixedDefaults.merged {head : Head} {fields : List Filter}
    (h : (hash head fields).FixedDefaults) (n m : Nat) (entries : Entries Value) :
    head.merged n entries = head.merged m entries := by
  unfold Head.merged
  cases hd : head.options.default with
  | none => rfl
  | some default =>
    have hfixed : default.isLazy = false := h.own hd
    simp only [Default.resolve_of_fixed hfixed n m]

/-- The verdict of a filter with fixed defaults does not depend on what was resolved before. -/
theorem judge_of_fixed (filter : Filter) : filter.FixedDefaults → ∀ (n m : Nat) (value : Value),
    filter.judge ctx n value = filter.judge ctx m value := by
  induction filter using Filter.ind with
  | step filter ih =>
    intro h n m value
    cases filter with
    | scalar head rule => rfl
    | array head => rfl
    | arrayOf head element =>
      cases value with
      | array items =>
        have he : element ∈ (arrayOf head element).children := List.mem_singleton_self element
        rw [judge, judge]
        congr 1
        exact List.map_congr_left fun item _ => ih element he (h.child he) n m item
      | _ => rfl
    | hash head fields =>
      cases value with
      | hash entries =>
        cases fields with
        | nil => rfl
        | cons field rest =>
          have hfields : judgeFields ctx n (head.merged m entries) (field :: rest) =
              judgeFields ctx m (head.merged m entries) (field :: rest) := by
            rw [judgeFields_eq_map, judgeFields_eq_map]
            refine List.map_congr_left fun f hf => ?_
            rw [ih f hf (h.child hf) n m]
          rw [judge, judge, h.merged n m, hfields]
      | _ => rfl

theorem cast_of_fixed (h : filter.FixedDefaults) (n m : Nat) (value : Value) :
    filter.cast ctx n value = filter.cast ctx m value := by
  rw [cast, cast, judge_of_fixed filter h n m]

theorem default_of_fixed (h : filter.FixedDefaults) (n m : Nat) :
    filter.default ctx n = filter.default ctx m := by
  unfold Filter.default
  cases hd : filter.options.default with
  | none => rfl
  | some default =>
    simp only [cast, Default.resolve_of_fixed (h.own hd) n m,
      judge_of_fixed filter h (n + 1) (m + 1)]

theorem clean_of_fixed (h : filter.FixedDefaults) (n m : Nat) (value : Value) :
    filter.clean ctx n value = filter.clean ctx m value := by
  unfold clean cast
  rw [judge_of_fixed filter h n m,
    default_of_fixed h (n + filter.castDraws value) (m + filter.castDraws value)]

end Filter

end Intake
