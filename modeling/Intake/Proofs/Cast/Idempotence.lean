import Intake.Proofs.Cast.Success
import Intake.Proofs.Filter.Fixed
import Intake.Proofs.Filter.Kind
import Intake.Registry.Builtin

/-!
# Casting again

What a filter has cast it casts to the same value: `cast_idempotent`.  Scalar kinds read their own
values as they are.  A hash that was cast has an entry for every field, so that the default under it
is not seen again; where other entries are kept, those of the default are among them already.
-/

namespace Intake

namespace Head

variable {head : Head} {fields : List Filter} {give : Filter → Value}
  (hfixed : ∀ default ∈ head.options.default, default.isLazy = false)
  (hascending : ∀ defaults, head.options.default = some (.fixed (.hash defaults)) →
    Entries.Ascending defaults)

include hfixed hascending

/-- Where other entries are kept, those of the default are there after a cast. -/
theorem merged_assemble (hstrip : head.options.strip = false) (n m : Nat)
    (entries : Entries Value) :
    head.merged m (head.assemble (head.merged n entries) fields give) =
      head.assemble (head.merged n entries) fields give := by
  rw [assemble, hstrip, if_neg Bool.false_ne_true]
  unfold merged
  cases hd : head.options.default with
  | none => rfl
  | some default =>
    cases default with
    | lazy supply => exact absurd (hfixed _ hd) (by simp [Default.isLazy])
    | fixed value =>
      cases value with
      | hash defaults =>
        have hdefaults := hascending defaults hd
        have hout := Entries.ascending_insertAll (fields.map fun field => (field.name, give field))
          (Entries.ascending_insertAll entries hdefaults)
        refine hdefaults.insertAll_eq hout fun key hk => ?_
        have hmerged := (Entries.mem_keys_insertAll entries).mpr (Or.inl hk)
        exact (Entries.mem_keys_insertAll _).mpr (Or.inl hmerged)
      | _ => rfl

/-- After a cast every field finds what it gave. -/
theorem get?_merged_assemble (hnodup : (fields.map Filter.name).Nodup) (n m : Nat)
    (entries : Entries Value) {field : Filter} (hf : field ∈ fields) :
    (head.merged m (head.assemble (head.merged n entries) fields give)).get? field.name =
      some (give field) := by
  cases hstrip : head.options.strip with
  | true =>
    have hout : (head.assemble (head.merged n entries) fields give).Ascending := by
      rw [assemble, hstrip, if_pos rfl]
      exact Entries.ascending_insertAll _ List.Pairwise.nil
    rw [get?_merged head m hout, get?_assemble hnodup _ hf, Option.some_or]
  | false =>
    rw [merged_assemble hfixed hascending hstrip, get?_assemble hnodup _ hf]

/-- The same values give the same entries again. -/
theorem assemble_merged_assemble (hnodup : (fields.map Filter.name).Nodup) (n m : Nat)
    (entries : Entries Value) :
    head.assemble (head.merged m (head.assemble (head.merged n entries) fields give)) fields give =
      head.assemble (head.merged n entries) fields give := by
  cases hstrip : head.options.strip with
  | true => simp only [assemble, hstrip, if_true]
  | false =>
    rw [merged_assemble hfixed hascending hstrip]
    simp only [assemble, hstrip, Bool.false_eq_true, if_false]
    exact Entries.insertAll_insertAll_self _ _ (nodup_pairs hnodup give)

end Head

namespace Filter

/-- Whether a filter looks values up. -/
def isRecord : Filter → Bool
  | scalar _ rule => rule.isRecord
  | _ => false

/-- Every default of a tree that is a hash has its keys in ascending order. -/
def AscendingDefaults (filter : Filter) : Prop :=
  ∀ node ∈ filter.nodes, ∀ defaults, node.options.default = some (.fixed (.hash defaults)) →
    Entries.Ascending defaults

variable {ctx : Context} {filter : Filter}

theorem AscendingDefaults.child (h : filter.AscendingDefaults) {child : Filter}
    (hc : child ∈ filter.children) : child.AscendingDefaults :=
  fun node hn => h node (mem_nodes_of_child hc hn)

theorem cast_of_cast (filter : Filter) : filter.Distinct → filter.FixedDefaults →
    filter.AscendingDefaults →
    (∀ node ∈ filter.nodes, node.isHost = false ∧ node.isRecord = false) →
      ∀ {n : Nat} (m : Nat) {value result : Value}, filter.cast ctx n value = .ok result →
        filter.cast ctx m result = .ok result := by
  induction filter using Filter.ind with
  | step filter ih =>
    intro hd hfixed hascending hkinds n m value result h
    have hchild : ∀ child ∈ filter.children, ∀ {value result : Value},
        child.cast ctx n value = .ok result → child.cast ctx m result = .ok result :=
      fun child hc => ih child hc (hd.child hc) (hfixed.child hc) (hascending.child hc)
        (fun node hn => hkinds node (mem_nodes_of_child hc hn)) m
    rw [cast_eq_ok_iff_castsTo] at h ⊢
    cases h with
    | nil accepts unread => exact .nil accepts unread
    | @scalar head rule _ _ hread =>
      obtain ⟨hhost, hrecord⟩ := hkinds _ (mem_nodes_self _)
      have hgives : rule.Gives ctx result := by
        refine Scalar.gives_of_read ?_ hread
        rintro read rfl
        exact absurd hhost (by simp [isHost])
      exact .scalar (Scalar.read_of_gives hrecord hgives)
    | array items => exact .array items
    | @items head element items results casts =>
      refine .items (List.forall₂_same.mpr fun result hr => ?_)
      obtain ⟨item, _, hitem⟩ := exists_mem_of_forall₂ casts hr
      exact hchild element (List.mem_singleton_self element) hitem
    | hash entries => exact .hash entries
    | @fields head fields entries give nonempty casts =>
      have hnames : (fields.map Filter.name).Nodup := hd.names
      have hown : ∀ default ∈ head.options.default, default.isLazy = false :=
        hfixed _ (mem_nodes_self _)
      have hdefaults := hascending _ (mem_nodes_self _)
      have hagain : CastsTo ctx m (Filter.hash head fields)
          (.hash (head.assemble (head.merged n entries) fields give)) _ :=
        .fields give nonempty fun field hf => by
          rw [Entries.value_of_get?
            (Head.get?_merged_assemble hown hdefaults hnames n m entries hf)]
          exact hchild field hf (casts field hf)
      rw [Head.assemble_merged_assemble hown hdefaults hnames] at hagain
      exact hagain

/-- **Casting what was cast gives the same value.** -/
theorem cast_idempotent {registry : Registry} {declaration : Declaration} {name : String}
    (built : declaration.buildAs registry name = .ok filter)
    (kinds : ∀ node ∈ filter.nodes, node.isHost = false ∧ node.isRecord = false)
    (fixed : filter.FixedDefaults) (ascending : filter.AscendingDefaults) {n : Nat}
    {value result : Value} (cast : filter.cast ctx n value = .ok result) (m : Nat) :
    filter.cast ctx m result = .ok result :=
  cast_of_cast filter (Declaration.distinct_of_buildAs built) fixed ascending kinds m cast

/-- The settings of a reader, who may have others than these. -/
def readerDeclaration : Declaration :=
  ⟨"hash", some "reader",
    { default := some (.fixed (.hash [("pages", .integer 20), ("theme", .string "dark")]))
      strip := false },
    [⟨"string", some "theme", {}, []⟩, ⟨"array", some "marks", {}, [⟨"integer", none, {}, []⟩]⟩]⟩

def readerHead : Head :=
  ⟨"reader", "hash",
    { default := some (.fixed (.hash [("pages", .integer 20), ("theme", .string "dark")]))
      strip := false }⟩

def readerFilter : Filter :=
  .hash readerHead
    [.scalar ⟨"theme", "string", {}⟩ (.string true),
      .arrayOf ⟨"marks", "array", {}⟩ (.scalar ⟨"marks", "integer", {}⟩ .integer)]

/-- What a reader is cast to who has marks, and a font besides. -/
def reader : Value :=
  .hash [("font", .string " serif "), ("marks", .array [.integer 7, .integer 12]),
    ("pages", .integer 20), ("theme", .string "dark")]

theorem cast_idempotent_reader :
    readerDeclaration.buildAs Registry.builtin "reader" = .ok readerFilter ∧
    (∀ node ∈ readerFilter.nodes, node.isHost = false ∧ node.isRecord = false) ∧
    readerFilter.FixedDefaults ∧ readerFilter.AscendingDefaults ∧
    readerFilter.cast {} 0
      (.hash [("font", .string " serif "), ("marks", .array [.string "7", .string " 1_2"])]) =
        .ok reader ∧
    readerFilter.cast {} 1 reader = .ok reader := by
  have built : readerDeclaration.buildAs Registry.builtin "reader" = .ok readerFilter := by rfl
  have kinds : ∀ node ∈ readerFilter.nodes, node.isHost = false ∧ node.isRecord = false := by decide
  have fixed : readerFilter.FixedDefaults := by
    unfold FixedDefaults
    decide
  have ascending : readerFilter.AscendingDefaults := by
    intro node hn defaults hd
    have hnone : ∀ child ∈ readerFilter.nodes.tail, child.options.default.isNone := by decide
    rcases List.mem_cons.mp hn with rfl | hchild
    · obtain rfl : [("pages", .integer 20), ("theme", .string "dark")] = defaults :=
        Value.hash.inj (Default.fixed.inj (Option.some.inj hd))
      unfold Entries.Ascending
      decide
    · have hchild' := hnone node hchild
      rw [hd] at hchild'
      exact absurd hchild' (by simp)
  have cast : readerFilter.cast {} 0
      (.hash [("font", .string " serif "), ("marks", .array [.string "7", .string " 1_2"])]) =
        .ok reader := by rfl
  exact ⟨built, kinds, fixed, ascending, cast,
    cast_idempotent built kinds fixed ascending cast 1⟩

end Filter

end Intake
