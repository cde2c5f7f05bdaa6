import Intake.FilterSet
import Intake.Proofs.Filter.Tree
import Mathlib.Data.List.Forall2

/-!
# Built filters

`Built` says which filter a declaration gives, a rule for each kind.  Building gives this one
(`buildAs_of_built`) and no other (`built_of_buildAs`).  From it follows what holds of every built
filter: it goes by the name it was built under, it is `Distinct`, and there are no defaults below it.
-/

namespace Intake

theorem bind_eq_ok {ε α β : Type} {x : Except ε α} {f : α → Except ε β} {b : β} :
    (x >>= f) = .ok b ↔ ∃ a, x = .ok a ∧ f a = .ok b := by
  cases x with
  | ok a => simp [bind, Except.bind]
  | error e => simp [bind, Except.bind]

theorem map_eq_ok {ε α β : Type} {x : Except ε α} {f : α → β} {b : β} :
    x.map f = .ok b ↔ ∃ a, x = .ok a ∧ f a = b := by
  cases x with
  | ok a => simp [Except.map]
  | error e => simp [Except.map]

theorem map_eq_map {ε α β γ : Type} {x : Except ε α} {y : Except ε β} {f : α → γ} {g : β → γ} :
    x.map f = y.map g ↔ (∃ e, x = .error e ∧ y = .error e) ∨
      ∃ a b, x = .ok a ∧ y = .ok b ∧ f a = g b := by
  cases x with
  | ok a => cases y <;> simp [Except.map]
  | error e => cases y <;> simp [Except.map, eq_comm]

theorem exists_mem_of_forall₂ {α β : Type} {r : α → β → Prop} {as : List α} {bs : List β}
    (h : List.Forall₂ r as bs) {b : β} (hb : b ∈ bs) : ∃ a ∈ as, r a b := by
  induction h with
  | nil => exact absurd hb (by simp)
  | @cons a b' as bs hab _ ih =>
    rcases List.mem_cons.mp hb with rfl | hm
    · exact ⟨a, List.mem_cons_self, hab⟩
    · obtain ⟨a', ha', hr⟩ := ih hm
      exact ⟨a', List.mem_cons_of_mem _ ha', hr⟩

namespace Declaration

/-- The field of a hash filter that a nested declaration gives. -/
structure FieldBuilt (registry : Registry) (nested : Declaration) (field : Filter) : Prop where
  name : nested.name = some field.name
  default : nested.options.default = none
  build : nested.buildAs registry field.name = .ok field

/-- The filter that a declaration gives under a name. -/
inductive Built (registry : Registry) (name : String) : Declaration → Filter → Prop where
  | scalar {slug : String} {own : Option String} {options : Options} {children : List Declaration}
      {make : Definition → Except DefinitionError Scalar} {rule : Scalar}
      (kind : registry.kind slug = .ok (.scalar make))
      (made : make ⟨name, slug, options, children, registry.classes⟩ = .ok rule) :
      Built registry name ⟨slug, own, options, children⟩ (.scalar ⟨name, slug, options⟩ rule)
  | array {slug : String} {own : Option String} {options : Options}
      (kind : registry.kind slug = .ok .array) :
      Built registry name ⟨slug, own, options, []⟩ (.array ⟨name, slug, options⟩)
  | arrayOf {slug : String} {own : Option String} {options : Options} {nested : Declaration}
      {element : Filter} (kind : registry.kind slug = .ok .array) (unnamed : nested.name = none)
      (default : nested.options.default = none)
      (build : nested.buildAs registry name = .ok element) :
      Built registry name ⟨slug, own, options, [nested]⟩ (.arrayOf ⟨name, slug, options⟩ element)
  | hash {slug : String} {own : Option String} {options : Options} {children : List Declaration}
      {fields : List Filter} (kind : registry.kind slug = .ok .hash)
      (build : List.Forall₂ (FieldBuilt registry) children fields)
      (names : (fields.map Filter.name).Nodup) :
      Built registry name ⟨slug, own, options, children⟩ (.hash ⟨name, slug, options⟩ fields)

variable {registry : Registry} {name : String} {declaration : Declaration} {filter : Filter}

theorem refuseDefault_eq_ok {owner : String} {u : Unit}
    (h : declaration.refuseDefault owner = .ok u) : declaration.options.default = none := by
  unfold refuseDefault at h
  split at h
  · assumption
  · exact absurd h (by simp)

theorem head_of_buildArray {head : Head} {children : List Declaration}
    (h : buildArray registry head children = .ok filter) : filter.head = head := by
  match children with
  | [] =>
    rw [buildArray, Except.ok.injEq] at h
    rw [← h, Filter.head]
  | [element] =>
    rw [buildArray] at h
    split at h
    · exact absurd h (by simp)
    · obtain ⟨_, _, h⟩ := bind_eq_ok.mp h
      obtain ⟨built, _, h⟩ := bind_eq_ok.mp h
      rw [← Except.ok.inj h, Filter.head]
  | _ :: _ :: _ => exact absurd h (by simp [buildArray])

/-- A filter has the name it was built under, and the slug and the options of its declaration. -/
theorem head_of_buildAs (h : declaration.buildAs registry name = .ok filter) :
    filter.head = ⟨name, declaration.slug, declaration.options⟩ := by
  obtain ⟨slug, own, options, children⟩ := declaration
  rw [buildAs] at h
  split at h
  · exact absurd h (by simp)
  · exact head_of_buildArray h
  · obtain ⟨fields, _, rfl⟩ := map_eq_ok.mp h
    rfl
  · obtain ⟨rule, _, rfl⟩ := map_eq_ok.mp h
    rfl

theorem name_of_buildAs (h : declaration.buildAs registry name = .ok filter) :
    filter.name = name := by
  rw [Filter.name, head_of_buildAs h]

/-- Fields are built one by one, under their own names, which are different and none of `taken`. -/
theorem fieldBuilt_of_buildFields {owner : String} (nested : List Declaration) :
    ∀ {taken : List String} {fields : List Filter},
      buildFields registry owner taken nested = .ok fields →
        List.Forall₂ (FieldBuilt registry) nested fields ∧ (fields.map Filter.name).Nodup ∧
          ∀ field ∈ fields, field.name ∉ taken := by
  induction nested with
  | nil =>
    intro taken fields h
    rw [buildFields, Except.ok.injEq] at h
    subst h
    exact ⟨.nil, List.nodup_nil, fun field hf => absurd hf (by simp)⟩
  | cons first rest ih =>
    intro taken fields h
    rw [buildFields] at h
    split at h
    · exact absurd h (by simp)
    · next own hown =>
      obtain ⟨_, hdefault, h⟩ := bind_eq_ok.mp h
      by_cases htaken : taken.contains own
      · rw [if_pos htaken] at h
        exact absurd h (by simp [bind, Except.bind, throw, throwThe, MonadExceptOf.throw])
      · rw [if_neg htaken] at h
        obtain ⟨field, hfield, h⟩ := bind_eq_ok.mp h
        obtain ⟨others, hothers, h⟩ := bind_eq_ok.mp h
        rw [← Except.ok.inj h]
        obtain ⟨hbuilt, hnames, hfree⟩ := ih hothers
        have hname : field.name = own := name_of_buildAs hfield
        subst hname
        refine ⟨.cons ⟨hown, refuseDefault_eq_ok hdefault, hfield⟩ hbuilt, ?_, ?_⟩
        · rw [List.map_cons, List.nodup_cons]
          refine ⟨fun hm => ?_, hnames⟩
          obtain ⟨other, ho, he⟩ := List.mem_map.mp hm
          exact hfree other ho (he ▸ List.mem_cons_self)
        · intro other ho
          rcases List.mem_cons.mp ho with rfl | hm
          · simpa using htaken
          · exact fun ht => hfree other hm (List.mem_cons_of_mem _ ht)

theorem built_of_buildAs (h : declaration.buildAs registry name = .ok filter) :
    Built registry name declaration filter := by
  obtain ⟨slug, own, options, children⟩ := declaration
  rw [buildAs] at h
  split at h
  · exact absurd h (by simp)
  · next hkind =>
    match children with
    | [] =>
      rw [buildArray, Except.ok.injEq] at h
      subst h
      exact .array hkind
    | [nested] =>
      rw [buildArray] at h
      split at h
      · exact absurd h (by simp)
      · next hname =>
        obtain ⟨_, hdefault, h⟩ := bind_eq_ok.mp h
        obtain ⟨element, helement, h⟩ := bind_eq_ok.mp h
        rw [← Except.ok.inj h]
        exact .arrayOf hkind hname (refuseDefault_eq_ok hdefault) helement
    | _ :: _ :: _ => exact absurd h (by simp [buildArray])
  · next hkind =>
    obtain ⟨fields, hfields, rfl⟩ := map_eq_ok.mp h
    obtain ⟨hbuilt, hnames, _⟩ := fieldBuilt_of_buildFields children hfields
    exact .hash hkind hbuilt hnames
  · next make hkind =>
    obtain ⟨rule, hrule, rfl⟩ := map_eq_ok.mp h
    exact .scalar hkind hrule

/-! ### Building what may be built -/

theorem refuseDefault_of_eq_none (h : declaration.options.default = none) (owner : String) :
    declaration.refuseDefault owner = .ok () := by
  rw [refuseDefault, h]

/-- Fields that can be built one by one are built together, if their names are different and none of
`taken`. -/
theorem buildFields_of_fieldBuilt {owner : String} {nested : List Declaration}
    {fields : List Filter} (h : List.Forall₂ (FieldBuilt registry) nested fields) :
    ∀ {taken : List String}, (fields.map Filter.name).Nodup → (∀ field ∈ fields, field.name ∉ taken) →
      buildFields registry owner taken nested = .ok fields := by
  induction h with
  | nil => intro taken _ _; rfl
  | @cons first field rest fields hfirst _ ih =>
    intro taken hnames hfree
    rw [List.map_cons, List.nodup_cons] at hnames
    have htaken : ¬ taken.contains field.name = true := by
      rw [List.contains_iff_mem]
      exact hfree field List.mem_cons_self
    have hrest : buildFields registry owner (field.name :: taken) rest = .ok fields := by
      refine ih hnames.2 fun other ho ht => ?_
      rcases List.mem_cons.mp ht with he | hm
      · exact hnames.1 (he ▸ List.mem_map_of_mem ho)
      · exact hfree other (List.mem_cons_of_mem _ ho) hm
    rw [buildFields, hfirst.name]
    dsimp only
    rw [refuseDefault_of_eq_none hfirst.default, if_neg htaken, hfirst.build, hrest]
    rfl

/-- A declaration gives the filter of its rule. -/
theorem buildAs_of_built (h : Built registry name declaration filter) :
    declaration.buildAs registry name = .ok filter := by
  cases h with
  | scalar kind made =>
    rw [buildAs, kind]
    dsimp only
    rw [made]
    rfl
  | array kind =>
    rw [buildAs, kind]
    rfl
  | arrayOf kind unnamed default build =>
    rw [buildAs, kind]
    dsimp only
    rw [buildArray, unnamed]
    dsimp only
    rw [refuseDefault_of_eq_none default, build]
    rfl
  | hash kind build names =>
    rw [buildAs, kind]
    dsimp only
    rw [buildFields_of_fieldBuilt build names fun field _ => List.not_mem_nil]
    rfl

/-- A declaration is built under its own name. -/
theorem build_eq_ok_iff :
    declaration.build registry = .ok filter ↔
      declaration.name = some filter.name ∧ declaration.buildAs registry filter.name = .ok filter := by
  rw [build]
  cases hname : declaration.name with
  | none => simp
  | some own =>
    constructor
    · intro h
      have hfilter : filter.name = own := name_of_buildAs h
      exact ⟨congrArg some hfilter.symm, hfilter ▸ h⟩
    · rintro ⟨hfilter, h⟩
      rw [← Option.some.inj hfilter] at h
      exact h

/-! ### The filters below -/

/-- The nested filters of a built filter are built themselves. -/
theorem Built.children (h : Built registry name declaration filter) :
    (filter.children.map Filter.name).Nodup ∧
      ∀ child ∈ filter.children, ∃ nested ∈ declaration.children,
        nested.buildAs registry child.name = .ok child := by
  cases h with
  | scalar => exact ⟨List.nodup_nil, fun child hc => absurd hc (by simp [Filter.children])⟩
  | array => exact ⟨List.nodup_nil, fun child hc => absurd hc (by simp [Filter.children])⟩
  | arrayOf kind unnamed default build =>
    refine ⟨List.nodup_singleton _, fun child hc => ?_⟩
    rw [List.mem_singleton.mp hc]
    exact ⟨_, List.mem_singleton_self _, name_of_buildAs build ▸ build⟩
  | hash kind build names =>
    refine ⟨names, fun child hc => ?_⟩
    obtain ⟨nested, hn, hbuilt⟩ := exists_mem_of_forall₂ build hc
    exact ⟨nested, hn, hbuilt.build⟩

theorem Built.default_of_child (h : Built registry name declaration filter) {child : Filter}
    (hc : child ∈ filter.children) : child.options.default = none := by
  cases h with
  | scalar => exact absurd hc (by simp [Filter.children])
  | array => exact absurd hc (by simp [Filter.children])
  | arrayOf kind unnamed default build =>
    rw [List.mem_singleton.mp hc, Filter.options, head_of_buildAs build]
    exact default
  | hash kind build names =>
    obtain ⟨nested, _, hbuilt⟩ := exists_mem_of_forall₂ build hc
    rw [Filter.options, head_of_buildAs hbuilt.build]
    exact hbuilt.default

/-- Below a built filter there are no defaults. -/
theorem default_of_nested : ∀ {filter : Filter} {name : String} {declaration : Declaration},
    declaration.buildAs registry name = .ok filter →
      ∀ child ∈ filter.children, ∀ node ∈ child.nodes, node.options.default = none := by
  intro filter
  induction filter using Filter.ind with
  | step filter ih =>
    intro name declaration h child hc node hn
    have hbuilt := built_of_buildAs h
    rcases Filter.mem_nodes.mp hn with rfl | ⟨grandchild, hg, hm⟩
    · exact hbuilt.default_of_child hc
    · obtain ⟨nested, _, hnested⟩ := hbuilt.children.2 child hc
      exact ih child hc hnested grandchild hg node hm

theorem distinct_of_buildAs :
    ∀ {filter : Filter} {name : String} {declaration : Declaration},
      declaration.buildAs registry name = .ok filter → filter.Distinct := by
  intro filter
  induction filter using Filter.ind with
  | step filter ih =>
    intro name declaration h
    obtain ⟨hnames, hchildren⟩ := (built_of_buildAs h).children
    refine Filter.distinct_iff.mpr ⟨hnames, fun child hc => ?_⟩
    obtain ⟨nested, _, hbuilt⟩ := hchildren child hc
    exact ih child hc hbuilt

end Declaration

namespace FilterSet

variable {registry : Registry}

/-- Declarations are built one by one. -/
theorem buildAll_eq_ok_iff {declarations : List Declaration} : ∀ {filters : List Filter},
    buildAll registry declarations = .ok filters ↔
      List.Forall₂ (fun declaration filter => declaration.build registry = .ok filter)
        declarations filters := by
  induction declarations with
  | nil =>
    intro filters
    rw [buildAll, Except.ok.injEq, List.forall₂_nil_left_iff, eq_comm]
  | cons first rest ih =>
    intro filters
    rw [buildAll, bind_eq_ok, List.forall₂_cons_left_iff]
    refine exists_congr fun filter => ?_
    constructor
    · rintro ⟨hfirst, h⟩
      obtain ⟨others, hothers, h⟩ := bind_eq_ok.mp h
      exact ⟨others, hfirst, ih.mp hothers, (Except.ok.inj h).symm⟩
    · rintro ⟨others, hfirst, hothers, rfl⟩
      exact ⟨hfirst, bind_eq_ok.mpr ⟨others, ih.mpr hothers, rfl⟩⟩

/-- The filters of a set are those that its declarations give. -/
theorem build_eq_ok_iff {declarations : List Declaration} {set : FilterSet} :
    build registry declarations = .ok set ↔
      List.Forall₂ (fun declaration filter => declaration.build registry = .ok filter)
        declarations set.filters := by
  rw [build, bind_eq_ok]
  constructor
  · rintro ⟨filters, hfilters, h⟩
    rw [ofList] at h
    split at h
    · rw [← Except.ok.inj h]
      exact buildAll_eq_ok_iff.mp hfilters
    · exact absurd h (by simp)
  · intro h
    refine ⟨set.filters, buildAll_eq_ok_iff.mpr h, ?_⟩
    rw [ofList, dif_pos set.nodup]

theorem distinct_of_build {declarations : List Declaration} {set : FilterSet}
    (h : build registry declarations = .ok set) : ∀ filter ∈ set.filters, filter.Distinct := by
  intro filter hf
  obtain ⟨declaration, _, hbuilt⟩ := exists_mem_of_forall₂ (build_eq_ok_iff.mp h) hf
  exact Declaration.distinct_of_buildAs (Declaration.build_eq_ok_iff.mp hbuilt).2

end FilterSet

end Intake
