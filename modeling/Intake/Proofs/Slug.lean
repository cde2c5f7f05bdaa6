import Intake.Proofs.Text.Letter
import Intake.Proofs.Text.Scope
import Intake.Slug
import Mathlib.Data.List.Chain
import Mathlib.Data.List.TakeWhile

/-!
# The words of slugs

`Spells` is the grammar of type names, and `startsWord` tells at which positions of a base a word
starts.  A slug is made in two passes over the base, each of which skips what it has matched.  Both
passes together put an underscore just before the positions where a word starts (`underscored_eq`),
so that a type name has a slug if and only if it is spelled like one, and then the slug is known
position by position: `ofTypeName_exact`.

A pass is compared with `mark`, which looks at every character once, between the one before it and
what comes after it: `spaceFrom_acronym?`, `spaceFrom_wordEnd?`.
-/

namespace Intake.Slug

/-- A capital letter, and then letters and digits. -/
def TypeWord (part : List Char) : Prop :=
  ∃ c rest, part = c :: rest ∧ c.isUpper = true ∧ ∀ d ∈ rest, d.isAlphanum = true

/-- A type name is any number of scopes, each with two colons after it, and a base with the
suffix. -/
def Spells (typeName : String) (base : List Char) : Prop :=
  TypeWord base ∧ ∃ scopes : List (List Char), (∀ scope ∈ scopes, TypeWord scope) ∧
    typeName.toList = (scopes.flatMap fun scope => scope ++ [':', ':']) ++ base ++ "Filter".toList

/-- Whether a word starts at a position of a base, other than the first: at a capital letter after a
small letter or a digit, or after a capital letter and before a small one. -/
def startsWord (base : List Char) (i : Nat) : Bool :=
  0 < i && base[i]?.any Char.isUpper &&
    (base[i - 1]?.any Char.isLower || base[i - 1]?.any Char.isDigit ||
      base[i - 1]?.any Char.isUpper && base[i + 1]?.any Char.isLower)

/-- The base in lower case, with an underscore before every position where a word starts. -/
def spelled (base : List Char) : List Char :=
  (base.mapIdx fun i c => if startsWord base i then ['_', c.toLower] else [c.toLower]).flatten

/-- Words apart by single underscores, and none at the ends. -/
structure Tidy (slug : List Char) : Prop where
  head : slug.head? ≠ some '_'
  last : slug.getLast? ≠ some '_'
  single : ¬['_', '_'] <:+: slug

/-! ### Marks -/

/-- Underscores before the characters at which `starts` tells that a word starts; it looks at the
character before, at the character, and at what comes after. -/
def markAfter (starts : Char → Char → List Char → Bool) (before : Char) : List Char → List Char
  | [] => []
  | c :: rest => (if starts before c rest then ['_', c] else [c]) ++ markAfter starts c rest

def mark (starts : Char → Char → List Char → Bool) : List Char → List Char
  | [] => []
  | c :: rest => c :: markAfter starts c rest

/-- A capital letter between a capital and a small one. -/
def atAcronym (before c : Char) (rest : List Char) : Bool :=
  before.isUpper && c.isUpper && rest.head?.any Char.isLower

/-- A capital letter after a small letter or a digit. -/
def atWordEnd (before c : Char) (_ : List Char) : Bool :=
  (before.isLower || before.isDigit) && c.isUpper

def atWord (before c : Char) (rest : List Char) : Bool :=
  c.isUpper && (before.isLower || before.isDigit || before.isUpper && rest.head?.any Char.isLower)

variable {starts : Char → Char → List Char → Bool} {before c : Char} {rest : List Char}

theorem markAfter_of_starts (h : starts before c rest = true) :
    markAfter starts before (c :: rest) = '_' :: c :: markAfter starts c rest := by
  rw [markAfter, if_pos h]
  rfl

theorem markAfter_of_not_starts (h : starts before c rest = false) :
    markAfter starts before (c :: rest) = c :: markAfter starts c rest := by
  rw [markAfter, h, if_neg Bool.false_ne_true]
  rfl

/-- Where no word starts at the first character, it does not matter that it comes after another. -/
theorem markAfter_eq_mark {cs : List Char}
    (h : ∀ c rest, cs = c :: rest → starts before c rest = false) :
    markAfter starts before cs = mark starts cs := by
  cases cs with
  | nil => rfl
  | cons c rest => exact markAfter_of_not_starts (h c rest rfl)

/-! ### One pass -/

/-- What is taken up by a match is skipped. -/
theorem spaceFrom_eq_drop (match? : List Char → Option (List Char × List Char)) (cs : List Char) :
    ∀ n, spaceFrom match? n cs = spaceFrom match? 0 (cs.drop n) := by
  induction cs with
  | nil => intro n; rw [List.drop_nil, spaceFrom, spaceFrom]
  | cons c rest ih =>
    intro n
    cases n with
    | zero => rfl
    | succ n => rw [spaceFrom, ih, List.drop_succ_cons]

theorem spaceFrom_of_some {match? : List Char → Option (List Char × List Char)}
    {before after rest : List Char} (hne : before ≠ [])
    (h : match? (before ++ (after ++ rest)) = some (before, after)) :
    spaceFrom match? 0 (before ++ (after ++ rest)) =
      before ++ '_' :: after ++ spaceFrom match? 0 rest := by
  obtain ⟨c, more, rfl⟩ := List.exists_cons_of_ne_nil hne
  have hdrop : (more ++ (after ++ rest)).drop ((c :: more).length + after.length - 1) = rest := by
    rw [List.length_cons, Nat.add_right_comm, Nat.add_sub_cancel, ← List.append_assoc,
      ← List.length_append, List.drop_left]
  rw [List.cons_append] at h ⊢
  rw [spaceFrom, h]
  dsimp only
  rw [spaceFrom_eq_drop, hdrop]

theorem spaceFrom_of_none {match? : List Char → Option (List Char × List Char)} {c : Char}
    {rest : List Char} (h : match? (c :: rest) = none) :
    spaceFrom match? 0 (c :: rest) = c :: spaceFrom match? 0 rest := by
  rw [spaceFrom, h]

/-- A pass marks where words start, if a match leaves the marks that it takes up, and what does not
match starts without one. -/
theorem spaceFrom_eq_mark {match? : List Char → Option (List Char × List Char)}
    (hsome : ∀ cs before after, match? cs = some (before, after) →
      ∃ rest, cs = before ++ (after ++ rest) ∧ before ≠ [] ∧
        mark starts cs = before ++ '_' :: after ++ mark starts rest)
    (hnone : ∀ c d rest, match? (c :: d :: rest) = none → starts c d rest = false)
    (cs : List Char) : spaceFrom match? 0 cs = mark starts cs := by
  -- a match takes up several characters, so the induction is on the length
  induction hn : cs.length using Nat.strong_induction_on generalizing cs with
  | h n ih =>
    subst hn
    cases hmatch : match? cs with
    | some parts =>
      obtain ⟨before, after⟩ := parts
      obtain ⟨rest, rfl, hne, hmark⟩ := hsome cs before after hmatch
      have hpos : 0 < before.length := List.length_pos_iff.mpr hne
      have hlt : rest.length < (before ++ (after ++ rest)).length := by
        rw [List.length_append, List.length_append]
        omega
      rw [spaceFrom_of_some hne hmatch, hmark, ih rest.length hlt rest rfl]
    | none =>
      cases cs with
      | nil => rfl
      | cons c rest =>
        rw [spaceFrom_of_none hmatch, ih rest.length (Nat.lt_succ_self _) rest rfl, mark]
        refine congrArg (c :: ·) (markAfter_eq_mark fun d more hrest => ?_).symm
        subst hrest
        exact hnone c d more hmatch

/-- What an acronym is, in a text that starts with one. -/
theorem exists_of_acronym?_eq_some {cs before after : List Char}
    (h : acronym? cs = some (before, after)) :
    ∃ last next rest, cs = before ++ (after ++ rest) ∧ before ≠ [] ∧ after = [last, next] ∧
      (∀ c ∈ before, c.isUpper = true) ∧ last.isUpper = true ∧ next.isLower = true := by
  unfold acronym? at h
  split at h
  · next last first row next rest hrow hrest =>
    split at h
    · next hnext =>
      rw [Option.some.injEq, Prod.mk.injEq] at h
      obtain ⟨rfl, rfl⟩ := h
      have htake : cs.takeWhile Char.isUpper = (first :: row).reverse ++ [last] := by
        rw [← List.reverse_inj, hrow, List.reverse_append, List.reverse_reverse]
        rfl
      have hcs : cs = (first :: row).reverse ++ ([last, next] ++ rest) := by
        rw [← List.takeWhile_append_dropWhile (p := Char.isUpper) (l := cs), htake, hrest,
          List.append_assoc]
        rfl
      have hupper : ∀ c ∈ (first :: row).reverse ++ [last], c.isUpper = true := by
        intro c hc
        rw [← htake] at hc
        exact List.mem_takeWhile_imp hc
      refine ⟨last, next, rest, hcs, by simp, rfl, fun c hc => ?_, ?_, hnext⟩
      · exact hupper c (List.mem_append_left _ hc)
      · exact hupper last (List.mem_append_right _ (List.mem_singleton_self _))
    · exact absurd h (by simp)
  · exact absurd h (by simp)

/-- Where no acronym is matched, no word starts at the second character. -/
theorem atAcronym_of_acronym?_eq_none {c d : Char} {rest : List Char}
    (h : acronym? (c :: d :: rest) = none) : atAcronym c d rest = false := by
  by_contra hstarts
  rw [Bool.not_eq_false, atAcronym, Bool.and_eq_true, Bool.and_eq_true] at hstarts
  obtain ⟨⟨hc, hd⟩, hnext⟩ := hstarts
  cases rest with
  | nil => exact absurd hnext (by simp)
  | cons next rest =>
    have hlower : next.isLower = true := hnext
    have hupper := Text.not_isUpper_of_isLower hlower
    simp [acronym?, hc, hd, hupper, hlower] at h

/-- In a row of capital letters a word starts at the last of them. -/
theorem markAfter_row {row : List Char} {last next : Char} {rest : List Char}
    (hrow : ∀ c ∈ row, c.isUpper = true) (hlast : last.isUpper = true)
    (hnext : next.isLower = true) : ∀ {before : Char}, before.isUpper = true →
      markAfter atAcronym before (row ++ last :: next :: rest) =
        row ++ '_' :: last :: next :: mark atAcronym rest := by
  have hupper := Text.not_isUpper_of_isLower hnext
  induction row with
  | nil =>
    intro before hbefore
    have hstarts : atAcronym before last (next :: rest) = true := by
      simp [atAcronym, hbefore, hlast, hnext]
    have hsmall : atAcronym last next rest = false := by simp [atAcronym, hupper]
    rw [List.nil_append, markAfter_of_starts hstarts, markAfter_of_not_starts hsmall,
      markAfter_eq_mark fun c rest _ => by simp [atAcronym, hupper]]
    rfl
  | cons c row ih =>
    intro before hbefore
    have hc : c.isUpper = true := hrow c List.mem_cons_self
    have htail : ∀ c ∈ row, c.isUpper = true := fun c hm => hrow c (List.mem_cons_of_mem _ hm)
    -- what comes after `c` is a capital letter still
    have hcapital : atAcronym before c (row ++ last :: next :: rest) = false := by
      have hhead : ∀ d ∈ (row ++ last :: next :: rest).head?, d.isUpper = true := by
        intro d hd
        cases row with
        | nil => exact Option.some.inj hd ▸ hlast
        | cons e row => exact Option.some.inj hd ▸ htail e List.mem_cons_self
      rw [atAcronym, Bool.and_eq_false_iff]
      right
      rw [Option.any_eq_false]
      intro d hd
      by_contra hlower
      rw [Bool.not_eq_false] at hlower
      exact absurd (Text.not_isUpper_of_isLower hlower) (by rw [hhead d hd]; decide)
    rw [List.cons_append, markAfter_of_not_starts hcapital, ih htail hc]
    rfl

/-- **The first pass** marks the last capital letter of a row before a small letter. -/
theorem spaceFrom_acronym? (cs : List Char) : spaceFrom acronym? 0 cs = mark atAcronym cs := by
  refine spaceFrom_eq_mark (fun cs before after h => ?_)
    (fun c d rest h => atAcronym_of_acronym?_eq_none h) cs
  obtain ⟨last, next, rest, rfl, hne, rfl, hupper, hlast, hnext⟩ := exists_of_acronym?_eq_some h
  obtain ⟨c, row, rfl⟩ := List.exists_cons_of_ne_nil hne
  have hrow : ∀ d ∈ row, d.isUpper = true := fun d hd => hupper d (List.mem_cons_of_mem _ hd)
  have hmark : markAfter atAcronym c (row ++ last :: next :: rest) =
      row ++ '_' :: last :: next :: mark atAcronym rest :=
    markAfter_row hrow hlast hnext (hupper c List.mem_cons_self)
  refine ⟨rest, rfl, hne, ?_⟩
  rw [List.cons_append, mark, List.cons_append, List.cons_append, List.nil_append, hmark]
  simp

/-- **The second pass** marks the capital letters after small letters and digits. -/
theorem spaceFrom_wordEnd? (cs : List Char) : spaceFrom wordEnd? 0 cs = mark atWordEnd cs := by
  refine spaceFrom_eq_mark (fun cs before after h => ?_) (fun c d rest h => ?_) cs
  · unfold wordEnd? at h
    split at h
    · next c next rest =>
      split at h
      · next hstarts =>
        rw [Option.some.injEq, Prod.mk.injEq] at h
        obtain ⟨rfl, rfl⟩ := h
        have hupper : next.isUpper = true := (Bool.and_eq_true_iff.mp hstarts).2
        refine ⟨rest, rfl, List.cons_ne_nil _ _, ?_⟩
        rw [mark, markAfter_of_starts hstarts, markAfter_eq_mark fun d more _ => ?_]
        · rfl
        · rw [atWordEnd, Text.not_isLower_of_isUpper hupper,
            Text.not_isDigit_of_isUpper hupper]
          rfl
      · exact absurd h (by simp)
    · exact absurd h (by simp)
  · by_contra hstarts
    rw [Bool.not_eq_false, atWordEnd] at hstarts
    rw [wordEnd?, if_pos hstarts] at h
    exact absurd h (by simp)

/-! ### Both passes -/

theorem atWord_eq (before c : Char) (rest : List Char) :
    atWord before c rest = (atAcronym before c rest || atWordEnd before c rest) := by
  rw [atWord, atAcronym, atWordEnd]
  cases c.isUpper <;> cases before.isUpper <;> simp [Bool.or_comm]

/-- An underscore that is there already neither gets a mark nor gives one to the next character. -/
theorem markAfter_markAfter (cs : List Char) : ∀ before,
    markAfter atWordEnd before (markAfter atAcronym before cs) = markAfter atWord before cs := by
  induction cs with
  | nil => intro before; rfl
  | cons c rest ih =>
    intro before
    cases hacronym : atAcronym before c rest with
    | true =>
      have hword : atWord before c rest = true := by rw [atWord_eq, hacronym, Bool.true_or]
      have hunderscore : ∀ more, atWordEnd before '_' more = false := by
        intro more
        rw [atWordEnd, Bool.and_eq_false_iff]
        exact Or.inr (by decide)
      rw [markAfter_of_starts hacronym, markAfter_of_starts hword,
        markAfter_of_not_starts (hunderscore _), markAfter_of_not_starts (by rfl), ih]
    | false =>
      have hword : atWord before c rest = atWordEnd before c rest := by
        rw [atWord_eq, hacronym, Bool.false_or]
      rw [markAfter_of_not_starts hacronym, markAfter, markAfter, ih, hword]
      rfl

theorem mark_mark (cs : List Char) : mark atWordEnd (mark atAcronym cs) = mark atWord cs := by
  cases cs with
  | nil => rfl
  | cons c rest => rw [mark, mark, mark, markAfter_markAfter]

/-! ### Positions -/

theorem startsWord_zero (base : List Char) : startsWord base 0 = false := by
  rfl

/-- Where a word starts is seen from the characters around. -/
theorem startsWord_append (base : List Char) (before c : Char) (rest : List Char) :
    startsWord (base ++ before :: c :: rest) (base.length + 1) = atWord before c rest := by
  have hbefore : (base ++ before :: c :: rest)[base.length]? = some before := by simp
  have hc : (base ++ before :: c :: rest)[base.length + 1]? = some c := by
    rw [List.getElem?_append_right (by omega)]
    simp
  have hnext : (base ++ before :: c :: rest)[base.length + 1 + 1]? = rest.head? := by
    rw [List.getElem?_append_right (by omega), Nat.add_assoc, Nat.add_sub_cancel_left]
    simp [List.head?_eq_getElem?]
  rw [startsWord, Nat.add_sub_cancel, hbefore, hc, hnext, atWord]
  simp

theorem map_toLower_markAfter (cs : List Char) : ∀ (base : List Char) (before : Char),
    (markAfter atWord before cs).map Char.toLower =
      (cs.mapIdx fun i c => if startsWord (base ++ before :: cs) (base.length + 1 + i) then
        ['_', c.toLower] else [c.toLower]).flatten := by
  induction cs with
  | nil => intro base before; rfl
  | cons c rest ih =>
    intro base before
    have hrest := ih (base ++ [before]) c
    have hshift : ∀ i, (base ++ [before]).length + 1 + i = base.length + 1 + (i + 1) := by
      intro i
      rw [List.length_append, List.length_singleton]
      omega
    simp only [List.append_assoc, List.singleton_append, hshift] at hrest
    rw [markAfter, List.map_append, hrest, List.mapIdx_cons, List.flatten_cons, Nat.add_zero,
      startsWord_append]
    cases atWord before c rest with
    | true => rfl
    | false => rfl

/-- **Both passes together** put an underscore just before every position where a word starts. -/
theorem underscored_eq (base : List Char) : underscored base = spelled base := by
  rw [underscored, spaceFrom_acronym?, spaceFrom_wordEnd?, mark_mark]
  cases base with
  | nil => rfl
  | cons c rest =>
    have hrest := map_toLower_markAfter rest [] c
    simp only [List.nil_append, List.length_nil, Nat.zero_add, Nat.add_comm 1] at hrest
    rw [mark, List.map_cons, hrest, spelled, List.mapIdx_cons, List.flatten_cons, startsWord_zero]
    rfl

/-! ### Single underscores -/

theorem ne_underscore_of_isAlphanum {c : Char} (h : c.isAlphanum = true) : c ≠ '_' := by
  rintro rfl
  exact absurd h (by decide)

/-- No capital letter is lowered to an underscore. -/
theorem toLower_ne_underscore {c : Char} (h : c ≠ '_') : c.toLower ≠ '_' := by
  cases hupper : c.isUpper with
  | true =>
    intro he
    have hlower : c.toLower.isLower = true :=
      (Text.cased_of_isAlphanum (Text.isAlphanum_of_isUpper hupper)).isLower_toLower hupper
    rw [he] at hlower
    exact absurd hlower (by decide)
  | false => rwa [Text.toLower_of_not_isUpper hupper]

theorem getLast?_markAfter (cs : List Char) : ∀ before,
    (before :: markAfter starts before cs).getLast? = (before :: cs).getLast? := by
  induction cs with
  | nil => intro before; rfl
  | cons c rest ih =>
    intro before
    rw [List.getLast?_cons_cons, ← ih c]
    cases h : starts before c rest with
    | true => rw [markAfter_of_starts h, List.getLast?_cons_cons, List.getLast?_cons_cons]
    | false => rw [markAfter_of_not_starts h, List.getLast?_cons_cons]

/-- Of two characters in a row one is no underscore, before and after lowering. -/
theorem isChain_markAfter (cs : List Char) (hcs : ∀ c ∈ cs, c ≠ '_') : ∀ before, before ≠ '_' →
    (before :: markAfter starts before cs).IsChain
      fun a b => a.toLower ≠ '_' ∨ b.toLower ≠ '_' := by
  induction cs with
  | nil => intro before _; exact List.isChain_singleton _
  | cons c rest ih =>
    intro before hbefore
    have hc : c ≠ '_' := hcs c List.mem_cons_self
    have hrest := ih (fun d hd => hcs d (List.mem_cons_of_mem _ hd)) c hc
    have hfirst : before.toLower ≠ '_' := toLower_ne_underscore hbefore
    cases h : starts before c rest with
    | true =>
      rw [markAfter_of_starts h, List.isChain_cons_cons, List.isChain_cons_cons]
      exact ⟨Or.inl hfirst, Or.inr (toLower_ne_underscore hc), hrest⟩
    | false =>
      rw [markAfter_of_not_starts h, List.isChain_cons_cons]
      exact ⟨Or.inl hfirst, hrest⟩

theorem TypeWord.isAlphanum {part : List Char} (h : TypeWord part) :
    ∀ c ∈ part, c.isAlphanum = true := by
  obtain ⟨c, rest, rfl, hc, hrest⟩ := h
  intro d hd
  rcases List.mem_cons.mp hd with rfl | hm
  · exact Text.isAlphanum_of_isUpper hc
  · exact hrest d hm

/-- A slug has single underscores only, and none at the ends. -/
theorem tidy_underscored {base : List Char} (h : TypeWord base) : Tidy (underscored base) := by
  have hbase : ∀ c ∈ base, c ≠ '_' := fun c hc => ne_underscore_of_isAlphanum (h.isAlphanum c hc)
  obtain ⟨c, rest, rfl, _⟩ := h
  have hc : c ≠ '_' := hbase c List.mem_cons_self
  have hrest : ∀ d ∈ rest, d ≠ '_' := fun d hd => hbase d (List.mem_cons_of_mem _ hd)
  rw [underscored, spaceFrom_acronym?, spaceFrom_wordEnd?, mark_mark, mark]
  constructor
  · rw [List.map_cons, List.head?_cons, Ne, Option.some.injEq]
    exact toLower_ne_underscore hc
  · intro hlast
    rw [List.getLast?_map, getLast?_markAfter, Option.map_eq_some_iff] at hlast
    obtain ⟨d, hd, hlower⟩ := hlast
    exact toLower_ne_underscore (hbase d (List.mem_of_getLast? hd)) hlower
  · intro hinfix
    have hchain : ((c :: markAfter atWord c rest).map Char.toLower).IsChain
        fun a b => a ≠ '_' ∨ b ≠ '_' :=
      (List.isChain_map _).mpr (isChain_markAfter rest hrest c hc)
    have hunderscores := List.IsChain.infix hchain hinfix
    have hpair := List.isChain_pair.mp hunderscores
    exact hpair.elim (fun hne => hne rfl) fun hne => hne rfl

/-! ### Type names -/

theorem isTypeWord_iff {part : List Char} : isTypeWord part = true ↔ TypeWord part := by
  cases part with
  | nil => simp [isTypeWord, TypeWord]
  | cons c rest => simp [isTypeWord, TypeWord]

theorem TypeWord.colon_notMem {part : List Char} (h : TypeWord part) : ':' ∉ part :=
  fun hm => absurd (h.isAlphanum _ hm) (by decide)

theorem joinScope_append_singleton (scopes : List (List Char)) (last : List Char) :
    Text.joinScope (scopes ++ [last]) = (scopes.flatMap fun scope => scope ++ [':', ':']) ++ last := by
  induction scopes with
  | nil => rfl
  | cons scope scopes ih =>
    rw [List.cons_append, Text.joinScope_cons (by simp), ih, List.flatMap_cons]
    simp

/-- A type name has a base if and only if it is spelled with it. -/
theorem base?_eq_some_iff {typeName : String} {base : List Char} :
    base? typeName.toList = some base ↔ Spells typeName base := by
  constructor
  · intro h
    unfold base? at h
    dsimp only at h
    split at h
    · next hparts =>
      rw [Option.some.injEq] at h
      rw [Bool.and_eq_true, Bool.and_eq_true, List.all_eq_true, beq_iff_eq, h] at hparts
      obtain ⟨⟨hscopes, hbase⟩, hlast⟩ := hparts
      refine ⟨isTypeWord_iff.mp hbase, (Text.splitScope typeName.toList).dropLast,
        fun scope hs => isTypeWord_iff.mp (hscopes scope hs), ?_⟩
      have hne := Text.splitScope_ne_nil typeName.toList
      have hsplit : (Text.splitScope typeName.toList).dropLast ++ [base ++ suffix] =
          Text.splitScope typeName.toList := by
        rw [hlast, List.getLastD_eq_getLast?, List.getLast?_eq_some_getLast hne, Option.getD_some,
          List.dropLast_append_getLast hne]
      calc
        typeName.toList = Text.joinScope (Text.splitScope typeName.toList) :=
          (Text.joinScope_splitScope _).symm
        _ = Text.joinScope ((Text.splitScope typeName.toList).dropLast ++ [base ++ suffix]) := by
          rw [hsplit]
        _ = _ := by rw [joinScope_append_singleton, ← List.append_assoc, suffix]
    · exact absurd h (by simp)
  · rintro ⟨hbase, scopes, hscopes, hname⟩
    have hjoin : typeName.toList = Text.joinScope (scopes ++ [base ++ suffix]) := by
      rw [hname, joinScope_append_singleton, ← List.append_assoc, suffix]
    have hcolon : ∀ part ∈ scopes ++ [base ++ suffix], ':' ∉ part := by
      intro part hp
      rcases List.mem_append.mp hp with hs | hl
      · exact (hscopes part hs).colon_notMem
      · rw [List.mem_singleton.mp hl, List.mem_append, not_or]
        exact ⟨hbase.colon_notMem, by decide⟩
    have htake : (base ++ suffix).take ((base ++ suffix).length - suffix.length) = base := by
      rw [List.length_append, Nat.add_sub_cancel, List.take_left]
    have hall : scopes.all isTypeWord = true :=
      List.all_eq_true.mpr fun scope hs => isTypeWord_iff.mpr (hscopes scope hs)
    unfold base?
    dsimp only
    rw [hjoin, Text.splitScope_joinScope (by simp) hcolon, List.getLastD_concat,
      List.dropLast_concat, htake, hall, isTypeWord_iff.mpr hbase, BEq.rfl]
    rfl

/-- **Which type names have a slug, and which slug it is.** -/
theorem ofTypeName_exact (typeName : String) :
    (∀ slug, ofTypeName typeName = .ok slug ↔
      ∃ base, Spells typeName base ∧ slug = String.ofList (spelled base)) ∧
    (∀ error, ofTypeName typeName = .error error ↔
      (¬∃ base, Spells typeName base) ∧ error = .malformedTypeName typeName) ∧
    ∀ slug, ofTypeName typeName = .ok slug → Tidy slug.toList := by
  rw [ofTypeName]
  cases hbase : base? typeName.toList with
  | none =>
    have hnone : ¬∃ base, Spells typeName base := by
      rintro ⟨base, h⟩
      rw [← base?_eq_some_iff, hbase] at h
      exact absurd h (by simp)
    refine ⟨fun slug => ?_, fun error => ?_, fun slug h => absurd h (by simp)⟩
    · refine iff_of_false (by simp) ?_
      rintro ⟨base, h, _⟩
      exact hnone ⟨base, h⟩
    · rw [Except.error.injEq, and_iff_right hnone, eq_comm]
  | some base =>
    have hspells : Spells typeName base := base?_eq_some_iff.mp hbase
    have hunique : ∀ other, Spells typeName other → other = base := by
      intro other h
      rw [← base?_eq_some_iff, hbase, Option.some.injEq] at h
      exact h.symm
    dsimp only
    refine ⟨fun slug => ?_, fun error => ?_, fun slug h => ?_⟩
    · rw [Except.ok.injEq, underscored_eq]
      constructor
      · rintro rfl
        exact ⟨base, hspells, rfl⟩
      · rintro ⟨other, h, rfl⟩
        rw [hunique other h]
    · exact iff_of_false (by simp) fun h => h.1 ⟨base, hspells⟩
    · rw [← Except.ok.inj h, String.toList_ofList]
      exact tidy_underscored hspells.1

theorem ofTypeName_exact_httpStatus :
    ofTypeName "Forms::HTTPStatus2XxFilter" = .ok "http_status2_xx" ∧
    (∃ base, Spells "Forms::HTTPStatus2XxFilter" base ∧
      "http_status2_xx" = String.ofList (spelled base)) ∧
    Tidy "http_status2_xx".toList := by
  have hslug : ofTypeName "Forms::HTTPStatus2XxFilter" = .ok "http_status2_xx" := by rfl
  have hexact := ofTypeName_exact "Forms::HTTPStatus2XxFilter"
  exact ⟨hslug, (hexact.1 _).mp hslug, hexact.2.2 _ hslug⟩

end Intake.Slug
