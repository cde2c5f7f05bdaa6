import Intake.Numeral
import Mathlib.Data.List.Basic
import Mathlib.Tactic.Ring

/-!
# The grammar of numerals

`Grouped`, `SpellsInteger` and `Spells` are the grammars of digits in groups, of integers and of
numerals.  They do not mention the readers.  A reader reads the texts of its grammar, each as what it
spells, and no other texts: `integer?_eq_some_iff`, `read?_eq_some_iff`.
-/

namespace Intake

/-! ### The values of digits -/

theorem digitValue_le {c : Char} (h : c.isDigit = true) : digitValue c ≤ 9 := by
  rw [Char.isDigit, Bool.and_eq_true, decide_eq_true_eq, decide_eq_true_eq] at h
  have hle : c.toNat ≤ '9'.toNat := h.2
  have hnine : '9'.toNat = '0'.toNat + 9 := rfl
  rw [digitValue]
  omega

theorem foldl_digits (digits : List Char) :
    ∀ n, digits.foldl (fun acc c => 10 * acc + digitValue c) n =
      n * 10 ^ digits.length + digitsValue digits := by
  induction digits with
  | nil => intro n; simp [digitsValue]
  | cons c digits ih =>
    intro n
    rw [digitsValue, List.foldl_cons, List.foldl_cons, ih, ih, List.length_cons, Nat.pow_succ]
    ring

theorem digitsValue_append (front back : List Char) :
    digitsValue (front ++ back) = digitsValue front * 10 ^ back.length + digitsValue back := by
  rw [digitsValue, List.foldl_append, foldl_digits]
  rfl

theorem digitsValue_cons (c : Char) (digits : List Char) :
    digitsValue (c :: digits) = digitValue c * 10 ^ digits.length + digitsValue digits := by
  rw [digitsValue, List.foldl_cons, foldl_digits, Nat.mul_zero, Nat.zero_add]

namespace Numeral

/-! ### The grammars -/

/-- A text has one or more groups of digits with single underscores between them. -/
def Grouped (digits text : List Char) : Prop :=
  ∃ groups : List (List Char), groups ≠ [] ∧
    (∀ group ∈ groups, group ≠ [] ∧ ∀ c ∈ group, c.isDigit = true) ∧
      text = ['_'].intercalate groups ∧ digits = groups.flatten

/-- A sign may be missing; a minus makes a number negative. -/
inductive Sign : Bool → List Char → Prop where
  | missing : Sign false []
  | plus : Sign false ['+']
  | minus : Sign true ['-']

def signed (negative : Bool) (digits : List Char) : Int :=
  if negative then -digitsValue digits else digitsValue digits

/-- A text spells an integer: a sign and groups of digits. -/
def SpellsInteger (n : Int) (text : List Char) : Prop :=
  ∃ negative sign digits body, Sign negative sign ∧ Grouped digits body ∧ text = sign ++ body ∧
    n = signed negative digits

/-- A fraction may be missing; otherwise it is a point and groups of digits. -/
inductive Fraction : List Char → List Char → Prop where
  | missing : Fraction [] []
  | point {digits text : List Char} (grouped : Grouped digits text) : Fraction digits ('.' :: text)

/-- An exponent may be missing; otherwise it is a letter, a sign and digits in one row. -/
inductive Exponent : Option Int → List Char → Prop where
  | missing : Exponent none []
  | letter {c : Char} {negative : Bool} {sign digits : List Char} (isLetter : c = 'e' ∨ c = 'E')
      (hasSign : Sign negative sign) (nonempty : digits ≠ [])
      (areDigits : ∀ c ∈ digits, c.isDigit = true) :
      Exponent (some (signed negative digits)) (c :: (sign ++ digits))

/-- A text spells a numeral: a sign, groups of digits, a fraction and an exponent. -/
def Spells (numeral : Numeral) (text : List Char) : Prop :=
  ∃ sign whole fraction exponent, Sign numeral.negative sign ∧ Grouped numeral.whole whole ∧
    Fraction numeral.fraction fraction ∧ Exponent numeral.exponent exponent ∧
      text = sign ++ (whole ++ (fraction ++ exponent))

/-! ### Signs -/

theorem exists_sign_of_takeSign {cs body : List Char} {negative : Bool}
    (h : takeSign cs = (negative, body)) : ∃ sign, Sign negative sign ∧ cs = sign ++ body := by
  unfold takeSign at h
  split at h
  · obtain ⟨rfl, rfl⟩ := Prod.mk.inj h
    exact ⟨['-'], .minus, rfl⟩
  · obtain ⟨rfl, rfl⟩ := Prod.mk.inj h
    exact ⟨['+'], .plus, rfl⟩
  · obtain ⟨rfl, rfl⟩ := Prod.mk.inj h
    exact ⟨[], .missing, rfl⟩

theorem takeSign_append {negative : Bool} {sign body : List Char} (h : Sign negative sign)
    (hbody : startsWithDigit body = true) : takeSign (sign ++ body) = (negative, body) := by
  cases h with
  | missing =>
    rw [List.nil_append]
    unfold takeSign
    split
    · exact absurd hbody Bool.false_ne_true
    · exact absurd hbody Bool.false_ne_true
    · rfl
  | plus => rfl
  | minus => rfl

/-! ### Groups of digits -/

theorem intercalate_cons (c : Char) (group : List Char) (groups : List (List Char)) :
    ['_'].intercalate ((c :: group) :: groups) = c :: ['_'].intercalate (group :: groups) := by
  cases groups with
  | nil => rfl
  | cons next groups => rfl

theorem Grouped.digit {c : Char} (hc : c.isDigit = true) : Grouped [c] [c] :=
  ⟨[[c]], by simp, by simp [hc], rfl, rfl⟩

theorem Grouped.more {c : Char} {digits text : List Char} (hc : c.isDigit = true)
    (h : Grouped digits text) : Grouped (c :: digits) (c :: text) := by
  obtain ⟨groups, hne, hgroups, rfl, rfl⟩ := h
  cases groups with
  | nil => exact absurd rfl hne
  | cons group groups =>
    obtain ⟨⟨_, hgroup⟩, hrest⟩ := List.forall_mem_cons.mp hgroups
    refine ⟨(c :: group) :: groups, by simp, ?_, (intercalate_cons c group groups).symm, rfl⟩
    refine List.forall_mem_cons.mpr ⟨⟨by simp, ?_⟩, hrest⟩
    exact List.forall_mem_cons.mpr ⟨hc, hgroup⟩

theorem Grouped.next {c : Char} {digits text : List Char} (hc : c.isDigit = true)
    (h : Grouped digits text) : Grouped (c :: digits) (c :: '_' :: text) := by
  obtain ⟨groups, hne, hgroups, rfl, rfl⟩ := h
  refine ⟨[c] :: groups, by simp, ?_, ?_, rfl⟩
  · exact List.forall_mem_cons.mpr ⟨⟨by simp, by simp [hc]⟩, hgroups⟩
  · rw [List.intercalate_cons_of_ne_nil hne]
    rfl

theorem Grouped.ne_nil {digits text : List Char} (h : Grouped digits text) : digits ≠ [] := by
  obtain ⟨groups, hne, hgroups, _, rfl⟩ := h
  cases groups with
  | nil => exact absurd rfl hne
  | cons group groups => simp [(hgroups group List.mem_cons_self).1]

theorem Grouped.isDigit {digits text : List Char} (h : Grouped digits text) :
    ∀ c ∈ digits, c.isDigit = true := by
  obtain ⟨groups, _, hgroups, _, rfl⟩ := h
  intro c hc
  obtain ⟨group, hgroup, hm⟩ := List.mem_flatten.mp hc
  exact (hgroups group hgroup).2 c hm

theorem startsWithDigit_append {group : List Char} (hne : group ≠ [])
    (hgroup : ∀ c ∈ group, c.isDigit = true) (rest : List Char) :
    startsWithDigit (group ++ rest) = true := by
  cases group with
  | nil => exact absurd rfl hne
  | cons c group => exact hgroup c List.mem_cons_self

theorem startsWithDigit_intercalate {groups : List (List Char)} (hne : groups ≠ [])
    (hgroups : ∀ group ∈ groups, group ≠ [] ∧ ∀ c ∈ group, c.isDigit = true) (rest : List Char) :
    startsWithDigit (['_'].intercalate groups ++ rest) = true := by
  cases groups with
  | nil => exact absurd rfl hne
  | cons group groups =>
    obtain ⟨hgroup, hdigits⟩ := hgroups group List.mem_cons_self
    cases group with
    | nil => exact absurd rfl hgroup
    | cons c group =>
      rw [intercalate_cons]
      exact hdigits c List.mem_cons_self

theorem Grouped.startsWithDigit {digits text : List Char} (h : Grouped digits text)
    (rest : List Char) : startsWithDigit (text ++ rest) = true := by
  obtain ⟨groups, hne, hgroups, rfl, _⟩ := h
  exact startsWithDigit_intercalate hne hgroups rest

/-- Digits in groups do not go on with a text. -/
def Stops (rest : List Char) : Prop :=
  startsWithDigit rest = false ∧ ∀ tail, rest = '_' :: tail → startsWithDigit tail = false

theorem takeGroups_of_stops {rest : List Char} (h : Stops rest) : takeGroups rest = ([], rest) := by
  cases rest with
  | nil => rfl
  | cons c rest =>
    have hc : c.isDigit = false := h.1
    unfold takeGroups
    rw [hc, if_neg Bool.false_ne_true]

theorem takeGroups_cons {c : Char} (hc : c.isDigit = true) {rest : List Char}
    (h : ∀ tail, rest ≠ '_' :: tail) :
    takeGroups (c :: rest) = (c :: (takeGroups rest).1, (takeGroups rest).2) := by
  rw [takeGroups, if_pos hc]
  exact h

theorem takeGroups_cons_of_stops {c : Char} (hc : c.isDigit = true) {rest : List Char}
    (h : Stops rest) : takeGroups (c :: rest) = ([c], rest) := by
  by_cases hrest : ∃ tail, rest = '_' :: tail
  · obtain ⟨tail, rfl⟩ := hrest
    rw [takeGroups, if_pos hc, if_neg (by simp [h.2 tail rfl])]
  · rw [takeGroups_cons hc fun tail he => hrest ⟨tail, he⟩, takeGroups_of_stops h]

/-- A group is read to its end. -/
theorem takeGroups_group {group : List Char} (hne : group ≠ [])
    (hgroup : ∀ c ∈ group, c.isDigit = true) {rest : List Char} (h : Stops rest) :
    takeGroups (group ++ rest) = (group, rest) := by
  induction group with
  | nil => exact absurd rfl hne
  | cons c group ih =>
    obtain ⟨hc, hgroup⟩ := List.forall_mem_cons.mp hgroup
    rw [List.cons_append]
    by_cases hgroup' : group = []
    · subst hgroup'
      exact takeGroups_cons_of_stops hc h
    · rw [takeGroups_cons hc, ih hgroup' hgroup]
      intro tail he
      have hdigit := startsWithDigit_append hgroup' hgroup rest
      rw [he] at hdigit
      exact absurd hdigit Bool.false_ne_true

/-- A group is followed by another one after an underscore. -/
theorem takeGroups_group_underscore {group : List Char} (hne : group ≠ [])
    (hgroup : ∀ c ∈ group, c.isDigit = true) {tail : List Char}
    (h : startsWithDigit tail = true) :
    takeGroups (group ++ '_' :: tail) = (group ++ (takeGroups tail).1, (takeGroups tail).2) := by
  induction group with
  | nil => exact absurd rfl hne
  | cons c group ih =>
    obtain ⟨hc, hgroup⟩ := List.forall_mem_cons.mp hgroup
    rw [List.cons_append]
    by_cases hgroup' : group = []
    · subst hgroup'
      rw [List.nil_append, takeGroups, if_pos hc, if_pos h]
      rfl
    · rw [takeGroups_cons hc, ih hgroup' hgroup, List.cons_append]
      intro tail' he
      have hdigit := startsWithDigit_append hgroup' hgroup ('_' :: tail)
      rw [he] at hdigit
      exact absurd hdigit Bool.false_ne_true

/-- Groups of digits are read to the end of the last one. -/
theorem Grouped.takeGroups {digits text : List Char} (h : Grouped digits text) {rest : List Char}
    (hrest : Stops rest) : takeGroups (text ++ rest) = (digits, rest) := by
  obtain ⟨groups, hne, hgroups, rfl, rfl⟩ := h
  induction groups with
  | nil => exact absurd rfl hne
  | cons group groups ih =>
    obtain ⟨⟨hgroup, hdigits⟩, hgroups⟩ := List.forall_mem_cons.mp hgroups
    by_cases hempty : groups = []
    · subst hempty
      rw [List.flatten_singleton]
      have htext : ['_'].intercalate [group] = group := List.flatten_singleton
      rw [htext]
      exact takeGroups_group hgroup hdigits hrest
    · rw [List.intercalate_cons_of_ne_nil hempty, List.append_assoc, List.append_assoc,
        List.singleton_append, takeGroups_group_underscore hgroup hdigits
          (startsWithDigit_intercalate hempty hgroups rest), ih hempty hgroups, List.flatten_cons]

theorem eq_of_takeGroups_nil {cs rest : List Char} (h : Numeral.takeGroups cs = ([], rest)) :
    rest = cs := by
  fun_induction Numeral.takeGroups cs with
  | case1 => exact (Prod.mk.inj h).2.symm
  | case2 => exact absurd (Prod.mk.inj h).1 (by simp)
  | case3 => exact absurd (Prod.mk.inj h).1 (by simp)
  | case4 => exact absurd (Prod.mk.inj h).1 (by simp)
  | case5 => exact (Prod.mk.inj h).2.symm

theorem ne_nil_of_startsWithDigit {cs digits rest : List Char}
    (h : Numeral.takeGroups cs = (digits, rest)) (hcs : Numeral.startsWithDigit cs = true) :
    digits ≠ [] := by
  rintro rfl
  fun_induction Numeral.takeGroups cs with
  | case1 => exact absurd hcs Bool.false_ne_true
  | case2 => exact absurd (Prod.mk.inj h).1 (by simp)
  | case3 => exact absurd (Prod.mk.inj h).1 (by simp)
  | case4 => exact absurd (Prod.mk.inj h).1 (by simp)
  | case5 c tail hc => exact hc hcs

/-- What is read, if anything, is groups of digits. -/
theorem exists_grouped_of_takeGroups {cs digits rest : List Char}
    (h : Numeral.takeGroups cs = (digits, rest)) (hne : digits ≠ []) :
    ∃ text, Grouped digits text ∧ cs = text ++ rest := by
  fun_induction Numeral.takeGroups cs generalizing digits with
  | case1 => exact absurd (Prod.mk.inj h).1.symm hne
  | case2 c hc tail htail ds rest' htake ih =>
    obtain ⟨rfl, rfl⟩ := Prod.mk.inj h
    obtain ⟨text, hgrouped, rfl⟩ := ih htake (ne_nil_of_startsWithDigit htake htail)
    exact ⟨_, hgrouped.next hc, rfl⟩
  | case3 c hc tail =>
    obtain ⟨rfl, rfl⟩ := Prod.mk.inj h
    exact ⟨[c], .digit hc, rfl⟩
  | case4 c hc tail hunderscore ds rest' htake ih =>
    obtain ⟨rfl, rfl⟩ := Prod.mk.inj h
    by_cases hds : ds = []
    · subst hds
      exact ⟨[c], .digit hc, by rw [eq_of_takeGroups_nil htake]; rfl⟩
    · obtain ⟨text, hgrouped, rfl⟩ := ih htake hds
      exact ⟨_, hgrouped.more hc, rfl⟩
  | case5 => exact absurd (Prod.mk.inj h).1.symm hne

/-! ### Integers -/

theorem stops_nil : Stops [] :=
  ⟨rfl, fun tail h => absurd h (by simp)⟩

/-- **Integers are read by their grammar**, with underscores between digits. -/
theorem integer?_eq_some_iff {cs : List Char} {n : Int} :
    integer? cs = some n ↔ SpellsInteger n cs := by
  constructor
  · intro h
    rcases htakeSign : takeSign cs with ⟨negative, body⟩
    rcases htakeGroups : takeGroups body with ⟨digits, rest⟩
    obtain ⟨sign, hsign, rfl⟩ := exists_sign_of_takeSign htakeSign
    rw [integer?, htakeSign] at h
    dsimp only at h
    rw [htakeGroups] at h
    split at h
    · next c digits he =>
      obtain ⟨rfl, rfl⟩ := Prod.mk.inj he
      obtain ⟨text, hgrouped, rfl⟩ := exists_grouped_of_takeGroups htakeGroups (by simp)
      rw [List.append_nil]
      exact ⟨negative, sign, _, text, hsign, hgrouped, rfl, (Option.some.inj h).symm⟩
    · exact absurd h (by simp)
  · rintro ⟨negative, sign, digits, body, hsign, hgrouped, rfl, rfl⟩
    have hbody := hgrouped.startsWithDigit []
    have htake := hgrouped.takeGroups stops_nil
    rw [List.append_nil] at hbody htake
    rw [integer?, takeSign_append hsign hbody]
    dsimp only
    rw [htake]
    cases digits with
    | nil => exact absurd rfl hgrouped.ne_nil
    | cons c digits => rfl

theorem Grouped.single {digits : List Char} (hne : digits ≠ [])
    (hdigits : ∀ c ∈ digits, c.isDigit = true) : Grouped digits digits := by
  refine ⟨[digits], by simp, ?_, List.flatten_singleton.symm, List.flatten_singleton.symm⟩
  intro group hgroup
  rw [List.mem_singleton.mp hgroup]
  exact ⟨hne, hdigits⟩

theorem grouped_toDigits (n : Nat) : Grouped (Nat.toDigits 10 n) (Nat.toDigits 10 n) :=
  .single Nat.toDigits_ne_nil fun _ hc => Nat.isDigit_of_mem_toDigits (by decide) (by decide) hc

theorem digitsValue_toDigits (n : Nat) : digitsValue (Nat.toDigits 10 n) = n :=
  Nat.ofDigitChars_toDigits (by decide) (by decide)

theorem toList_toString_int (n : Int) :
    (toString n).toList = (if n < 0 then ['-'] else []) ++ Nat.toDigits 10 n.natAbs := by
  cases n with
  | ofNat m =>
    have htext : toString (Int.ofNat m) = toString m := rfl
    have hnonneg : ¬Int.ofNat m < 0 := (Int.natCast_nonneg m).not_gt
    rw [htext, Nat.toString_eq_repr, Nat.toList_repr, if_neg hnonneg]
    rfl
  | negSucc m =>
    have htext : toString (Int.negSucc m) = "-" ++ toString (m + 1) := rfl
    rw [htext, String.toList_append, Nat.toString_eq_repr, Nat.toList_repr, if_pos (by omega)]
    rfl

/-- The text of an integer spells it. -/
theorem spellsInteger_toString (n : Int) : SpellsInteger n (toString n).toList := by
  rw [toList_toString_int]
  split
  · refine ⟨true, _, _, _, .minus, grouped_toDigits _, rfl, ?_⟩
    rw [signed, if_pos rfl, digitsValue_toDigits]
    omega
  · refine ⟨false, _, _, _, .missing, grouped_toDigits _, rfl, ?_⟩
    rw [signed, if_neg Bool.false_ne_true, digitsValue_toDigits]
    omega

theorem plainInteger?_eq_some {negative : Bool} {sign digits : List Char}
    (hsign : Sign negative sign) (hne : digits ≠ []) (hdigits : ∀ c ∈ digits, c.isDigit = true) :
    plainInteger? (sign ++ digits) = some (signed negative digits) := by
  have hstart := startsWithDigit_append hne hdigits []
  rw [List.append_nil] at hstart
  have hall : (!digits.isEmpty && digits.all Char.isDigit) = true := by
    rw [Bool.and_eq_true, Bool.not_eq_true', List.isEmpty_eq_false_iff, List.all_eq_true]
    exact ⟨hne, hdigits⟩
  rw [plainInteger?, takeSign_append hsign hstart]
  dsimp only
  rw [if_pos hall]
  rfl

theorem exists_sign_of_plainInteger? {cs : List Char} {n : Int} (h : plainInteger? cs = some n) :
    ∃ negative sign digits, Sign negative sign ∧ digits ≠ [] ∧
      (∀ c ∈ digits, c.isDigit = true) ∧ cs = sign ++ digits ∧ n = signed negative digits := by
  rcases htakeSign : takeSign cs with ⟨negative, digits⟩
  obtain ⟨sign, hsign, rfl⟩ := exists_sign_of_takeSign htakeSign
  rw [plainInteger?, htakeSign] at h
  dsimp only at h
  split at h
  · next hall =>
    rw [Bool.and_eq_true, Bool.not_eq_true', List.isEmpty_eq_false_iff, List.all_eq_true] at hall
    exact ⟨negative, sign, digits, hsign, hall.1, hall.2, rfl, (Option.some.inj h).symm⟩
  · exact absurd h (by simp)

/-! ### Numerals -/

theorem Exponent.stops {exponent : Option Int} {text : List Char} (h : Exponent exponent text) :
    Stops text := by
  cases h with
  | missing => exact stops_nil
  | letter isLetter =>
    rcases isLetter with rfl | rfl
    · exact ⟨rfl, fun tail he => absurd (List.cons.inj he).1 (by decide)⟩
    · exact ⟨rfl, fun tail he => absurd (List.cons.inj he).1 (by decide)⟩

theorem Fraction.stops {digits text rest : List Char} (h : Fraction digits text)
    (hrest : Stops rest) : Stops (text ++ rest) := by
  cases h with
  | missing => exact hrest
  | point => exact ⟨rfl, fun tail he => absurd (List.cons.inj he).1 (by decide)⟩

theorem Fraction.isDigit {digits text : List Char} (h : Fraction digits text) :
    ∀ c ∈ digits, c.isDigit = true := by
  cases h with
  | missing => simp
  | point grouped => exact grouped.isDigit

theorem exponent?_eq_some_iff {cs : List Char} {exponent : Option Int} :
    exponent? cs = some exponent ↔ Exponent exponent cs := by
  constructor
  · intro h
    cases cs with
    | nil =>
      obtain rfl := Option.some.inj h
      exact .missing
    | cons c rest =>
      rw [exponent?] at h
      split at h
      · next hletter =>
        rw [Bool.or_eq_true, decide_eq_true_eq, decide_eq_true_eq] at hletter
        obtain ⟨n, hn, rfl⟩ := Option.map_eq_some_iff.mp h
        obtain ⟨negative, sign, digits, hsign, hne, hdigits, rfl, rfl⟩ :=
          exists_sign_of_plainInteger? hn
        exact .letter hletter hsign hne hdigits
      · exact absurd h (by simp)
  · intro h
    cases h with
    | missing => rfl
    | letter isLetter hasSign nonempty areDigits =>
      rw [exponent?, if_pos (by simpa using isLetter),
        plainInteger?_eq_some hasSign nonempty areDigits]
      rfl

theorem Fraction.takeFraction {digits text rest : List Char} (h : Fraction digits text)
    {exponent : Option Int} (hrest : Exponent exponent rest) :
    takeFraction (text ++ rest) = (digits, rest) := by
  cases h with
  | missing =>
    cases hrest with
    | missing => rfl
    | letter isLetter =>
      rcases isLetter with rfl | rfl
      · rfl
      · rfl
  | point grouped =>
    rw [List.cons_append, Numeral.takeFraction, grouped.takeGroups hrest.stops]
    cases digits with
    | nil => exact absurd rfl grouped.ne_nil
    | cons c digits => rfl

/-- What is read, if anything, is a fraction; what is left where there is none is no exponent. -/
theorem exists_fraction_of_takeFraction {cs digits rest : List Char} {exponent : Option Int}
    (h : takeFraction cs = (digits, rest)) (hrest : Exponent exponent rest) :
    ∃ text, Fraction digits text ∧ cs = text ++ rest := by
  unfold takeFraction at h
  split at h
  · next body =>
    rcases htake : takeGroups body with ⟨ds, after⟩
    rw [htake] at h
    split at h
    · obtain ⟨rfl, rfl⟩ := Prod.mk.inj h
      cases hrest with
      | letter isLetter => exact absurd isLetter (by decide)
    · next hnil he =>
      obtain ⟨rfl, rfl⟩ := Prod.mk.inj (he.trans h)
      obtain ⟨rfl, rfl⟩ := Prod.mk.inj he
      obtain ⟨text, hgrouped, rfl⟩ := exists_grouped_of_takeGroups htake hnil
      exact ⟨_, .point hgrouped, rfl⟩
  · obtain ⟨rfl, rfl⟩ := Prod.mk.inj h
    exact ⟨[], .missing, rfl⟩

theorem Spells.isDigit_fraction {numeral : Numeral} {text : List Char} (h : Spells numeral text) :
    ∀ c ∈ numeral.fraction, c.isDigit = true := by
  obtain ⟨_, _, _, _, _, _, hfraction, _, _⟩ := h
  exact hfraction.isDigit

/-- An integer is a numeral with nothing but digits. -/
theorem SpellsInteger.exists_spells {n : Int} {text : List Char} (h : SpellsInteger n text) :
    ∃ numeral : Numeral, Spells numeral text ∧ numeral.exponent = none ∧
      numeral.fraction = [] ∧ n = signed numeral.negative numeral.whole := by
  obtain ⟨negative, sign, digits, body, hsign, hgrouped, rfl, rfl⟩ := h
  refine ⟨⟨negative, digits, [], none⟩, ?_, rfl, rfl, rfl⟩
  exact ⟨sign, body, [], [], hsign, hgrouped, .missing, .missing, by simp⟩

/-- **Numerals are read by their grammar.** -/
theorem read?_eq_some_iff {cs : List Char} {numeral : Numeral} :
    read? cs = some numeral ↔ Spells numeral cs := by
  constructor
  · intro h
    rcases htakeSign : takeSign cs with ⟨negative, body⟩
    rcases htakeGroups : takeGroups body with ⟨whole, rest⟩
    obtain ⟨sign, hsign, rfl⟩ := exists_sign_of_takeSign htakeSign
    rw [read?, htakeSign] at h
    dsimp only at h
    rw [htakeGroups] at h
    split at h
    · exact absurd h (by simp)
    · next hne he =>
      obtain ⟨rfl, rfl⟩ := Prod.mk.inj he
      obtain ⟨exponent, hexponent, rfl⟩ := Option.map_eq_some_iff.mp h
      rw [exponent?_eq_some_iff] at hexponent
      obtain ⟨text, hwhole, rfl⟩ := exists_grouped_of_takeGroups htakeGroups hne
      obtain ⟨point, hfraction, hrest⟩ :=
        exists_fraction_of_takeFraction (Prod.eta (takeFraction rest)).symm hexponent
      exact ⟨sign, text, point, _, hsign, hwhole, hfraction, hexponent, by rw [← hrest]⟩
  · rintro ⟨sign, whole, fraction, exponent, hsign, hwhole, hfraction, hexponent, rfl⟩
    rw [read?, takeSign_append hsign (hwhole.startsWithDigit _)]
    dsimp only
    rw [hwhole.takeGroups (hfraction.stops hexponent.stops)]
    split
    · next he => exact absurd (Prod.mk.inj he).1 hwhole.ne_nil
    · next he =>
      obtain ⟨rfl, rfl⟩ := Prod.mk.inj he
      rw [hfraction.takeFraction hexponent, exponent?_eq_some_iff.mpr hexponent]
      rfl

end Numeral

end Intake
