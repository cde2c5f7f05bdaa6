import Intake.Path
import Mathlib.Data.List.Basic

/-!
# Texts of paths

In the text of a path a step starts with a separator, `.` before a key and `[` before an index.  A
key may be empty, made of digits, or have a `]`.  As long as no name has a separator, a text is cut
into its steps in one way only, so that different paths have different texts: `text_injective`.
-/

namespace Intake

/-- A name has neither of the characters that start a step. -/
def Unseparated (name : String) : Prop :=
  '.' ∉ name.toList ∧ '[' ∉ name.toList

instance (name : String) : Decidable (Unseparated name) :=
  inferInstanceAs (Decidable (_ ∧ _))

/-- The names in a path have no separators. -/
structure Path.Plain (path : Path) : Prop where
  root : Unseparated path.root
  keys : ∀ key, .key key ∈ path.segments → Unseparated key

/-! ### Cutting at separators -/

def isSeparator (c : Char) : Bool :=
  c = '.' || c = '['

theorem Unseparated.isSeparator_eq_false {name : String} (h : Unseparated name) :
    ∀ c ∈ name.toList, isSeparator c = false := by
  intro c hc
  rw [isSeparator, Bool.or_eq_false_iff, decide_eq_false_iff_not, decide_eq_false_iff_not]
  exact ⟨fun he => h.1 (he ▸ hc), fun he => h.2 (he ▸ hc)⟩

theorem takeWhile_append_of_separator {part rest : List Char}
    (hpart : ∀ c ∈ part, isSeparator c = false) (hrest : ∀ c ∈ rest.head?, isSeparator c = true) :
    (part ++ rest).takeWhile (!isSeparator ·) = part := by
  rw [List.takeWhile_append_of_pos fun c hc => by rw [hpart c hc, Bool.not_false]]
  cases rest with
  | nil => rw [List.takeWhile_nil, List.append_nil]
  | cons c rest =>
    have hc : isSeparator c = true := hrest c rfl
    rw [List.takeWhile_cons, hc, Bool.not_true, if_neg Bool.false_ne_true, List.append_nil]

/-- What comes before the first separator and what is from there on are known from the whole. -/
theorem append_inj_of_separator {a b rest others : List Char}
    (ha : ∀ c ∈ a, isSeparator c = false) (hb : ∀ c ∈ b, isSeparator c = false)
    (hrest : ∀ c ∈ rest.head?, isSeparator c = true)
    (hothers : ∀ c ∈ others.head?, isSeparator c = true) (h : a ++ rest = b ++ others) :
    a = b ∧ rest = others := by
  have hab : a = b := by
    rw [← takeWhile_append_of_separator ha hrest, h, takeWhile_append_of_separator hb hothers]
  subst hab
  exact ⟨rfl, List.append_cancel_left h⟩

/-! ### Steps -/

theorem toList_toString (i : Nat) : (toString i).toList = Nat.toDigits 10 i := by
  rw [Nat.toString_eq_repr, Nat.toList_repr]

/-- A number is known from its digits. -/
theorem eq_of_toList_toString {i j : Nat} (h : (toString i).toList = (toString j).toList) :
    i = j := by
  rw [toList_toString, toList_toString] at h
  calc
    i = Nat.ofDigitChars 10 (Nat.toDigits 10 i) 0 :=
      (Nat.ofDigitChars_toDigits (by decide) (by decide)).symm
    _ = Nat.ofDigitChars 10 (Nat.toDigits 10 j) 0 := by rw [h]
    _ = j := Nat.ofDigitChars_toDigits (by decide) (by decide)

namespace Segment

def separator : Segment → Char
  | index _ => '['
  | key _ => '.'

def body : Segment → List Char
  | index i => (toString i).toList ++ [']']
  | key k => k.toList

theorem toList_text (segment : Segment) :
    segment.text.toList = segment.separator :: segment.body := by
  cases segment with
  | index i =>
    rw [text, String.toList_append, String.toList_append, List.append_assoc]
    rfl
  | key k =>
    rw [text, String.toList_append]
    rfl

theorem isSeparator_separator (segment : Segment) : isSeparator segment.separator = true := by
  cases segment with
  | index i => rfl
  | key k => rfl

/-- A number has digits only, and `]` is no separator. -/
theorem isSeparator_eq_false_of_mem_body {segment : Segment}
    (plain : ∀ k, segment = .key k → Unseparated k) :
    ∀ c ∈ segment.body, isSeparator c = false := by
  intro c hc
  cases segment with
  | index i =>
    rcases List.mem_append.mp hc with hdigit | hclose
    · have hc : c.isDigit = true := by
        rw [toList_toString] at hdigit
        exact Nat.isDigit_of_mem_toDigits (by decide) (by decide) hdigit
      rw [isSeparator, Bool.or_eq_false_iff, decide_eq_false_iff_not, decide_eq_false_iff_not]
      constructor
      · rintro rfl
        exact absurd hc (by decide)
      · rintro rfl
        exact absurd hc (by decide)
    · rw [List.mem_singleton.mp hclose]
      rfl
  | key k => exact (plain k rfl).isSeparator_eq_false c hc

/-- A step is known from its separator and its body. -/
theorem eq_of_separator_of_body {s t : Segment} (hseparator : s.separator = t.separator)
    (hbody : s.body = t.body) : s = t := by
  cases s with
  | index i =>
    cases t with
    | index j =>
      rw [eq_of_toList_toString (List.append_cancel_right hbody)]
    | key k => exact absurd hseparator (by simp [separator])
  | key k =>
    cases t with
    | index j => exact absurd hseparator (by simp [separator])
    | key l => rw [String.toList_injective hbody]

end Segment

/-! ### Paths -/

namespace Path

theorem toList_foldl_text (segments : List Segment) : ∀ start : String,
    (segments.foldl (fun acc segment => acc ++ segment.text) start).toList =
      start.toList ++ segments.flatMap fun segment => segment.text.toList := by
  induction segments with
  | nil => intro start; rw [List.foldl_nil, List.flatMap_nil, List.append_nil]
  | cons segment rest ih =>
    intro start
    rw [List.foldl_cons, ih, String.toList_append, List.flatMap_cons, List.append_assoc]

theorem toList_text (path : Path) :
    path.text.toList = path.root.toList ++ path.segments.flatMap fun segment =>
      segment.text.toList :=
  toList_foldl_text path.segments path.root

/-- The text of steps is empty or starts with a separator. -/
theorem isSeparator_of_mem_head? (segments : List Segment) :
    ∀ c ∈ (segments.flatMap fun segment => segment.text.toList).head?, isSeparator c = true := by
  intro c hc
  cases segments with
  | nil => exact absurd hc (by simp)
  | cons segment rest =>
    rw [List.flatMap_cons, Segment.toList_text, List.cons_append, List.head?_cons] at hc
    rw [← Option.some.inj hc]
    exact segment.isSeparator_separator

theorem segments_injective : ∀ {ss ts : List Segment},
    (∀ key, .key key ∈ ss → Unseparated key) → (∀ key, .key key ∈ ts → Unseparated key) →
      (ss.flatMap fun segment => segment.text.toList) =
        (ts.flatMap fun segment => segment.text.toList) → ss = ts := by
  intro ss
  induction ss with
  | nil =>
    intro ts _ _ h
    cases ts with
    | nil => rfl
    | cons t ts =>
      rw [List.flatMap_cons, Segment.toList_text] at h
      exact absurd h (by simp)
  | cons s ss ih =>
    intro ts hss hts h
    cases ts with
    | nil =>
      rw [List.flatMap_cons, Segment.toList_text] at h
      exact absurd h (by simp)
    | cons t ts =>
      rw [List.flatMap_cons, List.flatMap_cons, Segment.toList_text, Segment.toList_text,
        List.cons_append, List.cons_append] at h
      obtain ⟨hseparator, htail⟩ := List.cons.inj h
      have hs := Segment.isSeparator_eq_false_of_mem_body fun k hk =>
        hss k (hk ▸ List.mem_cons_self)
      have ht := Segment.isSeparator_eq_false_of_mem_body fun k hk =>
        hts k (hk ▸ List.mem_cons_self)
      obtain ⟨hbody, hrest⟩ := append_inj_of_separator hs ht (isSeparator_of_mem_head? ss)
        (isSeparator_of_mem_head? ts) htail
      rw [Segment.eq_of_separator_of_body hseparator hbody,
        ih (fun k hk => hss k (List.mem_cons_of_mem _ hk))
          (fun k hk => hts k (List.mem_cons_of_mem _ hk)) hrest]

/-- **Paths whose names have no separators are known from their texts.** -/
theorem text_injective {p q : Path} (hp : p.Plain) (hq : q.Plain) (h : p.text = q.text) :
    p = q := by
  have htext : p.text.toList = q.text.toList := by rw [h]
  rw [toList_text, toList_text] at htext
  obtain ⟨hroot, hsegments⟩ := append_inj_of_separator hp.root.isSeparator_eq_false
    hq.root.isSeparator_eq_false (isSeparator_of_mem_head? _) (isSeparator_of_mem_head? _) htext
  obtain ⟨root, segments⟩ := p
  rw [Path.mk.injEq]
  exact ⟨String.toList_injective hroot, segments_injective hp.keys hq.keys hsegments⟩

end Path

end Intake
