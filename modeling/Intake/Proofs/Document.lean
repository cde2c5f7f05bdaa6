import Intake.Document
import Mathlib.Algebra.Ring.Int.Defs

/-!
# Values as documents and back

`Plain` values are those that a document can say as they are: nil, booleans, integers, finite floats,
strings, and arrays and hashes of these.  A value comes back from its document as it was if and only
if it is plain.  A document comes back from its value if and only if it is `Exact`, which is to say
that its integers have 64 bits.  Both directions are in `lossless_iff`.

The proofs follow the recursion of the conversions: one theorem for single values, one for the items
of an array, one for the entries of a hash.
-/

namespace Intake

/-- Values that a document says as they are. -/
inductive Value.Plain : Value → Prop where
  | nil : Plain .nil
  | boolean (b : Bool) : Plain (.boolean b)
  | integer (n : Int64) : Plain (.integer n)
  | float {x : Float} (finite : Binary64.isFinite x = true) : Plain (.float x)
  | string (s : String) : Plain (.string s)
  | array {items : List Value} (plain : ∀ item ∈ items, Plain item) : Plain (.array items)
  | hash {entries : Entries Value} (plain : ∀ entry ∈ entries, Plain entry.2) :
      Plain (.hash entries)

/-- Documents whose integers have 64 bits; the reals of a document are finite in any case. -/
inductive Document.Exact : Document → Prop where
  | null : Exact .null
  | boolean (b : Bool) : Exact (.boolean b)
  | integer {n : Int} (low : -2 ^ 63 ≤ n) (high : n ≤ 2 ^ 63 - 1) : Exact (.integer n)
  | real {x : Float} (finite : Binary64.isFinite x = true) : Exact (.real x)
  | text (s : String) : Exact (.text s)
  | list {items : List Document} (exact : ∀ item ∈ items, Exact item) : Exact (.list items)
  | record {members : List (String × Document)} (exact : ∀ member ∈ members, Exact member.2) :
      Exact (.record members)

/-! ### 64-bit integers -/

theorem int64?_eq_some_iff {n : Int} {k : Int64} : int64? n = some k ↔ k.toInt = n := by
  unfold int64?
  constructor
  · intro h
    split at h
    · next hrange =>
      rw [← Option.some.inj h]
      exact Int64.toInt_ofInt_of_le hrange.1 hrange.2
    · exact absurd h (by simp)
  · rintro rfl
    rw [if_pos ⟨k.le_toInt, k.toInt_lt⟩, Int64.ofInt_toInt]

theorem int64?_eq_none_iff {n : Int} : int64? n = none ↔ n < -2 ^ 63 ∨ 2 ^ 63 - 1 < n := by
  unfold int64?
  split
  · next hrange => exact iff_of_false (by simp) (by omega)
  · next hrange => exact iff_of_true rfl (by omega)

namespace Value

/-- An integer of 64 bits stays an integer. -/
theorem ofInt_toInt (n : Int64) : ofInt n.toInt = .integer n := by
  rw [ofInt, int64?_eq_some_iff.mpr rfl]

/-! ### From values to documents and back -/

theorem plain_float_iff {x : Float} : (float x).Plain ↔ Binary64.isFinite x = true := by
  constructor
  · rintro ⟨⟩
    assumption
  · exact .float

theorem plain_array_iff {items : List Value} : (array items).Plain ↔ ∀ item ∈ items, item.Plain := by
  constructor
  · rintro ⟨⟩
    assumption
  · exact .array

theorem plain_hash_iff {entries : Entries Value} :
    (hash entries).Plain ↔ ∀ entry ∈ entries, entry.2.Plain := by
  constructor
  · rintro ⟨⟩
    assumption
  · exact .hash

mutual

/-- What a document says as it is comes back from it, and nothing else does. -/
theorem toValue_toDocument_iff : ∀ value : Value, value.toDocument.toValue = value ↔ value.Plain
  | .nil => iff_of_true rfl .nil
  | .boolean b => iff_of_true rfl (.boolean b)
  | .integer n => iff_of_true (ofInt_toInt n) (.integer n)
  | .float x => by
    rw [plain_float_iff, toDocument]
    cases hx : Binary64.isFinite x with
    | true => exact iff_of_true rfl rfl
    | false => exact iff_of_false (by simp [Document.toValue]) (by simp)
  | .string s => iff_of_true rfl (.string s)
  | .array items => by
    rw [plain_array_iff, toDocument, Document.toValue, array.injEq]
    exact itemValues_itemDocuments_iff items
  | .hash entries => by
    rw [plain_hash_iff, toDocument, Document.toValue, hash.injEq]
    exact memberValues_memberDocuments_iff entries
  | .decimal _ => iff_of_false (by simp [toDocument, Document.toValue]) nofun
  | .symbol _ => iff_of_false (by simp [toDocument, Document.toValue]) nofun
  | .date _ => iff_of_false (by simp [toDocument, Document.toValue]) nofun
  | .dateTime _ => iff_of_false (by simp [toDocument, Document.toValue]) nofun
  | .time _ => iff_of_false (by simp [toDocument, Document.toValue]) nofun
  | .bytes _ => iff_of_false (by simp [toDocument, Document.toValue]) nofun
  | .object _ => iff_of_false (by simp [toDocument, Document.toValue]) nofun

theorem itemValues_itemDocuments_iff : ∀ items : List Value,
    Document.itemValues (itemDocuments items) = items ↔ ∀ item ∈ items, item.Plain
  | [] => iff_of_true rfl fun item h => absurd h (by simp)
  | item :: rest => by
    rw [itemDocuments, Document.itemValues, List.cons.injEq, toValue_toDocument_iff item,
      itemValues_itemDocuments_iff rest, List.forall_mem_cons]

theorem memberValues_memberDocuments_iff : ∀ entries : List (String × Value),
    Document.memberValues (memberDocuments entries) = entries ↔ ∀ entry ∈ entries, entry.2.Plain
  | [] => iff_of_true rfl fun entry h => absurd h (by simp)
  | (key, value) :: rest => by
    rw [memberDocuments, Document.memberValues, List.cons.injEq, Prod.mk.injEq, eq_self_iff_true,
      true_and, toValue_toDocument_iff value, memberValues_memberDocuments_iff rest,
      List.forall_mem_cons]

end

end Value

/-! ### From documents to values and back -/

namespace Document

theorem exact_integer_iff {n : Int} : (integer n).Exact ↔ -2 ^ 63 ≤ n ∧ n ≤ 2 ^ 63 - 1 := by
  constructor
  · rintro ⟨⟩
    exact ⟨‹_›, ‹_›⟩
  · rintro ⟨low, high⟩
    exact .integer low high

theorem exact_real_iff {x : Float} : (real x).Exact ↔ Binary64.isFinite x = true := by
  constructor
  · rintro ⟨⟩
    assumption
  · exact .real

theorem exact_list_iff {items : List Document} : (list items).Exact ↔ ∀ item ∈ items, item.Exact := by
  constructor
  · rintro ⟨⟩
    assumption
  · exact .list

theorem exact_record_iff {members : List (String × Document)} :
    (record members).Exact ↔ ∀ member ∈ members, member.2.Exact := by
  constructor
  · rintro ⟨⟩
    assumption
  · exact .record

theorem toDocument_float (x : Float) :
    (Value.float x).toDocument = if Binary64.isFinite x then .real x else .null := rfl

/-- An integer that does not have 64 bits becomes a float, and no integer again. -/
theorem toDocument_ofInt_iff {n : Int} :
    (Value.ofInt n).toDocument = .integer n ↔ -2 ^ 63 ≤ n ∧ n ≤ 2 ^ 63 - 1 := by
  rw [Value.ofInt]
  cases hn : int64? n with
  | some k =>
    have hk : k.toInt = n := int64?_eq_some_iff.mp hn
    refine iff_of_true (congrArg integer hk) ?_
    rw [← hk]
    have hlow := k.le_toInt
    have hhigh := k.toInt_lt
    omega
  | none =>
    have hrange := int64?_eq_none_iff.mp hn
    refine iff_of_false ?_ (by omega)
    dsimp only
    rw [toDocument_float]
    split <;> simp

mutual

/-- Where all integers have 64 bits a document comes back from its value, and only there. -/
theorem toDocument_toValue_iff : ∀ document : Document,
    document.toValue.toDocument = document ↔ document.Exact
  | .null => iff_of_true rfl .null
  | .boolean b => iff_of_true rfl (.boolean b)
  | .integer n => by
    rw [exact_integer_iff, toValue]
    exact toDocument_ofInt_iff
  | .real x => by
    rw [exact_real_iff, toValue, toDocument_float]
    cases hx : Binary64.isFinite x with
    | true => exact iff_of_true rfl rfl
    | false => exact iff_of_false (by simp) (by simp)
  | .text s => iff_of_true rfl (.text s)
  | .list items => by
    rw [exact_list_iff, toValue, Value.toDocument, list.injEq]
    exact itemDocuments_itemValues_iff items
  | .record members => by
    rw [exact_record_iff, toValue, Value.toDocument, record.injEq]
    exact memberDocuments_memberValues_iff members

theorem itemDocuments_itemValues_iff : ∀ items : List Document,
    Value.itemDocuments (itemValues items) = items ↔ ∀ item ∈ items, item.Exact
  | [] => iff_of_true rfl fun item h => absurd h (by simp)
  | item :: rest => by
    rw [itemValues, Value.itemDocuments, List.cons.injEq, toDocument_toValue_iff item,
      itemDocuments_itemValues_iff rest, List.forall_mem_cons]

theorem memberDocuments_memberValues_iff : ∀ members : List (String × Document),
    Value.memberDocuments (memberValues members) = members ↔ ∀ member ∈ members, member.2.Exact
  | [] => iff_of_true rfl fun member h => absurd h (by simp)
  | (key, member) :: rest => by
    rw [memberValues, Value.memberDocuments, List.cons.injEq, Prod.mk.injEq, eq_self_iff_true,
      true_and, toDocument_toValue_iff member, memberDocuments_memberValues_iff rest,
      List.forall_mem_cons]

end

/-- **The conversions lose nothing of what both sides can say.** -/
theorem lossless_iff :
    (∀ value : Value, value.toDocument.toValue = value ↔ value.Plain) ∧
    (∀ document : Document, document.toValue.toDocument = document ↔ document.Exact) :=
  ⟨Value.toValue_toDocument_iff, toDocument_toValue_iff⟩

end Document

end Intake
