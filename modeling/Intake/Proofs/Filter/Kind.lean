import Intake.Filter.Scalar
import Intake.Proofs.Text.Trim

/-!
# The values of a kind

`Gives` says which values a kind of filter gives, a rule or two for each.  What a kind reads is one
of them, and all but records read every one of them as it is: looking up what was found may find
something else.
-/

namespace Intake.Scalar

def isRecord : Scalar → Bool
  | record _ _ => true
  | _ => false

/-- The values that a kind gives. -/
inductive Gives (ctx : Context) : Scalar → Value → Prop where
  | boolean (b : Bool) : Gives ctx boolean (.boolean b)
  | integer (n : Int64) : Gives ctx integer (.integer n)
  | float (x : Float) : Gives ctx float (.float x)
  | decimal (digits : Nat) (d : Decimal) : Gives ctx (decimal digits) (.decimal d)
  | string {strip : Bool} {s : String} (trimmed : strip = true → Text.Trimmed s) :
      Gives ctx (string strip) (.string s)
  | symbol (name : String) : Gives ctx symbol (.symbol name)
  | date (layout : Option String) (day : Calendar.Date) : Gives ctx (date layout) (.date day)
  | dateTime (layout : Option String) (moment : Calendar.Moment) :
      Gives ctx (dateTime layout) (.dateTime moment)
  /-- A time is shown in the active zone. -/
  | time (layout : Option String) {moment : Calendar.Moment}
      (zone : moment.offset = ctx.effectiveZone) : Gives ctx (time layout) (.time moment)
  | bytes (data : List UInt8) : Gives ctx file (.bytes data)
  /-- A file may be any object that can be read from. -/
  | readable {o : Object Value} (responds : o.respondsTo "read" = true) : Gives ctx file (.object o)
  | object {className : String} {convert : Option Conversion} {value : Value}
      (isInstance : value.isInstanceOf className = true) :
      Gives ctx (object className convert) value
  | record {className : String} {find : Conversion} {value : Value}
      (isInstance : value.isInstanceOf className = true) : Gives ctx (record className find) value
  /-- A record may be anything that is found, be it an instance of the class or not. -/
  | found {className : String} {find : Conversion} {raw value : Value}
      (finds : find raw = .ok value) (notNil : value ≠ .nil) :
      Gives ctx (record className find) value
  | descendant {name : String} {o : Object Value} (isA : o.isA name = true) :
      Gives ctx (interface (.ancestor name)) (.object o)
  | able {names : List String} {o : Object Value}
      (responds : ∀ name ∈ names, o.respondsTo name = true) :
      Gives ctx (interface (.methods names)) (.object o)

variable {ctx : Context} {rule : Scalar} {value result : Value}

theorem ne_nil_of_isInstanceOf {className : String} (h : value.isInstanceOf className = true) :
    value ≠ .nil := by
  rintro rfl
  exact absurd h (by simp [Value.isInstanceOf])

/-- No kind gives nil. -/
theorem Gives.ne_nil (h : rule.Gives ctx value) : value ≠ .nil := by
  cases h with
  | object isInstance => exact ne_nil_of_isInstanceOf isInstance
  | record isInstance => exact ne_nil_of_isInstanceOf isInstance
  | found _ notNil => exact notNil
  | _ => simp

/-! ### Objects -/

theorem isInstanceOf_of_readObject? {className : String} {convert : Option Conversion}
    (h : readObject? className convert value = some result) :
    result.isInstanceOf className = true := by
  unfold readObject? at h
  split at h
  · exact absurd h (by simp)
  · split at h
    · next hinstance =>
      rw [Option.some.injEq] at h
      exact h ▸ hinstance
    · split at h
      · exact absurd h (by simp)
      · split at h
        · split at h
          · next hinstance =>
            rw [Option.some.injEq] at h
            exact h ▸ hinstance
          · exact absurd h (by simp)
        · exact absurd h (by simp)

theorem readObject?_of_isInstanceOf {className : String} (convert : Option Conversion)
    (h : value.isInstanceOf className = true) :
    readObject? className convert value = some value := by
  have hnil : value.isNil = false := by
    cases value with
    | nil => exact absurd rfl (ne_nil_of_isInstanceOf h)
    | _ => rfl
  unfold readObject?
  rw [hnil, if_neg Bool.false_ne_true, if_pos h]

theorem gives_of_readRecord? {className : String} {find : Conversion}
    (h : readRecord? className find value = some result) :
    (record className find).Gives ctx result := by
  have hfound : ∀ raw, readRecord?.found? (find raw) = some result →
      (record className find).Gives ctx result := by
    intro raw hr
    unfold readRecord?.found? at hr
    split at hr
    · next found hfind =>
      split at hr
      · exact absurd hr (by simp)
      · next hnil =>
        rw [Option.some.injEq] at hr
        subst hr
        refine .found hfind ?_
        rintro rfl
        exact hnil rfl
    · exact absurd hr (by simp)
  unfold readRecord? at h
  split at h
  · next hinstance =>
    rw [Option.some.injEq] at h
    exact h ▸ .record hinstance
  · split at h
    · exact absurd h (by simp)
    · split at h
      · exact absurd h (by simp)
      · exact hfound _ h
    · exact hfound _ h

/-! ### What is read -/

/-- What a kind reads is a value of the kind. -/
theorem gives_of_read (hhost : ∀ read, rule ≠ .host read) (h : rule.read ctx value = some result) :
    rule.Gives ctx result := by
  cases rule with
  | boolean =>
    obtain ⟨b, _, rfl⟩ := Option.map_eq_some_iff.mp h
    exact .boolean b
  | integer =>
    obtain ⟨n, _, rfl⟩ := Option.map_eq_some_iff.mp h
    exact .integer n
  | float =>
    obtain ⟨x, _, rfl⟩ := Option.map_eq_some_iff.mp h
    exact .float x
  | decimal digits =>
    obtain ⟨d, _, rfl⟩ := Option.map_eq_some_iff.mp h
    exact .decimal digits d
  | string strip =>
    cases value with
    | string s =>
      obtain rfl := Option.some.inj h
      refine .string fun hstrip => ?_
      rw [hstrip, if_pos rfl]
      exact Text.trimmed_trim s
    | _ => exact absurd h (by simp [read])
  | symbol =>
    cases value with
    | string s =>
      obtain rfl := Option.some.inj h
      exact .symbol s
    | symbol name =>
      obtain rfl := Option.some.inj h
      exact .symbol name
    | _ => exact absurd h (by simp [read])
  | date layout =>
    obtain ⟨day, _, rfl⟩ := Option.map_eq_some_iff.mp h
    exact .date layout day
  | dateTime layout =>
    obtain ⟨moment, _, rfl⟩ := Option.map_eq_some_iff.mp h
    exact .dateTime layout moment
  | time layout =>
    obtain ⟨moment, _, rfl⟩ := Option.map_eq_some_iff.mp h
    exact .time layout rfl
  | file =>
    cases value with
    | bytes data =>
      obtain rfl := Option.some.inj h
      exact .bytes data
    | object o =>
      rw [read] at h
      split at h
      · next hresponds =>
        obtain rfl := Option.some.inj h
        exact .readable hresponds
      · exact absurd h (by simp)
    | _ => exact absurd h (by simp [read])
  | object className convert => exact .object (isInstanceOf_of_readObject? h)
  | record className find => exact gives_of_readRecord? h
  | interface target =>
    cases value with
    | object o =>
      rw [read] at h
      split at h
      · next haccepts =>
        obtain rfl := Option.some.inj h
        cases target with
        | ancestor name => exact .descendant haccepts
        | methods names => exact .able (List.all_eq_true.mp haccepts)
      · exact absurd h (by simp)
    | _ => exact absurd h (by simp [read])
  | host read => exact absurd rfl (hhost read)

/-- A value of a kind that does not look values up is read as it is. -/
theorem read_of_gives (hrecord : rule.isRecord = false) (h : rule.Gives ctx value) :
    rule.read ctx value = some value := by
  cases h with
  | @string strip s trimmed =>
    cases strip with
    | true => rw [read, if_pos rfl, Text.trim_of_trimmed (trimmed rfl)]
    | false => rfl
  | @time layout moment zone =>
    rw [read, readTime?, Option.map_some, Calendar.Moment.shownIn, ← zone]
  | readable responds => rw [read, if_pos responds]
  | object isInstance => exact readObject?_of_isInstanceOf _ isInstance
  | record => exact absurd hrecord (by simp [isRecord])
  | found => exact absurd hrecord (by simp [isRecord])
  | descendant isA => rw [read, Target.accepts, if_pos isA]
  | able responds => rw [read, Target.accepts, if_pos (List.all_eq_true.mpr responds)]
  | _ => rfl

end Intake.Scalar
