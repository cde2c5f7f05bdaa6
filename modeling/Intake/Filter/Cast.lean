import Intake.DefinitionError
import Intake.Verdict

/-!
# Casting

How filters judge values.  A scalar filter takes what it can read.  What it cannot read is missing,
if it is nil and nil is not accepted, and invalid otherwise; the same holds of a value that is not
of the type of a container filter.

The default of a hash filter, where it is a hash, goes under the values that are cast: an entry of
the value stands before the entry of the default under the same key.

A lazy default may give another value each time it is resolved.  All functions here take the number
of times that the filter's default was resolved before; `castDraws` and `defaultDraws` tell how many
more times a cast and a default take.
-/

namespace Intake

/-- What becomes of a value that a filter cannot take: nil passes if nil is accepted. -/
def Head.fallback (head : Head) (value : Value) : Except CastError Value :=
  if value.isNil then
    if head.options.acceptsNil then .ok .nil else .error (.missing head.name)
  else
    .error (.invalid head.name value)

def Head.castScalar (head : Head) (rule : Scalar) (ctx : Context) (value : Value) :
    Except CastError Value :=
  match rule.read ctx value with
  | some value => .ok value
  | none => head.fallback value

/-- The entries that a hash filter casts: those of the value over those of the default. -/
def Head.merged (head : Head) (drawn : Nat) (entries : Entries Value) : Entries Value :=
  match head.options.default with
  | none => entries
  | some default =>
    match default.resolve drawn with
    | .hash defaults => Entries.insertAll defaults entries
    | _ => entries

/-- Whether an array filter reports the errors of its elements by index. -/
def Head.indexed (head : Head) (ctx : Context) : Bool :=
  head.options.indexErrors.getD (ctx.policy == .indexQualified)

/-- The entries that come out of a hash filter: its fields over the other entries, if these are
kept. -/
def Head.output (head : Head) (entries : Entries Value) (fields : List (String × Verdict)) :
    Entries Value :=
  Entries.insertAll (if head.options.strip then [] else entries)
    (fields.map fun (name, verdict) => (name, verdict.value))

namespace Filter

mutual

/-- The verdict of a filter on a value. -/
def judge (ctx : Context) (drawn : Nat) : Filter → Value → Verdict
  | scalar head rule, value => .leaf head (head.castScalar rule ctx value)
  | array head, value =>
    match value with
    | .array items => .leaf head (.ok (.array items))
    | value => .leaf head (head.fallback value)
  | arrayOf head element, value =>
    match value with
    | .array items => .array head (items.map (element.judge ctx drawn)) (head.indexed ctx)
    | value => .leaf head (head.fallback value)
  | hash head fields, value =>
    match value, fields with
    | .hash entries, [] => .leaf head (.ok (.hash entries))
    | .hash entries, field :: fields =>
      let entries := head.merged drawn entries
      let verdicts := judgeFields ctx drawn entries (field :: fields)
      .hash head (head.output entries verdicts) verdicts
    | value, _ => .leaf head (head.fallback value)

def judgeFields (ctx : Context) (drawn : Nat) (entries : Entries Value) :
    List Filter → List (String × Verdict)
  | [] => []
  | field :: rest =>
    (field.name, field.judge ctx drawn (entries.value field.name)) ::
      judgeFields ctx drawn entries rest

end

def cast (filter : Filter) (ctx : Context) (drawn : Nat) (value : Value) : Except CastError Value :=
  (filter.judge ctx drawn value).result

/-- How many times a cast resolves the default. -/
def castDraws : Filter → Value → Nat
  | hash head (_ :: _), .hash _ => if head.options.isOptional then 1 else 0
  | _, _ => 0

/-- The default of a filter, which has to pass the filter itself. -/
def default (filter : Filter) (ctx : Context) (drawn : Nat) : Except DefinitionError Value :=
  match filter.options.default with
  | none => .error (.noDefault filter.name)
  | some default =>
    let value := default.resolve drawn
    match filter.cast ctx (drawn + 1) value with
    | .ok value => .ok value
    | .error error => .error (.invalidDefault filter.name value (some error))

def defaultDraws (filter : Filter) (drawn : Nat) : Nat :=
  match filter.options.default with
  | none => 0
  | some default => 1 + filter.castDraws (default.resolve drawn)

inductive CleanError where
  | cast (error : CastError)
  | definition (error : DefinitionError)

def needsDefault (filter : Filter) (value : Value) : Bool :=
  value.isNil && filter.isOptional

/-- Casts a value and puts the default in the place of nil. -/
def clean (filter : Filter) (ctx : Context) (drawn : Nat) (value : Value) :
    Except CleanError Value :=
  match filter.cast ctx drawn value with
  | .error error => .error (.cast error)
  | .ok cleaned =>
    if filter.needsDefault cleaned then
      match filter.default ctx (drawn + filter.castDraws value) with
      | .ok value => .ok value
      | .error error => .error (.definition error)
    else
      .ok cleaned

def cleanDraws (filter : Filter) (ctx : Context) (drawn : Nat) (value : Value) : Nat :=
  let draws := filter.castDraws value
  match filter.cast ctx drawn value with
  | .error _ => draws
  | .ok cleaned =>
    if filter.needsDefault cleaned then draws + filter.defaultDraws (drawn + draws) else draws

end Filter

end Intake
