import Intake.Value

/-!
# Options

The options of a declared filter.  A kind of filter takes no notice of the options that do not
concern it.
-/

namespace Intake

/-- A function of the host that turns a raw value into one of its own, or fails for a reason. -/
abbrev Conversion := Value → Except String Value

/-- The default of an optional filter.  A lazy default gives a value of its own each time that it is
resolved: `supply n` is the value after `n` earlier times. -/
inductive Default where
  | fixed (value : Value)
  | lazy (supply : Nat → Value)

/-- The value of a default that was resolved `drawn` times before. -/
def Default.resolve (default : Default) (drawn : Nat) : Value :=
  match default with
  | fixed value => value
  | lazy supply => supply drawn

/-- How an object filter makes an instance of another value. -/
inductive Converter where
  /-- By a method of the class. -/
  | method (name : String)
  | function (convert : Conversion)

structure Options where
  /-- What stands in for a value that is not there; it makes the filter optional. -/
  default : Option Default := none
  /-- Whether nil is accepted though the filter is required. -/
  allowNil : Bool := false
  /-- Whether strings are trimmed and undeclared keys of hashes dropped. -/
  strip : Bool := true
  /-- The layout of dates and times. -/
  layout : Option String := none
  className : Option String := none
  /-- The class or module that an interface descends from. -/
  ancestor : Option String := none
  /-- The methods that make an interface. -/
  methods : List String := []
  /-- The significant digits of a decimal that is made of a float. -/
  digits : Option Nat := none
  /-- The method that finds records. -/
  finder : Option String := none
  converter : Option Converter := none
  /-- Whether an array reports every element error, whatever the policy is. -/
  indexErrors : Option Bool := none
  description : Option String := none

namespace Options

/-- A filter is optional when it has a default. -/
def isOptional (options : Options) : Bool :=
  options.default.isSome

def acceptsNil (options : Options) : Bool :=
  options.isOptional || options.allowNil

end Options

end Intake
