import AuctionHouse.Decimal.Parser
import AuctionHouse.Instant.Parser
import AuctionHouse.Item

/-!
# Options of a command

A command is given options by name: `--name value`, `--name=value`, or `--name` alone for a flag.
No option may be given twice, and nothing but options may be given.  A value that starts with a
dash can only be given behind an equals sign.
-/

namespace AuctionHouse

/-- The options that a command knows. -/
structure OptionNames where
  /-- The options that have a value. -/
  valued : List String
  /-- The options that have none. -/
  flags : List String := []

/-- The options that a command is given. -/
structure Options where
  values : List (String × String) := []
  flags : List String := []

namespace Options

/-- Whether a word can be a value on its own. -/
def isValue (word : String) : Bool :=
  match word.toList with
  | '-' :: _ :: _ => false
  | _ => true

/-- The name of an option, and the value behind its equals sign if it has one. -/
def named? (word : String) : Option (String × Option String) :=
  match word.toList with
  | '-' :: '-' :: body =>
    let name := String.ofList (body.takeWhile (· ≠ '='))
    match body.dropWhile (· ≠ '=') with
    | _ :: value => some (name, some (String.ofList value))
    | [] => some (name, none)
  | _ => none

/-- The options with a value for one more. -/
def withValue? (options : Options) (name value : String) : Option Options :=
  if (options.values.lookup name).isSome then none
  else some { options with values := (name, value) :: options.values }

/-- The options with one more flag. -/
def withFlag? (options : Options) (name : String) : Option Options :=
  if name ∈ options.flags then none else some { options with flags := name :: options.flags }

/-- Reads the options of a command.  Two dashes alone end them. -/
def read? (names : OptionNames) (options : Options) : List String → Option Options
  | [] => some options
  | ["--"] => some options
  | word :: rest =>
    match named? word with
    | none => none
    | some (name, value) =>
      if name ∈ names.flags then
        match value with
        | some _ => none
        | none => (options.withFlag? name).bind fun options => read? names options rest
      else if name ∈ names.valued then
        match value, rest with
        | some value, rest =>
          (options.withValue? name value).bind fun options => read? names options rest
        | none, value :: rest =>
          if isValue value then
            (options.withValue? name value).bind fun options => read? names options rest
          else none
        | none, [] => none
      else none

/-- Whether a flag is given. -/
def has (options : Options) (name : String) : Bool := name ∈ options.flags

/-- The value of an option that must be given. -/
def required {α : Type} (options : Options) (name : String) (read : String → Option α) :
    Option α :=
  options.values.lookup name >>= read

/-- The value of an option that need not be given. -/
def optional {α : Type} (options : Options) (name : String) (read : String → Option α) :
    Option (Option α) :=
  match options.values.lookup name with
  | some value => (read value).map some
  | none => some none

/-- The value of an option that has a default. -/
def withDefault {α : Type} (options : Options) (name : String) (read : String → Option α)
    (value : α) : Option α :=
  (options.optional name read).map (·.getD value)

/-- A number of 64 bits. -/
def number? (text : String) : Option Nat :=
  (Digits.unsigned? text.toList).filter (· < twoTo 64)

/-- The number of a round.  Zero may have a minus sign. -/
def round? (text : String) : Option Round := do
  let number ← Digits.signed? text.toList
  if 0 ≤ number ∧ number < twoTo 32 then some (.ofNat number.toNat) else none

/-- A number of 64 bits with a sign. -/
def signed? (text : String) : Option Int :=
  (Digits.signed? text.toList).filter fun number => -twoTo 63 ≤ number && number < twoTo 63

end Options

end AuctionHouse
