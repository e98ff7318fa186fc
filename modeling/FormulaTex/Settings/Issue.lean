import FormulaTex.Value.Spelling

/-!
# Issues of settings

What validation finds wrong with settings, and where. Every issue has a code for programs and a
message for people.
-/

namespace FormulaTex
namespace Settings

def wordBound : Nat := Nat.pow 2 63

/-- Integers of 64 bits with a sign. -/
def fitsWord (n : Int) : Bool :=
  decide (-(wordBound : Int) ≤ n) && decide (n < wordBound)

/-- A step on the way from the whole settings to the place of an issue. -/
inductive Place where
  | name (text : String)
  | number (n : Int)
deriving DecidableEq, Repr

namespace Place

/-- Keys that are integers of 64 bits, truth values included, are named by their number, and other
keys that are not texts by their spelling. -/
def ofKey : Scalar → Place
  | .str text => name text
  | .bool b => number (if b then 1 else 0)
  | .int n =>
    if fitsWord n then number n
    else if Number.isWritable n then name (toString n)
    else name "<unprintable int object>"
  | key => name key.spelled

end Place

inductive Problem where
  | notText
  | notUnicode
  | notInteger
  | unreadableInteger
  | integerTooLong
  | fraction
  | notFinite
  | belowOne
  | notMapping
  | notTruth
  | unreadableTruth
  | unknownField
  | keyNotText
  | notSettings
  | blankTag
  | blankFragments (tags : List String)
  | immutable
deriving DecidableEq, Repr

namespace Problem

def code : Problem → String
  | notText => "string_type"
  | notUnicode => "string_unicode"
  | notInteger => "int_type"
  | unreadableInteger => "int_parsing"
  | integerTooLong => "int_parsing_size"
  | fraction => "int_from_float"
  | notFinite => "finite_number"
  | belowOne => "greater_than_equal"
  | notMapping => "dict_type"
  | notTruth => "bool_type"
  | unreadableTruth => "bool_parsing"
  | unknownField => "extra_forbidden"
  | keyNotText => "invalid_key"
  | notSettings => "model_type"
  | blankTag => "value_error"
  | blankFragments _ => "value_error"
  | immutable => "frozen_instance"

def message : Problem → String
  | notText => "Input should be a valid string"
  | notUnicode => "Input should be a valid string, unable to parse raw data as a unicode string"
  | notInteger => "Input should be a valid integer"
  | unreadableInteger =>
    "Input should be a valid integer, unable to parse string as an integer"
  | integerTooLong => "Unable to parse input string as an integer, exceeded maximum size"
  | fraction => "Input should be a valid integer, got a number with a fractional part"
  | notFinite => "Input should be a finite number"
  | belowOne => "Input should be greater than or equal to 1"
  | notMapping => "Input should be a valid dictionary"
  | notTruth => "Input should be a valid boolean"
  | unreadableTruth => "Input should be a valid boolean, unable to interpret input"
  | unknownField => "Extra inputs are not permitted"
  | keyNotText => "Keys should be strings"
  | notSettings => "Input should be a valid dictionary or instance of RenderConfig"
  | blankTag => "Value error, symbol tags must not be blank"
  | blankFragments tags =>
    "Value error, symbol values must not be blank: " ++ ", ".intercalate tags
  | immutable => "Instance is frozen"

end Problem

structure Issue where
  place : List Place
  problem : Problem
deriving DecidableEq, Repr

namespace Issue

def within (step : Place) (issue : Issue) : Issue :=
  { issue with place := step :: issue.place }

/-- The headline of a report of issues. -/
def headline (issues : List Issue) : String :=
  toString issues.length ++ " validation error" ++ (if issues.length = 1 then "" else "s")
    ++ " for RenderConfig"

end Issue

/-- A checked part of the settings, or all that is wrong with it. -/
abbrev Checked (α : Type) := Except (List Issue) α

namespace Checked

def refuse {α : Type} (problem : Problem) : Checked α :=
  .error [⟨[], problem⟩]

def within {α : Type} (step : Place) (checked : Checked α) : Checked α :=
  checked.mapError fun issues => issues.map (Issue.within step)

def issues {α : Type} : Checked α → List Issue
  | .ok _ => []
  | .error issues => issues

end Checked

end Settings
end FormulaTex
