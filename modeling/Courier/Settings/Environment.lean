import Courier.Fault
import Courier.Text.Numeral

/-
  This file defines the reading of settings from environment
  variables.  An unset variable leaves the default.

  Key definitions include:
    * `Environment`
    * `Environment.text`
    * `Environment.natural`
-/

namespace Courier

/- The texts of the variables that are set. -/
abbrev Environment :=
  String → Option String

namespace Environment

/- The text of a variable, or a default. -/
def text
    (env : Environment)
    (key : String)
    (default : String) : String :=
  (env key).getD default

/- The number that a variable holds, or a default. -/
def natural
    (env : Environment)
    (key : String)
    (default : UInt64) : Except Fault UInt64 :=
  match env key with
  | none => .ok default
  | some raw =>
      match Text.parseNatural? raw with
      | some n => .ok n
      | none =>
          .error (.config ("invalid value for " ++ key ++ ": " ++ raw))

end Environment

end Courier
