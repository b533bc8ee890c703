import Parley.Log
import Parley.Number.Numeral
import Parley.Text.Quoted

/-!
# Faults

A fault ends what is being done and reaches whoever asked for it. Faults arise in the surroundings of a
session, from numbers that are too long, and from files that cannot be used.
-/

namespace Parley

/-- Why something was given up. -/
inductive Fault where
  | raised (message : Text)
  /-- There is no more input to read. -/
  | endOfInput (message : Text)
  /-- An integer of this many digits was read, which are too many. -/
  | integerTooLong (digits : Nat)
  /-- An integer with too many digits was to be written. -/
  | integerTooLongToWrite
  | noNumeral (t : Text)
  /-- A condition was decided after its session had ended. -/
  | noSession
  /-- A query was to be asked after its window had been taken away. -/
  | noQueryPresenter
  /-- Settings are no object, or one that has to be a text is none. -/
  | badSettings
  /-- A file, or the folder of a file to be written, is missing. -/
  | missingFile
  /-- A file is no text. -/
  | undecodable
  /-- A file is no JSON text. -/
  | malformedJson
  /-- The values in a file stand inside too many others. -/
  | nestedTooDeep
  deriving DecidableEq, Repr, Inhabited

/-- What the messages about too many digits begin with. -/
def digitLimitPhrase : String :=
  "Exceeds the limit (4300 digits) for integer string conversion"

/-- What the messages about too many digits end with. -/
def digitLimitAdvice : String :=
  "; use sys.set_int_max_str_digits() to increase the limit"

/-- The message of a fault; some kinds have none of their own. -/
def Fault.message? : Fault → Option String
  | .raised message => some message.str
  | .endOfInput message => some message.str
  | .integerTooLong digits =>
    some (digitLimitPhrase ++ ": value has " ++ toString digits ++ " digits" ++ digitLimitAdvice)
  | .integerTooLongToWrite => some (digitLimitPhrase ++ digitLimitAdvice)
  | .noNumeral t =>
    some ("invalid literal for int() with base 10: " ++ Text.str ((Text.quoted t).take 200))
  | .noSession | .noQueryPresenter | .badSettings | .missingFile | .undecodable | .malformedJson
  | .nestedTooDeep => none

end Parley
