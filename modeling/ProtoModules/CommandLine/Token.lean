import ProtoModules.CommandLine.Flag
import ProtoModules.Text.DecimalDigit

/-!
# Tokens of a command line

Each argument in front of a separating `--` is read on its own.  A flag may be
written in full or shortened as far as no other flag begins the same way, and a
value may be attached to it: after an equals sign, or directly to a short flag.
A separator is never a value, so a flag to which one is attached has no values.
An argument without a leading dash is a value, and so is a dash alone, a negative
number, and anything with a space in it that names no flag.
-/

namespace ProtoModules
namespace CommandLine

/-- The argument behind which nothing is a flag. -/
def separator : Text := "--".toList

/-- What is written together with a flag, which has a long or a short spelling. -/
inductive Attachment where
  | nothing
  | long (value : Text)
  | short (value : Text)
deriving DecidableEq, Repr

namespace Attachment

def ofSpelling (spelling value : Text) : Attachment :=
  if separator.isPrefixOf spelling then .long value else .short value

def values? : Attachment -> Option (List Text)
  | nothing => none
  | long value | short value => some (if value = separator then [] else [value])

end Attachment

structure FlagUse where
  flag : Flag
  attachment : Attachment
deriving DecidableEq, Repr

inductive Token where
  | bare (text : Text)
  | flagged (use : FlagUse)
  | unknown (text : Text)
deriving DecidableEq, Repr

namespace Token

def isNegativeNumber : Text -> Bool
  | '-' :: body =>
      let body := if body.getLast? = some '\n' then body.dropLast else body
      let isNumeral (digits : Text) := !digits.isEmpty && digits.all Text.isDecimalDigit
      match Text.cutFirst '.' body with
      | none => isNumeral body
      | some (whole, fraction) => whole.all Text.isDecimalDigit && isNumeral fraction
  | _ => false

def splitValue (argument : Text) : Text × Option Text :=
  match Text.cutFirst '=' argument with
  | some (name, value) => (name, some value)
  | none => (argument, none)

def use (spelling : Text) (flag : Flag) : Option Text -> FlagUse
  | none => ⟨flag, .nothing⟩
  | some value => ⟨flag, .ofSpelling spelling value⟩

/-- The flags that an argument may mean, each with its full spelling. -/
def candidates : Text -> List (Text × FlagUse)
  | '-' :: '-' :: rest =>
      let (start, value) := splitValue ('-' :: '-' :: rest)
      (Flag.spellings.filter fun (spelling, _) => start.isPrefixOf spelling).map
        fun (spelling, flag) => (spelling, use spelling flag value)
  | '-' :: letter :: rest =>
      (Flag.spellings.filter fun (spelling, _) => spelling = ['-', letter]).map
        fun (spelling, flag) => (spelling, use spelling flag (some rest))
  | _ => []

def spelledOut? (argument : Text) : Option FlagUse :=
  match Flag.ofSpelling? argument with
  | some flag => some (use argument flag none)
  | none =>
      let (name, value) := splitValue argument
      (Flag.ofSpelling? name).map fun flag => use name flag value

def ofArgument (argument : Text) : Except Misuse Token :=
  if argument.head? ≠ some '-' ∨ argument = ['-'] then .ok (.bare argument)
  else
    match spelledOut? argument with
    | some use => .ok (.flagged use)
    | none =>
        match candidates argument with
        | [(_, use)] => .ok (.flagged use)
        | [] =>
            if isNegativeNumber argument || argument.contains ' ' then
              .ok (.bare argument)
            else .ok (.unknown argument)
        | several => .error (.ambiguous argument (several.map Prod.fst))

end Token
end CommandLine
end ProtoModules
