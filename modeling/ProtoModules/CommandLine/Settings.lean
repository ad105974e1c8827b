import ProtoModules.CommandLine.Token
import ProtoModules.Job

/-!
# Settings

The tokens of a command line fall into groups, each a flag with the values behind
it.  The groups are taken in order, and the first misuse is the one reported; a
flag that asks for help ends the reading.  When all groups are taken, an output
directory and a source must have been given, and no argument may be left over.
-/

namespace ProtoModules
namespace CommandLine

inductive Head where
  | flag (use : FlagUse)
  | unknown (text : Text)
deriving DecidableEq, Repr

structure Group where
  head : Head
  values : List Text
deriving DecidableEq, Repr

def groups : List Token -> List Text × List Group
  | [] => ([], [])
  | token :: rest =>
      let (values, others) := groups rest
      match token with
      | .bare text => (text :: values, others)
      | .flagged use => ([], ⟨.flag use, values⟩ :: others)
      | .unknown text => ([], ⟨.unknown text, values⟩ :: others)

structure Settings where
  descriptorSet : Option Text := none
  sources : Option (List Text) := none
  includeDirs : List Text := []
  out : Option (Option Text) := none
  files : List (Option Text) := []
  extension : Text := ({} : Options).extension
  leftOver : List Text := []
deriving DecidableEq, Repr

inductive Stop where
  | help
  | misuse (misuse : Misuse)
deriving DecidableEq, Repr

/--
Read the letters that are attached to a short request for help.  Each is a short
flag: a further request, or that of a search directory, whose value is the rest of
the letters or else stands behind them.
-/
def helpLetters (values : List Text) : Text -> Stop
  | [] => .help
  | 'h' :: rest => helpLetters values rest
  | ['I'] => if values.isEmpty then .misuse (.valueExpected .includeDir) else .help
  | 'I' :: _ => .help
  | letters => .misuse (.valueIgnored .help letters)

def helpStop (values : List Text) : Attachment -> Stop
  | .nothing => .help
  | .long value => .misuse (.valueIgnored .help value)
  | .short [] => .misuse (.valueIgnored .help [])
  | .short letters => helpLetters values letters

/-- How an empty list of values is written in place of a text. -/
def noValues : Text := "[]".toList

namespace Settings

def leave (settings : Settings) (arguments : List Text) : Settings :=
  { settings with leftOver := settings.leftOver ++ arguments }

/--
Store the value of a flag that takes one.  Without a value a path to read from is
empty, and the extension is what is written for no values.
-/
def store (settings : Settings) (flag : Flag) (value : Option Text) :
    Except Misuse Settings :=
  let path := value.getD []
  match flag with
  | .descriptorSet =>
      if settings.sources.isSome then .error (.conflict .descriptorSet .proto)
      else .ok { settings with descriptorSet := some path }
  | .includeDir => .ok { settings with includeDirs := settings.includeDirs ++ [path] }
  | .out => .ok { settings with out := some value }
  | .file => .ok { settings with files := settings.files ++ [value] }
  | .extension => .ok { settings with extension := value.getD noValues }
  | .help | .proto => .ok settings

def storeSources (settings : Settings) (values : List Text) : Except Misuse Settings :=
  if settings.descriptorSet.isSome then .error (.conflict .proto .descriptorSet)
  else .ok { settings with sources := some values }

def takeOne (settings : Settings) (use : FlagUse) (values : List Text) :
    Except Misuse Settings :=
  match use.attachment.values?, values with
  | some attached, others => return (<- settings.store use.flag attached.head?).leave others
  | none, value :: others => return (<- settings.store use.flag (some value)).leave others
  | none, [] => .error (.valueExpected use.flag)

def takeSources (settings : Settings) (use : FlagUse) (values : List Text) :
    Except Misuse Settings :=
  match use.attachment.values?, values with
  | some attached, others => return (<- settings.storeSources attached).leave others
  | none, [] => .error (.valuesExpected use.flag)
  | none, values => settings.storeSources values

def take (settings : Settings) (group : Group) : Except Stop Settings :=
  match group.head with
  | .unknown text => .ok (settings.leave (text :: group.values))
  | .flag use =>
      match use.flag.arity with
      | .none => .error (helpStop group.values use.attachment)
      | .one => (settings.takeOne use group.values).mapError Stop.misuse
      | .some => (settings.takeSources use group.values).mapError Stop.misuse

def job (settings : Settings) : Except Misuse Job :=
  match settings.out with
  | none => .error .outMissing
  | some out =>
      if settings.descriptorSet.isNone && settings.sources.isNone then
        .error .sourceMissing
      else if settings.leftOver ≠ [] then .error (.unrecognized settings.leftOver)
      else
        .ok {
          out
          descriptorSet := settings.descriptorSet.getD []
          sources := settings.sources.getD []
          includeDirs := settings.includeDirs
          files := settings.files
          extension := settings.extension }

end Settings

def parse (arguments : List Text) : Except Stop Job := do
  let (front, back) := arguments.span fun argument => argument ≠ separator
  let tokens <- (front.mapM Token.ofArgument).mapError Stop.misuse
  let (values, groups) := groups tokens
  let settings <- groups.foldlM Settings.take (Settings.leave {} values)
  ((settings.leave back).job).mapError Stop.misuse

end CommandLine
end ProtoModules
