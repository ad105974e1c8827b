import ProtoModules.Text.Blank

/-!
# Options

The options of a run are written as one parameter text, a list of items with
commas between them.  An item is `key=value`; blanks around an item, a key or a
value do not count, and neither do empty items.  The only key is `extension`,
whose value is the ending of the generated file names.  Of several extensions
the last one holds.
-/

namespace ProtoModules

structure Options where
  extension : Text := ".mjs".toList
deriving DecidableEq, Repr

namespace Options

inductive Error where
  | invalidExtension (value : Text)
  | unknownOption (key parameter : Text)
deriving DecidableEq, Repr

def Error.message : Error -> Text
  | invalidExtension value =>
      "Invalid extension '".toList ++ value ++ "': expected a value like '.mjs'".toList
  | unknownOption key parameter =>
      "Unknown option '".toList ++ key ++ "' in parameter '".toList ++ parameter ++
        "'".toList

def extensionKey : Text := "extension".toList

def isExtension (value : Text) : Bool :=
  value.head? == some '.' && 2 <= value.length

def readEntry (parameter : Text) (options : Options) (item : Text) :
    Except Error Options :=
  let (key, value) :=
    match Text.cutFirst '=' item with
    | some (key, value) => (Text.trim key, some (Text.trim value))
    | none => (Text.trim item, none)
  if key = extensionKey then
    match value with
    | some value =>
        if isExtension value then .ok { options with extension := value }
        else .error (.invalidExtension value)
    | none => .error (.invalidExtension [])
  else .error (.unknownOption key parameter)

def readItem (parameter : Text) (options : Options) (item : Text) :
    Except Error Options :=
  match Text.trim item with
  | [] => .ok options
  | entry => readEntry parameter options entry

def ofParameter (parameter : Text) : Except Error Options :=
  (parameter.splitOn ',').foldlM (readItem parameter) {}

def extensionParameter (extension : Text) : Text :=
  extensionKey ++ '=' :: extension

end Options
end ProtoModules
