import ProtoModules.Text.Uppercase

/-!
# Camel case

Field names are written with underscores between their words; the members of a
generated class are not.  A property name keeps the first word as it stands, and
the suffix of an accessor method capitalises every word.  Empty words, which
leading, trailing or doubled underscores give rise to, contribute nothing.
-/

namespace ProtoModules
namespace CamelCase

def words (name : Text) : List Text :=
  name.splitOn '_'

/-- Every word capitalised: the suffix of a field's accessor methods. -/
def upper (name : Text) : Text :=
  (words name).flatMap Text.capitalize

/-- Every word but the first capitalised: the property name of a field. -/
def lower (name : Text) : Text :=
  match words name with
  | [] => []
  | first :: rest => first ++ rest.flatMap Text.capitalize

end CamelCase
end ProtoModules
