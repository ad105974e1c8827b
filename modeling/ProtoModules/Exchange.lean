import ProtoModules.Compile
import ProtoModules.Options

/-!
# Requests and responses

A compiler hands over a request: the whole set of files, the names of those that
modules are wanted for, and a parameter text.  The response holds either all
the modules or one error and no module.
-/

namespace ProtoModules

open Schema

structure Request where
  requested : List Text := []
  parameter : Text := []
  files : List File := []

structure Response where
  error : Option Text := none
  features : Nat := 0
  files : List OutputFile := []
deriving DecidableEq, Repr

namespace Response

/-- The feature number for optional fields with presence. -/
def optionalFields : Nat := 1

def failure (message : Text) : Response where
  error := some message
  features := optionalFields

def success (files : List OutputFile) : Response where
  features := optionalFields
  files := files

end Response

def Request.answer (workDir : Path.Place) (request : Request) : Response :=
  match Options.ofParameter request.parameter with
  | .error error => .failure error.message
  | .ok options =>
      match compile workDir request.files request.requested options.extension with
      | .error error => .failure error.message
      | .ok files => .success files

end ProtoModules
