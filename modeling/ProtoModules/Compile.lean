import ProtoModules.EsModule.Draft
import ProtoModules.EsModule.Layout

/-!
# Compiling files

The files of a set are compiled together: all of them give types, and those that
are requested give a module each, in the order of the set.
-/

namespace ProtoModules

open Schema

structure OutputFile where
  name : Text
  content : Text
deriving DecidableEq, Repr

def compileFile (workDir : Path.Place) (registry : Registry) (extension : Text) (file : File) :
    Except BuildError OutputFile := do
  let esModule <- EsModule.ofFile workDir registry extension file
  return { name := Path.withExtension file.name extension, content := esModule.text }

def compile (workDir : Path.Place) (files : List File) (requested : List Text)
    (extension : Text) : Except BuildError (List OutputFile) :=
  let registry := Registry.ofFiles files
  (files.filter fun file => requested.contains file.name).mapM
    (compileFile workDir registry extension)

end ProtoModules
