import ProtoModules.CamelCase
import ProtoModules.EsModule.Basic
import ProtoModules.Path.Relative

/-!
# Drafting the declarations of a module

A draft collects the declarations of a module and remembers which full name has
claimed which identifier.  The enums of a file come first.  A message claims its
identifier before everything inside it does, but its class follows theirs, since
the aliases of a class are read when the class is declared.
-/

namespace ProtoModules

open Schema

structure Draft where
  claims : List (Text × Text) := []
  declarations : List Declaration := []

namespace Draft

/-- The identifier of a declaration: flattened if it stands inside a message. -/
def identifierFor (package fullName : Text) (isNested : Bool) : Text :=
  if isNested then TypeName.flattened package fullName
  else Text.afterLast '.' fullName

def claim (file : File) (fullName : Text) (isNested : Bool) (draft : Draft) :
    Except Collision (Text × Draft) :=
  let identifier := identifierFor file.package fullName isNested
  match draft.claims.lookup identifier with
  | none =>
      .ok (identifier, { draft with claims := (identifier, fullName) :: draft.claims })
  | some other =>
      if other = fullName then .ok (identifier, draft)
      else .error ⟨other, fullName, file.name, identifier⟩

def emit (declaration : Declaration) (draft : Draft) : Draft :=
  { draft with declarations := draft.declarations ++ [declaration] }

def memberOf (scope : Scope) (field : Field) : Member where
  name := field.name
  propertyName := CamelCase.lower field.name
  methodSuffix := CamelCase.upper field.name
  number := field.number
  type := field.type
  label := field.label
  typeText := scope.typeOf field
  className := scope.classOf? field
  isMap := scope.isMap field

/--
Add an enum that stands inside the message with the given full name, or at the
top of the file when that name is empty.  The result starts with its identifier.
-/
def addEnum (scope : Scope) (parent : Text) (draft : Draft) (enum : Enum) :
    Except Collision (Text × Draft) := do
  let fullName := TypeName.full scope.file.package parent enum.name
  let isNested := !parent.isEmpty
  let (identifier, draft) <- draft.claim scope.file fullName isNested
  return (identifier, draft.emit (.enumeration {
    identifier
    name := enum.name
    fullName := TypeName.shown fullName
    values := enum.values
    exported := !isNested }))

/-- Add the enums of a list in turn.  The result starts with their aliases. -/
def addEnums (scope : Scope) (parent : Text) (draft : Draft) :
    List Enum -> Except Collision (List Alias × Draft)
  | [] => .ok ([], draft)
  | enum :: rest => do
      let (target, draft) <- addEnum scope parent draft enum
      let (aliases, draft) <- addEnums scope parent draft rest
      return (⟨enum.name, target⟩ :: aliases, draft)

mutual

/--
Add a message and everything inside it.  The message stands inside the one with
the given full name, or at the top of the file when that name is empty.
-/
def addMessage (scope : Scope) (parent : Text) (draft : Draft) :
    Message -> Except Collision (Text × Draft)
  | ⟨name, fields, nested, enums, _⟩ => do
      let fullName := TypeName.full scope.file.package parent name
      let isNested := !parent.isEmpty
      let (identifier, draft) <- draft.claim scope.file fullName isNested
      let (enumAliases, draft) <- addEnums scope fullName draft enums
      let (messageAliases, draft) <- addNested scope fullName draft nested
      return (identifier, draft.emit (.message {
        identifier
        name
        fullName := TypeName.shown fullName
        members := fields.map (memberOf scope)
        aliases := enumAliases ++ messageAliases
        exported := !isNested }))

def addNested (scope : Scope) (parent : Text) (draft : Draft) :
    List Message -> Except Collision (List Alias × Draft)
  | [] => .ok ([], draft)
  | message :: rest =>
      if message.isMapEntry then addNested scope parent draft rest
      else do
        let (target, draft) <- addMessage scope parent draft message
        let (aliases, draft) <- addNested scope parent draft rest
        return (⟨message.name, target⟩ :: aliases, draft)

end

def addMessages (scope : Scope) (draft : Draft) :
    List Message -> Except Collision Draft
  | [] => .ok draft
  | message :: rest => do
      let (_, draft) <- addMessage scope [] draft message
      addMessages scope draft rest

def ofScope (scope : Scope) : Except Collision Draft := do
  let (_, draft) <- addEnums scope [] {} scope.file.enums
  addMessages scope draft scope.file.messages

end Draft

namespace EsModule

def importOf (workDir : Path.Place) (file : File) (extension : Text) (group : ImportGroup) :
    Except BuildError Import :=
  match Path.specifier? workDir file.name group.fileName extension with
  | some path => .ok ⟨group.fileName, path, group.names⟩
  | none => .error .emptyModuleName

def ofFile (workDir : Path.Place) (registry : Registry) (extension : Text) (file : File) :
    Except BuildError EsModule := do
  let names := Imports.names registry file
  let imports <- (Imports.grouped names).mapM (importOf workDir file extension)
  let draft <- (Draft.ofScope { registry, file, names }).mapError BuildError.collision
  return { source := file.name, imports, declarations := draft.declarations }

end EsModule
end ProtoModules
