import ProtoModules.Compile
import ProtoModules.Proofs.AbsoluteNames
import ProtoModules.Proofs.FirstDeclarations
import ProtoModules.Proofs.Importing

/-!
# Type names with and without the leading dot

A module does not tell how the type names of the files were written.  Every use of a type name
looks it up, which makes it absolute first, or searches it for a mark that has no dot in it.  So a
set of files gives the modules of the set with absolute type names, and two sets that differ in
the leading dots of some type names give the same modules.
-/

namespace ProtoModules

open Schema

/-!
## Uses of a type name
-/

namespace TypeName

theorem absolute_absolute (typeName : Text) : absolute (absolute typeName) = absolute typeName := by
  have hdot : (absolute typeName).head? = some '.' := by
    rw [absolute_eq]
    split
    · assumption
    · rfl
  rw [absolute_eq (absolute typeName), if_pos hdot]

theorem includes_mapEntryMark_absolute (typeName : Text) :
    Text.includes Scope.mapEntryMark (absolute typeName) =
      Text.includes Scope.mapEntryMark typeName := by
  rw [absolute_eq]
  split
  · rfl
  · rw [Text.includes]
    rfl

end TypeName

theorem Registry.lookup_absoluteName (registry : Registry) (typeName : Text) :
    registry.lookup (TypeName.absolute typeName) = registry.lookup typeName := by
  rw [lookup, lookup, TypeName.absolute_absolute]

theorem Entry.message?_absolute (entry : Entry) :
    entry.absolute.message? = entry.message?.map Message.absolute := by
  unfold message? absolute
  cases entry.declared with
  | message declared => rfl
  | enumeration declared => rfl

namespace Scope

theorem fieldNamed?_absolute (message : Message) (name : String) :
    fieldNamed? message.absolute name = (fieldNamed? message name).map Field.absolute := by
  rw [fieldNamed?, fieldNamed?, Message.fields_absolute, ← List.map_reverse, List.find?_map]
  rfl

/-!
## Fields

The registries are those of a set of files and of the set with absolute type names.  What is said
of a field of a file in the one is said of the field with the absolute type name in the other.
-/

section Fields

variable {registry spelled : Registry}
  (hspelled : forall typeName,
    spelled.lookup typeName = (registry.lookup typeName).map Entry.absolute)
  (file : File) (names : List ImportName)

include hspelled

theorem reference_absolute (typeName : Text) :
    reference ⟨spelled, file.absolute, names⟩ typeName =
      reference ⟨registry, file, names⟩ typeName := by
  unfold reference
  rw [hspelled]
  cases registry.lookup typeName with
  | none => rfl
  | some entry => rfl

theorem reference_absoluteName (typeName : Text) :
    reference ⟨spelled, file.absolute, names⟩ (TypeName.absolute typeName) =
      reference ⟨registry, file, names⟩ typeName := by
  rw [reference_absolute hspelled]
  unfold reference
  rw [Registry.lookup_absoluteName]

theorem valueType_absolute (field : Field) :
    valueType ⟨spelled, file.absolute, names⟩ field.absolute =
      valueType ⟨registry, file, names⟩ field := by
  unfold valueType
  rw [Field.typeName_absolute, reference_absoluteName hspelled]
  rfl

theorem message?_lookup_absolute (field : Field) :
    (spelled.lookup field.absolute.typeName).bind Entry.message? =
      ((registry.lookup field.typeName).bind Entry.message?).map Message.absolute := by
  rw [Field.typeName_absolute, Registry.lookup_absoluteName, hspelled]
  cases registry.lookup field.typeName with
  | none => rfl
  | some entry => exact entry.message?_absolute

theorem isMap_absolute (field : Field) :
    isMap ⟨spelled, file.absolute, names⟩ field.absolute =
      isMap ⟨registry, file, names⟩ field := by
  unfold isMap
  simp only
  rw [message?_lookup_absolute hspelled]
  cases (registry.lookup field.typeName).bind Entry.message? with
  | none =>
      simp only [Option.map_none]
      rw [Field.typeName_absolute, TypeName.includes_mapEntryMark_absolute]
      rfl
  | some message =>
      simp only [Option.map_some, Message.isMapEntry_absolute]
      rfl

theorem entryFields?_absolute (field : Field) :
    entryFields? ⟨spelled, file.absolute, names⟩ field.absolute =
      (entryFields? ⟨registry, file, names⟩ field).map
        (Prod.map Field.absolute Field.absolute) := by
  simp only [entryFields?]
  rw [Field.typeName_absolute, Registry.lookup_absoluteName, hspelled]
  cases registry.lookup field.typeName with
  | none => rfl
  | some entry =>
      simp only [Option.map_some, Option.bind_eq_bind, Option.bind_some, Entry.message?_absolute]
      cases entry.message? with
      | none => rfl
      | some message =>
          simp only [Option.map_some, Option.bind_some, fieldNamed?_absolute]
          cases fieldNamed? message "key" with
          | none => rfl
          | some key =>
              cases fieldNamed? message "value" with
              | none => rfl
              | some value => rfl

theorem keyValueTypes_absolute (field : Field) :
    keyValueTypes ⟨spelled, file.absolute, names⟩ field.absolute =
      keyValueTypes ⟨registry, file, names⟩ field := by
  unfold keyValueTypes
  rw [entryFields?_absolute hspelled]
  cases entryFields? ⟨registry, file, names⟩ field with
  | none => rfl
  | some pair => simp only [Option.map_some, Prod.map, valueType_absolute hspelled]

theorem memberOf_absolute (field : Field) :
    Draft.memberOf ⟨spelled, file.absolute, names⟩ field.absolute =
      Draft.memberOf ⟨registry, file, names⟩ field := by
  simp only [Draft.memberOf, typeOf, classOf?, Field.typeName_absolute, isMap_absolute hspelled,
    keyValueTypes_absolute hspelled, valueType_absolute hspelled,
    reference_absoluteName hspelled]
  rfl

theorem needed_absolute (field : Field) :
    needed ⟨spelled, file.absolute, names⟩ field.absolute =
      (needed ⟨registry, file, names⟩ field).map TypeName.absolute := by
  have hnamed : forall field : Field,
      (if field.absolute.type.isDeclared then [field.absolute.typeName] else []) =
        (if field.type.isDeclared then [field.typeName] else []).map TypeName.absolute := by
    intro field
    rw [apply_ite (List.map TypeName.absolute)]
    rfl
  simp only [needed]
  rw [isMap_absolute hspelled, entryFields?_absolute hspelled, apply_ite (List.map _), hnamed]
  cases entryFields? ⟨registry, file, names⟩ field with
  | none => rfl
  | some pair => simp only [Option.map_some, Prod.map, hnamed]

end Fields

end Scope

/-!
## Modules
-/

theorem Site.message?_absolute (site : Site) :
    site.absolute.message? = site.message?.map Message.absolute := by
  unfold message? absolute
  cases site.declared with
  | message declared => rfl
  | enumeration declared => rfl

namespace Imports

theorem scannedAll_absolute (messages : List Message) :
    scannedAll (messages.map Message.absolute) = (scannedAll messages).map Message.absolute := by
  rw [scannedAll_eq 0, scannedAll_eq 0, ← Message.absoluteAll_eq_map,
    Traversal.ofMessages_absolute, Site.filter_absolute Site.isKept_absolute, List.filterMap_map,
    List.map_filterMap]
  exact List.filterMap_congr fun site _ => site.message?_absolute

section Names

variable {registry spelled : Registry}
  (hspelled : forall typeName,
    spelled.lookup typeName = (registry.lookup typeName).map Entry.absolute)
  (file : File)

include hspelled

theorem foreign?_absolute (fileName typeName : Text) :
    (spelled.foreign? fileName (TypeName.absolute typeName)).map ImportKey.ofEntry =
      (registry.foreign? fileName typeName).map ImportKey.ofEntry := by
  rw [Registry.foreign?, Registry.foreign?, Registry.lookup_absoluteName, hspelled]
  cases registry.lookup typeName with
  | none => rfl
  | some entry =>
      have hfile : entry.absolute.fileName = entry.fileName := rfl
      rw [Option.map_some, Option.filter_some, Option.filter_some, hfile]
      split
      · rfl
      · rfl

theorem keys_absolute : keys spelled file.absolute = keys registry file := by
  have hfields : (scannedAll file.absolute.messages).flatMap Message.fields =
      ((scannedAll file.messages).flatMap Message.fields).map Field.absolute := by
    rw [File.absolute, scannedAll_absolute, List.flatMap_map, List.map_flatMap]
    exact List.flatMap_congr fun message _ => message.fields_absolute
  have hneeded : forall fields : List Field,
      (fields.map Field.absolute).flatMap
          (Scope.needed { registry := spelled, file := file.absolute }) =
        (fields.flatMap (Scope.needed { registry, file })).map TypeName.absolute := by
    intro fields
    rw [List.flatMap_map, List.map_flatMap]
    exact List.flatMap_congr fun field _ => Scope.needed_absolute hspelled file [] field
  simp only [keys]
  rw [hfields, hneeded, List.filterMap_map, List.map_filterMap, List.map_filterMap]
  apply congrArg
  exact List.filterMap_congr fun typeName _ => foreign?_absolute hspelled file.name typeName

theorem names_absolute : names spelled file.absolute = names registry file := by
  have hdeclared : declaredNames file.absolute = declaredNames file := by
    simp [declaredNames, File.absolute, Function.comp_def]
  rw [names, names, keys_absolute hspelled, hdeclared]

end Names

end Imports

namespace Draft

theorem register_absolute (file : File) (claims : List (Text × Text)) (site : Site) :
    register file.absolute claims site.absolute = register file claims site := by
  have hpackage : file.absolute.package = file.package := rfl
  simp only [register, hpackage, Site.label_absolute, Site.fullName_absolute]
  rfl

theorem registerAll_absolute (file : File) (sites : List Site) :
    registerAll file.absolute [] (sites.map Site.absolute) = registerAll file [] sites := by
  rw [registerAll, registerAll, List.foldlM_map]
  simp only [register_absolute]

theorem aliasOf_absolute (package : Text) (site : Site) :
    aliasOf package site.absolute = aliasOf package site := by
  have hname : site.absolute.declared.name = site.declared.name := site.declared.name_absolute
  rw [aliasOf, aliasOf, Site.label_absolute, hname]

section Declarations

variable {registry spelled : Registry}
  (hspelled : forall typeName,
    spelled.lookup typeName = (registry.lookup typeName).map Entry.absolute)
  (file : File) (names : List ImportName)

include hspelled

theorem unitOf_absolute (site : Site) :
    unitOf ⟨spelled, file.absolute, names⟩ site.absolute =
      unitOf ⟨registry, file, names⟩ site := by
  have hpackage : file.absolute.package = file.package := rfl
  have htop : site.absolute.around.isEmpty = site.around.isEmpty := List.isEmpty_map
  have hinside : site.absolute.declared = site.declared.absolute := rfl
  unfold unitOf
  simp only [hpackage, htop, hinside, Site.label_absolute, Site.fullName_absolute]
  cases site.declared with
  | enumeration enum => rfl
  | message message =>
      have hmembers : message.absolute.fields.map
            (memberOf ⟨spelled, file.absolute, names⟩) =
          message.fields.map (memberOf ⟨registry, file, names⟩) := by
        rw [Message.fields_absolute, List.map_map]
        exact List.map_congr_left fun field _ => Scope.memberOf_absolute hspelled file names field
      have haliases : site.absolute.children.map (aliasOf file.package) =
          site.children.map (aliasOf file.package) := by
        rw [Site.children_absolute, List.map_map]
        exact List.map_congr_left fun inner _ => aliasOf_absolute file.package inner
      simp only [Declared.absolute, Message.name_absolute, hmembers, haliases]

theorem ofScope_absolute :
    ofScope ⟨spelled, file.absolute, names⟩ = ofScope ⟨registry, file, names⟩ := by
  have hclaimed : claimed file.absolute = (claimed file).map Site.absolute := by
    rw [claimed, claimed, Traversal.ofFile_absolute, Site.filter_absolute Site.isEmitted_absolute]
  have hemitted : emitted file.absolute = (emitted file).map Site.absolute := by
    rw [emitted, emitted, Traversal.ofFile_absolute, Site.filter_absolute Site.isEmitted_absolute]
  have hunits : (emitted file.absolute).map (unitOf ⟨spelled, file.absolute, names⟩) =
      (emitted file).map (unitOf ⟨registry, file, names⟩) := by
    rw [hemitted, List.map_map]
    exact List.map_congr_left fun site _ => unitOf_absolute hspelled file names site
  rw [ofScope_eq, ofScope_eq]
  simp only [hclaimed, hunits, registerAll_absolute]

end Declarations

end Draft

section Modules

variable {registry spelled : Registry}
  (hspelled : forall typeName,
    spelled.lookup typeName = (registry.lookup typeName).map Entry.absolute)
  (workDir : Path.Place) (extension : Text) (file : File)

include hspelled

theorem EsModule.ofFile_absolute :
    ofFile workDir spelled extension file.absolute = ofFile workDir registry extension file := by
  simp only [ofFile, Imports.names_absolute hspelled, Draft.ofScope_absolute hspelled]
  rfl

theorem compileFile_absolute :
    compileFile workDir spelled extension file.absolute =
      compileFile workDir registry extension file := by
  rw [compileFile, compileFile, EsModule.ofFile_absolute hspelled]
  rfl

end Modules

/-- A set of files has the modules of the set with absolute type names. -/
theorem compile_absolute (workDir : Path.Place) (files : List File) (requested : List Text)
    (extension : Text) :
    compile workDir (files.map File.absolute) requested extension =
      compile workDir files requested extension := by
  simp only [compile]
  rw [List.filter_map, List.mapM_map]
  congr 1
  funext file
  exact compileFile_absolute (Registry.lookup_absolute files) workDir extension file

/-!
## Files with other spellings
-/

namespace Schema

def Field.Respelled (field other : Field) : Prop :=
  other = field ∨ other = field.absolute

/-- Messages whose fields are those of others at every depth, but for dots before type names. -/
inductive Message.Respelled : List Message -> List Message -> Prop where
  | nil : Message.Respelled [] []
  | cons {first second : Message} {rest others : List Message} :
      second.name = first.name ->
      List.Forall₂ Field.Respelled first.fields second.fields ->
      Message.Respelled first.nested second.nested ->
      second.enums = first.enums ->
      second.isMapEntry = first.isMapEntry ->
      Message.Respelled rest others ->
      Message.Respelled (first :: rest) (second :: others)

structure File.Respelled (file other : File) : Prop where
  name_eq : other.name = file.name
  package_eq : other.package = file.package
  enums_eq : other.enums = file.enums
  messages : Message.Respelled file.messages other.messages

theorem Field.Respelled.refl (field : Field) : field.Respelled field :=
  Or.inl rfl

theorem Field.Respelled.absolute_eq {field other : Field} (hfield : field.Respelled other) :
    field.absolute = other.absolute := by
  rcases hfield with rfl | rfl
  · rfl
  · rw [absolute, absolute, TypeName.absolute_absolute]

theorem Message.Respelled.map_absolute_eq {messages others : List Message}
    (hmessages : Message.Respelled messages others) :
    messages.map Message.absolute = others.map Message.absolute := by
  induction hmessages with
  | nil => rfl
  | @cons first second rest others hname hfields _ henums hmark _ ihnested ihrest =>
      have hspelled : first.fields.map Field.absolute = second.fields.map Field.absolute := by
        rw [← List.forall₂_eq_eq_eq, List.forall₂_map_left_iff, List.forall₂_map_right_iff]
        exact hfields.imp fun _ _ hfield => hfield.absolute_eq
      have hfirst : first.absolute = second.absolute := by
        rw [absolute_eq, absolute_eq, hname, henums, hmark, hspelled, ihnested]
      rw [List.map_cons, List.map_cons, hfirst, ihrest]

theorem File.Respelled.absolute_eq {file other : File} (hfile : file.Respelled other) :
    file.absolute = other.absolute := by
  rw [absolute, absolute, hfile.messages.map_absolute_eq, hfile.name_eq, hfile.package_eq,
    hfile.enums_eq]

end Schema

/--
Whether a type name is written with a leading dot makes no difference.  A set of files gives the
same modules, or the same failure, when a dot is put in front of any of its type names that have
none, in fields of messages at any depth and of map entries.
-/
theorem compile_eq_of_respelled {files others : List File}
    (hfiles : List.Forall₂ File.Respelled files others) (workDir : Path.Place)
    (requested : List Text) (extension : Text) :
    compile workDir others requested extension = compile workDir files requested extension := by
  have hspelled : files.map File.absolute = others.map File.absolute := by
    rw [← List.forall₂_eq_eq_eq, List.forall₂_map_left_iff, List.forall₂_map_right_iff]
    exact hfiles.imp fun _ _ hfile => hfile.absolute_eq
  rw [← compile_absolute, ← compile_absolute workDir files, hspelled]

/-- A map whose values are of a type of another file, with the type names as they are given. -/
def mapFile (entryName valueName : Text) : File where
  name := ['f']
  package := ['p']
  messages := [
    { name := ['A']
      fields := [{ name := ['x'], label := .repeated, type := .message, typeName := entryName }]
      nested := [
        { name := ['E']
          fields := [
            { name := "key".toList, type := .string },
            { name := "value".toList, type := .message, typeName := valueName }]
          isMapEntry := true }] }]

def valueFile : File where
  name := ['g']
  package := ['q']
  messages := [{ name := ['B'] }]

theorem compile_of_mapFile :
    exists modules,
      compile [] [mapFile "p.A.E".toList "q.B".toList, valueFile] [['f']] ['.', 'm'] = .ok modules ∧
      compile [] [mapFile "p.A.E".toList ".q.B".toList, valueFile] [['f']] ['.', 'm'] =
        .ok modules := by
  have hmap : File.Respelled (mapFile "p.A.E".toList "q.B".toList)
      (mapFile "p.A.E".toList ".q.B".toList) := by
    have hvalue : List.Forall₂ Field.Respelled
        [{ name := "key".toList, type := .string },
          { name := "value".toList, type := .message, typeName := "q.B".toList }]
        [{ name := "key".toList, type := .string },
          { name := "value".toList, type := .message, typeName := ".q.B".toList }] :=
      .cons (.refl _) (.cons (Or.inr rfl) .nil)
    exact ⟨rfl, rfl, rfl, .cons rfl (.cons (.refl _) .nil)
      (.cons rfl hvalue .nil rfl rfl .nil) rfl rfl .nil⟩
  have hvalueFile : File.Respelled valueFile valueFile :=
    ⟨rfl, rfl, rfl, .cons rfl .nil .nil rfl rfl .nil⟩
  have hmodules : compile [] [mapFile "p.A.E".toList "q.B".toList, valueFile] [['f']] ['.', 'm'] =
      .ok ((compile [] [mapFile "p.A.E".toList "q.B".toList, valueFile] [['f']]
        ['.', 'm']).toOption.getD []) := by
    rfl
  refine ⟨_, hmodules, ?_⟩
  rw [compile_eq_of_respelled (.cons hmap (.cons hvalueFile .nil))]
  exact hmodules

end ProtoModules
