import ProtoModules.EsModule.Layout
import ProtoModules.Proofs.Answers
import ProtoModules.Proofs.PlainNames

/-!
# Plain files make plain modules

What a module shows of the names of its files is again a name or keeps to one line: the
identifiers it declares and imports, the members of its classes, the types of fields and
the paths of other modules.  Each part is followed from the files to the module.
-/

namespace ProtoModules

open Schema

/-!
## Paths
-/

namespace Path

theorem mem_of_mem_relative {start target : Place} {c : Char} (hc : c ∈ relative start target) :
    c = '.' ∨ c = '/' ∨ exists part, part ∈ target ∧ c ∈ part := by
  have habove : forall {part : Text}, part = above -> c ∈ part -> c = '.' := by
    rintro part rfl hc
    simpa [above] using hc
  have hparts : forall part, part ∈ route start target -> c ∈ part ->
      c = '.' ∨ exists part, part ∈ target ∧ c ∈ part := by
    rcases diverge_append start target with ⟨common, _, hdown⟩
    intro part hpart hc
    rcases List.mem_append.mp hpart with hup | hpart
    · rcases List.mem_map.mp hup with ⟨_, _, heq⟩
      exact Or.inl (habove heq.symm hc)
    · refine Or.inr ⟨part, ?_, hc⟩
      rw [hdown]
      exact List.mem_append_right common hpart
  unfold relative at hc
  cases hroute : route start target with
  | nil =>
      rw [hroute] at hc
      exact Or.inl (List.mem_singleton.mp hc)
  | cons first rest =>
      rw [hroute] at hparts hc
      rcases Text.mem_of_mem_joined hc with hslash | ⟨part, hpart, hc⟩
      · exact Or.inr (Or.inl (List.mem_singleton.mp hslash))
      · exact (hparts part hpart hc).imp_right Or.inr

theorem mem_of_mem_stem {path : Text} {c : Char} (hc : c ∈ stem path) : c ∈ path := by
  rw [← stem_append_extension path]
  exact List.mem_append_left _ hc

/-- Where the characters of a specifier come from. -/
theorem mem_of_mem_specifier {workDir : Place} {current target extension path : Text}
    (hpath : specifier? workDir current target extension = some path) {c : Char}
    (hc : c ∈ path) :
    c = '.' ∨ c = '/' ∨ c ∈ target ∨ c ∈ extension ∨
      exists part, part ∈ workDir ∧ c ∈ part := by
  have hplaces : forall part, part ∈ place workDir (withExtension target extension) ->
      c ∈ part -> c ∈ target ∨ c ∈ extension ∨ exists part, part ∈ workDir ∧ c ∈ part := by
    intro part hpart hc
    rcases mem_of_mem_foldl_step hpart with hcomponent | hstart
    · rcases List.mem_append.mp (Text.mem_of_mem_splitOn hcomponent hc) with hstem | hextension
      · exact Or.inl (mem_of_mem_stem hstem)
      · exact Or.inr (Or.inl hextension)
    · split at hstart
      · cases hstart
      · exact Or.inr (Or.inr ⟨part, hstart, hc⟩)
  have hrelative : forall {start : Place},
      c ∈ relative start (place workDir (withExtension target extension)) ->
      c = '.' ∨ c = '/' ∨ c ∈ target ∨ c ∈ extension ∨
        exists part, part ∈ workDir ∧ c ∈ part := by
    intro start hc
    rcases mem_of_mem_relative hc with hdot | hslash | ⟨part, hpart, hc⟩
    · exact Or.inl hdot
    · exact Or.inr (Or.inl hslash)
    · exact Or.inr (Or.inr (hplaces part hpart hc))
  simp only [specifier?] at hpath
  split at hpath
  · cases hpath
  · cases hpath
    split at hc
    · exact hrelative hc
    · rcases List.mem_append.mp hc with hfront | hc
      · have hmarks : c = '.' ∨ c = '/' := by simpa using hfront
        exact hmarks.imp_right Or.inl
      · exact hrelative hc

end Path

/-!
## Plain files
-/

def Declared.memberNames : Declared -> List Text
  | .message declared => declared.fields.map Field.name
  | .enumeration declared => declared.values.map EnumValue.name

/--
What is required of a file for its module to be readable: names that are names, dots
between the names of a package, and no line break in the name of the file.
-/
structure PlainFile (file : File) : Prop where
  fileName : '\n' ∉ file.name
  package : Text.isDotted file.package = true
  names : forall site, site ∈ Traversal.messagesFirst.ofFile file ->
    forall name, name ∈ site.names ++ site.declared.memberNames -> Text.isName name = true

namespace PlainFile

variable {file : File} {site : Site}

theorem isName_of_mem_names (hplain : PlainFile file) (hsite : site.StandsIn file) {name : Text}
    (hname : name ∈ site.names) : Text.isName name = true :=
  hplain.names site (Traversal.mem_ofFile.mpr hsite) name (List.mem_append_left _ hname)

theorem isName_of_mem_memberNames (hplain : PlainFile file) (hsite : site.StandsIn file)
    {name : Text} (hname : name ∈ site.declared.memberNames) : Text.isName name = true :=
  hplain.names site (Traversal.mem_ofFile.mpr hsite) name (List.mem_append_right _ hname)

theorem isName_name (hplain : PlainFile file) (hsite : site.StandsIn file) :
    Text.isName site.declared.name = true :=
  hplain.isName_of_mem_names hsite (List.mem_append_right _ List.mem_cons_self)

theorem isDotted_path (hplain : PlainFile file) (hsite : site.StandsIn file) :
    Text.isDotted site.path = true := by
  rw [Text.isDotted_iff]
  intro c hc
  rcases Text.mem_of_mem_joined hc with hdot | ⟨name, hname, hc⟩
  · exact Or.inr (List.mem_singleton.mp hdot)
  · exact Or.inl (Text.isName_iff.mp (hplain.isName_of_mem_names hsite hname) c hc)

theorem isDotted_fullName (hplain : PlainFile file) (hsite : site.StandsIn file) :
    Text.isDotted (site.fullName file.package) = true := by
  have hpath := Text.isDotted_iff.mp (hplain.isDotted_path hsite)
  have hpackage := Text.isDotted_iff.mp hplain.package
  rw [Site.fullName_eq_cons, Text.isDotted_iff, List.forall_mem_cons]
  refine ⟨Or.inr rfl, ?_⟩
  unfold Site.bareName
  split
  · exact hpath
  · rw [List.forall_mem_append, List.forall_mem_cons]
    exact ⟨hpackage, Or.inr rfl, hpath⟩

theorem isName_label (hplain : PlainFile file) (hsite : site.StandsIn file) :
    Text.isName (site.label file.package) = true := by
  unfold Site.label Draft.identifierFor
  split
  · rw [Text.isName_iff]
    intro c hc
    rcases TypeName.mem_of_mem_flattened hc with rfl | ⟨hmem, hdot⟩
    · rfl
    · exact (Text.isDotted_iff.mp (hplain.isDotted_fullName hsite) c hmem).resolve_right hdot
  · have hname := hplain.isName_name hsite
    rcases site.exists_fullName_eq_append file.package with ⟨before, hfull⟩
    rw [hfull, Text.afterLast_append before (Text.not_mem_of_isName hname rfl)]
    exact hname

end PlainFile

/-!
## Declared types and imported names
-/

structure Entry.Plain (entry : Entry) : Prop where
  fileName : '\n' ∉ entry.fileName
  fullName : Text.isDotted entry.fullName = true
  path : Text.isDotted entry.path = true

theorem Registry.plain_of_lookup {files : List File}
    (hfiles : forall file, file ∈ files -> PlainFile file) {typeName : Text} {entry : Entry}
    (hlookup : (ofFiles files).lookup typeName = some entry) : entry.Plain := by
  rcases exists_site_of_lookup hlookup with ⟨file, site, hfile, hsite, rfl⟩
  have hplain := hfiles file hfile
  exact ⟨hplain.fileName, hplain.isDotted_fullName hsite, hplain.isDotted_path hsite⟩

structure ImportName.Plain (name : ImportName) : Prop where
  fileName : '\n' ∉ name.fileName
  identifier : Text.isName name.identifier = true
  localName : forall c, c ∈ name.localName -> Text.isNameChar c = true ∨ c = '$'

namespace Imports

theorem isName_fileAlias (fileName : Text) : Text.isName (fileAlias fileName) = true := by
  rw [Text.isName_iff]
  intro c hc
  rcases List.mem_map.mp hc with ⟨old, _, rfl⟩
  split
  · rename_i hword
    exact Text.isNameChar_of_isWordChar hword
  · rfl

theorem localName_of_mem_choose {taken : List Text} {keys : List ImportKey} {name : ImportName}
    (hname : name ∈ choose taken keys) :
    name.localName = name.identifier ∨
      name.localName = name.identifier ++ '$' :: fileAlias name.fileName := by
  induction keys generalizing taken with
  | nil => cases hname
  | cons key rest ih =>
      rcases List.mem_cons.mp hname with rfl | hname
      · simp only
        split
        · exact Or.inr rfl
        · exact Or.inl rfl
      · exact ih hname

theorem plain_of_mem_names {files : List File}
    (hfiles : forall file, file ∈ files -> PlainFile file) {file : File} {name : ImportName}
    (hname : name ∈ names (Registry.ofFiles files) file) : name.Plain := by
  have hkey : name.key ∈ keys (Registry.ofFiles files) file := by
    rw [← map_key_names]
    exact List.mem_map_of_mem hname
  rcases mem_keys.mp hkey with ⟨_, _, _, _, typeName, _, entry, hentry, hsame⟩
  have hplain := Registry.plain_of_lookup hfiles (Registry.foreign?_eq_some_iff.mp hentry).1
  have hfile : name.fileName = entry.fileName := congrArg ImportKey.fileName hsame
  have hidentifier : name.identifier = entry.identifier := congrArg ImportKey.identifier hsame
  have hword : Text.isName name.identifier = true := by
    rw [hidentifier]
    exact Text.isName_beforeFirst hplain.path
  refine ⟨hfile ▸ hplain.fileName, hword, ?_⟩
  intro c hc
  rcases localName_of_mem_choose hname with hlocal | hlocal
  · rw [hlocal] at hc
    exact Or.inl (Text.isName_iff.mp hword c hc)
  · rw [hlocal] at hc
    rcases List.mem_append.mp hc with hc | hc
    · exact Or.inl (Text.isName_iff.mp hword c hc)
    · rcases List.mem_cons.mp hc with hdollar | hc
      · exact Or.inr hdollar
      · exact Or.inl (Text.isName_iff.mp (isName_fileAlias _) c hc)

end Imports

/-!
## Types of fields
-/

namespace Scope

variable {files : List File} {file : File}

theorem newline_not_mem_reference (hfiles : forall file, file ∈ files -> PlainFile file)
    (typeName : Text) :
    '\n' ∉ (Scope.ofFile (Registry.ofFiles files) file).reference typeName := by
  unfold reference
  cases hlookup : (Scope.ofFile (Registry.ofFiles files) file).registry.lookup typeName with
  | none => exact of_decide_eq_true rfl
  | some entry =>
      have hplain := Registry.plain_of_lookup hfiles hlookup
      simp only
      split
      · intro hc
        rcases TypeName.mem_of_mem_localIdentifier hc with hsame | hc
        · cases hsame
        · exact Text.not_mem_of_isDotted hplain.fullName rfl (by decide) hc
      · rw [List.mem_append, not_or]
        constructor
        · unfold localName
          split
          · rename_i name hfind
            intro hc
            have hname := Imports.plain_of_mem_names hfiles (List.mem_of_find?_eq_some hfind)
            rcases hname.localName _ hc with hmark | hmark
            · cases hmark
            · cases hmark
          · exact Text.not_mem_of_isName (Text.isName_beforeFirst hplain.path) rfl
        · intro hc
          exact Text.not_mem_of_isDotted hplain.path rfl (by decide) (List.drop_subset _ _ hc)

theorem newline_not_mem_valueType (hfiles : forall file, file ∈ files -> PlainFile file)
    (field : Field) :
    '\n' ∉ (Scope.ofFile (Registry.ofFiles files) file).valueType field := by
  have hscalar : forall (type : FieldType) (text : Text), scalarType? type = some text ->
      '\n' ∉ text := by
    intro type text htext
    cases type <;> cases htext <;> decide
  unfold valueType
  split
  · rename_i text htext
    exact hscalar field.type text htext
  · split
    · exact newline_not_mem_reference hfiles field.typeName
    · decide

theorem newline_not_mem_typeOf (hfiles : forall file, file ∈ files -> PlainFile file)
    (field : Field) :
    '\n' ∉ (Scope.ofFile (Registry.ofFiles files) file).typeOf field := by
  have hvalues : forall field,
      '\n' ∉ (Scope.ofFile (Registry.ofFiles files) file).valueType field :=
    newline_not_mem_valueType hfiles
  unfold typeOf
  split
  · split
    · have hpair : '\n' ∉ ((ofFile (Registry.ofFiles files) file).keyValueTypes field).1 ∧
          '\n' ∉ ((ofFile (Registry.ofFiles files) file).keyValueTypes field).2 := by
        unfold keyValueTypes
        split
        · exact ⟨hvalues _, hvalues _⟩
        · decide
      simp [hpair]
    · simp [hvalues field]
  · exact hvalues field

theorem newline_not_mem_of_classOf? (hfiles : forall file, file ∈ files -> PlainFile file)
    {field : Field} {name : Text}
    (hname : (Scope.ofFile (Registry.ofFiles files) file).classOf? field = some name) :
    '\n' ∉ name := by
  unfold classOf? at hname
  split at hname
  · cases hname
  · simp only at hname
    split at hname
    · cases hname
    · cases hname
      exact newline_not_mem_reference hfiles field.typeName

end Scope

/-!
## Plain modules
-/

structure Member.Plain (member : Member) : Prop where
  name : Text.isName member.name = true
  propertyName : Text.isName member.propertyName = true
  methodSuffix : Text.isName member.methodSuffix = true
  typeText : '\n' ∉ member.typeText
  className : forall name, member.className = some name -> '\n' ∉ name

structure MessageClass.Plain (cls : MessageClass) : Prop where
  identifier : Text.isName cls.identifier = true
  name : Text.isName cls.name = true
  fullName : '\n' ∉ cls.fullName
  members : forall member, member ∈ cls.members -> member.Plain
  aliases : forall entry, entry ∈ cls.aliases ->
    Text.isName entry.name = true ∧ Text.isName entry.target = true

structure EnumTable.Plain (table : EnumTable) : Prop where
  identifier : Text.isName table.identifier = true
  fullName : '\n' ∉ table.fullName
  values : forall value, value ∈ table.values -> Text.isName value.name = true

def Declaration.Plain : Declaration -> Prop
  | enumeration table => table.Plain
  | message cls => cls.Plain

structure Import.Plain (statement : Import) : Prop where
  names : statement.names ≠ []
  clauses : forall name, name ∈ statement.names -> forall c, c ∈ name.clause ->
    Text.isNameChar c = true ∨ c = '$' ∨ c = ' '
  path : '\n' ∉ statement.path

structure EsModule.Plain (esModule : EsModule) : Prop where
  source : '\n' ∉ esModule.source
  imports : forall statement, statement ∈ esModule.imports -> statement.Plain
  declarations : forall declaration, declaration ∈ esModule.declarations -> declaration.Plain

theorem Import.Plain.not_mem_clause {statement : Import} (hplain : statement.Plain) {mark : Char}
    (hname : Text.isNameChar mark = false) (hdollar : mark ≠ '$') (hspace : mark ≠ ' ') :
    forall clause, clause ∈ statement.names.map ImportName.clause -> mark ∉ clause := by
  rw [List.forall_mem_map]
  intro name hmem hc
  rcases hplain.clauses name hmem mark hc with hmark | hmark | hmark
  · rw [hmark] at hname
    cases hname
  · exact hdollar hmark
  · exact hspace hmark

theorem Import.Plain.not_mem_joined {statement : Import} (hplain : statement.Plain) {mark : Char}
    (hname : Text.isNameChar mark = false) (hdollar : mark ≠ '$') (hspace : mark ≠ ' ')
    (hcomma : mark ≠ ',') :
    mark ∉ Text.joined ", " (statement.names.map ImportName.clause) := by
  intro hc
  rcases Text.mem_of_mem_joined hc with hsep | ⟨clause, hclause, hc⟩
  · have hmark : mark = ',' ∨ mark = ' ' := by simpa using hsep
    rcases hmark with hmark | hmark
    · exact hcomma hmark
    · exact hspace hmark
  · exact hplain.not_mem_clause hname hdollar hspace clause hclause hc

theorem ImportName.mem_of_mem_clause {name : ImportName} (hplain : name.Plain) {c : Char}
    (hc : c ∈ name.clause) : Text.isNameChar c = true ∨ c = '$' ∨ c = ' ' := by
  have hidentifier := Text.isName_iff.mp hplain.identifier
  unfold clause at hc
  split at hc
  · exact Or.inl (hidentifier c hc)
  · rw [List.mem_append, List.mem_append] at hc
    rcases hc with (hc | hc) | hc
    · exact Or.inl (hidentifier c hc)
    · have hword : c = ' ' ∨ c = 'a' ∨ c = 's' ∨ c = ' ' := by simpa using hc
      rcases hword with rfl | rfl | rfl | rfl
      · exact Or.inr (Or.inr rfl)
      · exact Or.inl rfl
      · exact Or.inl rfl
      · exact Or.inr (Or.inr rfl)
    · exact (hplain.localName c hc).imp_right Or.inl

theorem Draft.plain_memberOf {files : List File}
    (hfiles : forall file, file ∈ files -> PlainFile file) {file : File} {field : Field}
    (hname : Text.isName field.name = true) :
    (memberOf (Scope.ofFile (Registry.ofFiles files) file) field).Plain where
  name := hname
  propertyName := CamelCase.isName_lower hname
  methodSuffix := CamelCase.isName_upper hname
  typeText := Scope.newline_not_mem_typeOf hfiles field
  className := fun _ hclass => Scope.newline_not_mem_of_classOf? hfiles hclass

theorem Draft.plain_unitOf {files : List File}
    (hfiles : forall file, file ∈ files -> PlainFile file) {file : File}
    (hfile : PlainFile file) {site : Site} (hsite : site ∈ emitted file) :
    (unitOf (Scope.ofFile (Registry.ofFiles files) file) site).Plain := by
  rcases mem_emitted.mp hsite with ⟨hstands, hemitted⟩
  have hmembers : forall {name : Text}, name ∈ site.declared.memberNames ->
      Text.isName name = true := hfile.isName_of_mem_memberNames hstands
  have hname := hfile.isName_name hstands
  have hfull : '\n' ∉ TypeName.shown (site.fullName file.package) := by
    intro hc
    exact Text.not_mem_of_isDotted (hfile.isDotted_fullName hstands) rfl (by decide)
      (List.dropWhile_subset _ hc)
  unfold unitOf
  cases hdeclared : site.declared with
  | enumeration enum =>
      rw [hdeclared] at hmembers
      exact {
        identifier := hfile.isName_label hstands
        fullName := hfull
        values := fun value hvalue => hmembers (List.mem_map_of_mem hvalue) }
  | message message =>
      rw [hdeclared] at hmembers hname
      refine {
        identifier := hfile.isName_label hstands
        name := hname
        fullName := hfull
        members := ?_
        aliases := ?_ }
      · intro member hmember
        rcases List.mem_map.mp hmember with ⟨field, hfield, rfl⟩
        exact plain_memberOf hfiles (hmembers (List.mem_map_of_mem hfield))
      · intro entry hentry
        rcases List.mem_map.mp hentry with ⟨child, hchild, rfl⟩
        have hinside := (Site.standsIn_of_mem_children hstands hemitted hchild).1
        exact ⟨hfile.isName_name hinside, hfile.isName_label hinside⟩

theorem EsModule.plain_of_importOf {files : List File}
    (hfiles : forall file, file ∈ files -> PlainFile file) {workDir : Path.Place}
    (hworkDir : forall part, part ∈ workDir -> '\n' ∉ part) {extension : Text}
    (hextension : '\n' ∉ extension) {file : File} {group : ImportGroup}
    (hgroup : group ∈ Imports.grouped (Imports.names (Registry.ofFiles files) file))
    {statement : Import} (hok : importOf workDir file extension group = .ok statement) :
    statement.Plain := by
  have hnames : forall name, name ∈ group.names -> name.Plain := fun name hname =>
    Imports.plain_of_mem_names hfiles (Imports.mem_of_mem_grouped hgroup hname)
  rcases Imports.ne_nil_and_fileName_of_mem_grouped hgroup with ⟨hsome, hfileName⟩
  have hfile : '\n' ∉ group.fileName := by
    rcases List.exists_mem_of_ne_nil _ hsome with ⟨name, hname⟩
    rw [← hfileName name hname]
    exact (hnames name hname).fileName
  unfold importOf at hok
  split at hok
  · rename_i path hpath
    cases hok
    refine ⟨hsome, fun name hname c hc => ImportName.mem_of_mem_clause (hnames name hname) hc, ?_⟩
    intro hc
    rcases Path.mem_of_mem_specifier hpath hc with h | h | htarget | hmem | ⟨part, hpart, hc⟩
    · cases h
    · cases h
    · exact hfile htarget
    · exact hextension hmem
    · exact hworkDir part hpart hc
  · cases hok

/-- The module of a plain file among plain files is plain. -/
theorem EsModule.plain_of_ofFile {files : List File}
    (hfiles : forall file, file ∈ files -> PlainFile file) {file : File}
    (hfile : PlainFile file) {workDir : Path.Place}
    (hworkDir : forall part, part ∈ workDir -> '\n' ∉ part) {extension : Text}
    (hextension : '\n' ∉ extension) {esModule : EsModule}
    (hok : ofFile workDir (Registry.ofFiles files) extension file = .ok esModule) :
    esModule.Plain := by
  rcases ofFile_eq_ok_iff.mp hok with ⟨imports, draft, himports, hdraft, rfl⟩
  rcases Draft.ofScope_eq_ok_iff.mp hdraft with ⟨claims, _, rfl⟩
  refine ⟨hfile.fileName, ?_, ?_⟩
  · intro statement hstatement
    rcases List.forall₂_iff_get.mp (mapM_eq_ok_iff.mp himports) with ⟨hlength, hget⟩
    rcases List.mem_iff_getElem.mp hstatement with ⟨index, hindex, rfl⟩
    have hgroup := hindex
    rw [← hlength] at hgroup
    exact plain_of_importOf hfiles hworkDir hextension (List.get_mem _ ⟨index, hgroup⟩)
      (hget index hgroup hindex)
  · intro declaration hdeclaration
    rcases List.mem_map.mp hdeclaration with ⟨site, hsite, rfl⟩
    exact Draft.plain_unitOf hfiles hfile hsite

end ProtoModules
