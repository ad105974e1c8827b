import ProtoModules.Proofs.Collisions
import ProtoModules.Proofs.Descent
import ProtoModules.Proofs.Importing
import ProtoModules.Proofs.Registration
import ProtoModules.Proofs.VisitOrder

/-!
# What references denote

A field refers to a type by an expression.  For a type of its own file this is an
identifier that the module declares.  For a type of another file it is a local name,
which an import statement binds to an exported declaration of the other module, and
the names of static properties that lead down from there.  Either way the expression
leads to one declaration, the one that stands for the type.
-/

namespace ProtoModules

open Schema

/-!
## Looking up names in a module
-/

namespace Declaration

def fullName : Declaration -> Text
  | enumeration table => table.fullName
  | message cls => cls.fullName

def exported : Declaration -> Bool
  | enumeration table => table.exported
  | message cls => cls.exported

def aliases : Declaration -> List Alias
  | enumeration _ => []
  | message cls => cls.aliases

end Declaration

namespace EsModule

def bound (esModule : EsModule) (identifier : Text) : List Declaration :=
  esModule.declarations.filter fun declaration => declaration.identifier = identifier

/-- The declarations that the static properties of a declaration with a name hold. -/
def property (esModule : EsModule) (name : Text) (declaration : Declaration) :
    List Declaration :=
  (declaration.aliases.filter fun entry => entry.name = name).flatMap fun entry =>
    esModule.bound entry.target

def follow (esModule : EsModule) (found : List Declaration) (names : List Text) :
    List Declaration :=
  names.foldl (fun found name => found.flatMap (esModule.property name)) found

end EsModule

namespace Draft

@[simp] theorem fullName_unitOf (scope : Scope) (site : Site) :
    (unitOf scope site).fullName = TypeName.shown (site.fullName scope.file.package) := by
  unfold unitOf
  cases site.declared <;> rfl

@[simp] theorem exported_unitOf (scope : Scope) (site : Site) :
    (unitOf scope site).exported = site.around.isEmpty := by
  unfold unitOf
  cases site.declared <;> rfl

@[simp] theorem aliases_unitOf (scope : Scope) (site : Site) :
    (unitOf scope site).aliases = site.children.map (aliasOf scope.file.package) := by
  cases hdeclared : site.declared with
  | enumeration enum => simp [unitOf, hdeclared, Declaration.aliases, Site.children]
  | message message => simp [unitOf, hdeclared, Declaration.aliases]

end Draft

/-!
## Well-formed files
-/

/--
What is required of files that belong together: distinct file names, distinct full
names, words for names, packages that do not start with a dot, and map entries only
inside messages.
-/
structure WellFormed (files : List File) : Prop where
  fileNames : (files.map File.name).Nodup
  fullNames : ((Registry.entriesOf files).map Entry.fullName).Nodup
  wellNamed : forall file, file ∈ files ->
    forall site, site ∈ Traversal.messagesFirst.ofFile file -> site.WellNamed
  packages : forall file, file ∈ files -> file.package.head? ≠ some '.'
  mapEntries : forall file, file ∈ files ->
    forall message, message ∈ file.messages -> message.isMapEntry = false

namespace WellFormed

theorem wellNamed_of_standsIn {files : List File} (hfiles : WellFormed files) {file : File}
    (hfile : file ∈ files) {site : Site} (hsite : site.StandsIn file) : site.WellNamed :=
  hfiles.wellNamed file hfile site (Traversal.mem_ofFile.mpr hsite)

end WellFormed

/-!
## From an exported declaration down
-/

namespace EsModule

section Following

variable {files : List File} (hfiles : WellFormed files) {file : File} (hfile : file ∈ files)
  {workDir : Path.Place} {registry : Registry} {extension : Text} {esModule : EsModule}
  (hok : ofFile workDir registry extension file = .ok esModule)

include hfiles hfile hok

/-- The identifier of a site is bound once, by the declaration that stands for the site. -/
theorem bound_label {site : Site} (hsite : site.StandsIn file)
    (hemitted : site.isEmitted = true) :
    esModule.bound (site.label file.package) =
      [Draft.unitOf (Scope.ofFile registry file) site] := by
  rcases ofFile_eq_ok_iff.mp hok with ⟨imports, draft, _, hdraft, rfl⟩
  have hidentifiers : (draft.declarations.map Declaration.identifier).Nodup :=
    Draft.nodup_identifiers_of_ofScope
      (Registry.nodup_fullNames_claimed hfiles.fullNames hfile) hdraft
  rcases Draft.ofScope_eq_ok_iff.mp hdraft with ⟨claims, _, rfl⟩
  have hunit : Draft.unitOf (Scope.ofFile registry file) site ∈
      (Draft.emitted file).map (Draft.unitOf (Scope.ofFile registry file)) :=
    List.mem_map_of_mem (Draft.mem_emitted.mpr ⟨hsite, hemitted⟩)
  have hlabel : (Draft.unitOf (Scope.ofFile registry file) site).identifier =
      site.label file.package := Draft.identifier_unitOf _ site
  refine filter_eq_singleton hidentifiers.of_map hunit (decide_eq_true hlabel) ?_
  intro other hother hsame
  exact List.inj_on_of_nodup_map hidentifiers hother hunit
    ((of_decide_eq_true hsame).trans hlabel.symm)

/-- A static property of a class holds the declaration of the site it is named for. -/
theorem property_child {site child : Site} (hsite : site.StandsIn file)
    (hkept : site.isKept = true) (hchild : child ∈ site.children) :
    esModule.property child.declared.name (Draft.unitOf (Scope.ofFile registry file) site) =
      [Draft.unitOf (Scope.ofFile registry file) child] := by
  have hstands := fun {other : Site} (hother : other ∈ site.children) =>
    Site.standsIn_of_mem_children hsite (Site.isEmitted_of_isKept hkept) hother
  have hchildren : site.children.filter
      (fun other => other.declared.name = child.declared.name) = [child] := by
    refine filter_eq_singleton
      (Traversal.nodup_address_of_pairwise (Traversal.pairwise_children site)).of_map
      hchild (decide_eq_true rfl) ?_
    intro other hother hname
    refine Registry.eq_of_fullName_eq hfiles.fullNames hfile (hstands hother).1
      (hstands hchild).1 ?_
    rw [Site.fullName, Site.fullName, Site.names_of_mem_children hother,
      Site.names_of_mem_children hchild, of_decide_eq_true hname]
  have haliases : (Draft.unitOf (Scope.ofFile registry file) site).aliases.filter
      (fun entry => entry.name = child.declared.name) =
        [Draft.aliasOf file.package child] := by
    rw [Draft.aliases_unitOf, List.filter_map]
    exact congrArg (List.map (Draft.aliasOf file.package)) hchildren
  rw [property, haliases, List.flatMap_singleton]
  exact bound_label hfiles hfile hok (hstands hchild).1 (hstands hchild).2.1

/--
From the declaration of the outermost message around a site, the other names of the
site lead down to the declaration of the site.
-/
theorem exists_follow_names (around : List Message) :
    forall site : Site, site.around = around -> site.StandsIn file -> site.isKept = true ->
      exists root : Site, root.StandsIn file ∧ root.isKept = true ∧ root.around = [] ∧
        site.names.head? = some root.declared.name ∧
        esModule.follow [Draft.unitOf (Scope.ofFile registry file) root] site.names.tail =
          [Draft.unitOf (Scope.ofFile registry file) site] := by
  -- The messages around a site are taken off from the innermost one out.
  induction around using List.reverseRecOn with
  | nil =>
      intro site haround hsite hkept
      refine ⟨site, hsite, hkept, haround, ?_, ?_⟩
      · simp [Site.names, haround]
      · simp [Site.names, haround, follow]
  | append_singleton outer message ih =>
      intro site haround hsite hkept
      rcases Site.exists_parent_of_at? hsite (by simp [haround]) hkept with
        ⟨parent, hparent, hkeeps, hchild⟩
      have hnames := Site.names_of_mem_children hchild
      rcases Site.around_of_mem_children hchild with ⟨inner, _, hinner⟩
      rw [haround] at hinner
      have hparents : parent.around = outer := (List.append_inj_left' hinner rfl).symm
      rcases ih parent hparents hparent hkeeps with ⟨root, hroot, htop, hlone, hhead, hfollow⟩
      refine ⟨root, hroot, htop, hlone, ?_, ?_⟩
      · rw [hnames, List.head?_append, hhead]
        rfl
      · rw [hnames, List.tail_append_of_ne_nil parent.names_ne_nil, follow, List.foldl_append]
        rw [follow] at hfollow
        rw [hfollow]
        simp only [List.foldl_cons, List.foldl_nil, List.flatMap_singleton]
        exact property_child hfiles hfile hok hparent hkeeps hchild

end Following

end EsModule

/-!
## References
-/

namespace Scope

/-- Whether a field mentions a type: its own, or for a map that of the values. -/
def Mentions (scope : Scope) (field : Field) (typeName : Text) : Prop :=
  exists named : Field, named.type.isDeclared = true ∧ named.typeName = typeName ∧
    if scope.isMap field then exists key, scope.entryFields? field = some (key, named)
    else named = field

theorem mem_needed {scope : Scope} {field : Field} {typeName : Text} :
    typeName ∈ scope.needed field ↔ scope.Mentions field typeName := by
  have hnamed : forall named : Field,
      typeName ∈ (if named.type.isDeclared then [named.typeName] else []) ↔
        named.type.isDeclared = true ∧ named.typeName = typeName := by
    intro named
    by_cases hdeclared : named.type.isDeclared = true
    · simp [hdeclared, eq_comm]
    · simp [hdeclared]
  unfold needed Mentions
  by_cases hmap : scope.isMap field = true
  · simp only [hmap, if_true]
    cases hfields : scope.entryFields? field with
    | none => simp
    | some pair =>
        simp only [hnamed, Option.some.injEq]
        constructor
        · intro hvalue
          exact ⟨pair.2, hvalue.1, hvalue.2, pair.1, rfl⟩
        · intro hmentions
          rcases hmentions with ⟨named, hdeclared, hname, key, rfl⟩
          exact ⟨hdeclared, hname⟩
  · simp only [hmap, if_false, Bool.false_eq_true, hnamed]
    constructor
    · intro hfield
      exact ⟨field, hfield.1, hfield.2, rfl⟩
    · intro hmentions
      rcases hmentions with ⟨named, hdeclared, hname, rfl⟩
      exact ⟨hdeclared, hname⟩

end Scope

namespace EsModule

section Referring

variable {files : List File} (hfiles : WellFormed files) {file owner : File}
  {workDir : Path.Place} {extension : Text} {esModule : EsModule}

include hfiles

/-- A reference to a type of the same file is the identifier of its declaration. -/
theorem bound_reference
    (hok : ofFile workDir (Registry.ofFiles files) extension file = .ok esModule)
    (hfile : file ∈ files) {target : Site} {typeName : Text} (htarget : target.StandsIn file)
    (hkept : target.isKept = true)
    (hlookup : (Registry.ofFiles files).lookup typeName = some (target.entry file)) :
    esModule.bound ((Scope.ofFile (Registry.ofFiles files) file).reference typeName) =
      [Draft.unitOf (Scope.ofFile (Registry.ofFiles files) file) target] := by
  have hnames := hfiles.wellNamed_of_standsIn hfile htarget
  have hpackage := hfiles.packages file hfile
  have hreference : (Scope.ofFile (Registry.ofFiles files) file).reference typeName =
      target.label file.package := by
    have hlabel : target.label file.package = target.identifier :=
      hnames.identifierFor_fullName hpackage
    simp only [Scope.reference, Scope.ofFile, hlookup, Site.entry, if_true]
    rw [hlabel, hnames.localIdentifier_fullName hpackage]
  rw [hreference]
  exact bound_label hfiles hfile hok htarget (Site.isEmitted_of_isKept hkept)

/-- A type of another file that a field mentions is listed among the imports. -/
theorem exists_name_of_mentions (hfile : file ∈ files) (hne : owner.name ≠ file.name)
    {site target : Site} {message : Message} {field : Field} {typeName : Text}
    (hsite : site ∈ Draft.emitted file) (hdeclared : site.declared = .message message)
    (hfield : field ∈ message.fields)
    (hmentions : (Scope.ofFile (Registry.ofFiles files) file).Mentions field typeName)
    (hlookup : (Registry.ofFiles files).lookup typeName = some (target.entry owner)) :
    exists localName,
      ⟨owner.name, (target.entry owner).identifier, localName⟩ ∈
        Imports.names (Registry.ofFiles files) file := by
  rcases Draft.mem_emitted.mp hsite with ⟨hstands, hemitted⟩
  have hscanned : message ∈ Imports.scannedAll file.messages :=
    Imports.mem_scannedAll.mpr ⟨site, hstands,
      Site.isKept_of_isEmitted (hfiles.mapEntries file hfile) hstands hemitted, hdeclared⟩
  have hforeign : (Registry.ofFiles files).foreign? file.name typeName =
      some (target.entry owner) := Registry.foreign?_eq_some_iff.mpr ⟨hlookup, hne⟩
  have hkey : ImportKey.ofEntry (target.entry owner) ∈
      Imports.keys (Registry.ofFiles files) file :=
    Imports.mem_keys.mpr ⟨message, hscanned, field, hfield, typeName,
      Scope.mem_needed.mpr hmentions, target.entry owner, hforeign, rfl⟩
  rcases Imports.exists_name_of_mem_keys hkey with ⟨⟨fileName, identifier, localName⟩, hname, heq⟩
  cases heq
  exact ⟨localName, hname⟩

theorem cons_fullName_unitOf (hfile : file ∈ files) {target : Site}
    (htarget : target.StandsIn file) :
    '.' :: (Draft.unitOf (Scope.ofFile (Registry.ofFiles files) file) target).fullName =
      (target.entry file).fullName := by
  have hnames := hfiles.wellNamed_of_standsIn hfile htarget
  rw [Draft.fullName_unitOf]
  exact (congrArg (List.cons '.') (hnames.shown_fullName (hfiles.packages file hfile))).trans
    (Site.fullName_eq_cons _ target).symm

/-- The declaration of a type is reached from the export that its entry names. -/
theorem exists_follow_memberPath (hfile : file ∈ files)
    (hok : ofFile workDir (Registry.ofFiles files) extension file = .ok esModule)
    {target : Site} (htarget : target.StandsIn file) (hkept : target.isKept = true) :
    exists root unit, esModule.bound (target.entry file).identifier = [root] ∧
      root.exported = true ∧
      esModule.follow [root] ((target.entry file).memberPath.splitOn '.').tail = [unit] ∧
      '.' :: unit.fullName = (target.entry file).fullName := by
  have hnames := (hfiles.wellNamed_of_standsIn hfile htarget).identifier_entry file
  rcases exists_follow_names hfiles hfile hok target.around target rfl htarget hkept with
    ⟨root, hroot, htop, hlone, hhead, hfollow⟩
  rw [hnames] at hhead hfollow
  have hlabel : root.label file.package = (target.entry file).identifier := by
    have hidentifier : root.label file.package = root.identifier :=
      (hfiles.wellNamed_of_standsIn hfile hroot).identifierFor_fullName
        (hfiles.packages file hfile)
    rw [hidentifier, Site.identifier, if_pos hlone]
    exact (Option.some.inj hhead).symm
  refine ⟨Draft.unitOf (Scope.ofFile (Registry.ofFiles files) file) root,
    Draft.unitOf (Scope.ofFile (Registry.ofFiles files) file) target, ?_, ?_, hfollow,
    cons_fullName_unitOf hfiles hfile htarget⟩
  · rw [← hlabel]
    exact bound_label hfiles hfile hok hroot (Site.isEmitted_of_isKept htop)
  · rw [Draft.exported_unitOf, hlone]
    rfl

end Referring

/--
A reference leads to one declaration, the one of the type that it was made for.  In
the file that declares the type it is an identifier of the module.  In another file
it starts with a local name that the one import statement for the declaring file
binds to an exported declaration, and static properties lead down from there.
-/
theorem reference_leads_to_declaration {files : List File} (hfiles : WellFormed files)
    {file owner : File} (hfile : file ∈ files) (howner : owner ∈ files)
    {workDir : Path.Place} {extension : Text} {esModule ownerModule : EsModule}
    (hmodule : ofFile workDir (Registry.ofFiles files) extension file = .ok esModule)
    (hownerModule : ofFile workDir (Registry.ofFiles files) extension owner = .ok ownerModule)
    {site target : Site} {message : Message} {field : Field} {typeName : Text}
    (hsite : site ∈ Draft.emitted file) (hdeclared : site.declared = .message message)
    (hfield : field ∈ message.fields)
    (hmentions : (Scope.ofFile (Registry.ofFiles files) file).Mentions field typeName)
    (htarget : target.StandsIn owner) (hkept : target.isKept = true)
    (hlookup : (Registry.ofFiles files).lookup typeName = some (target.entry owner)) :
    (owner = file ->
      exists unit,
        esModule.bound ((Scope.ofFile (Registry.ofFiles files) file).reference typeName) =
          [unit] ∧
        '.' :: unit.fullName = (target.entry owner).fullName) ∧
    (owner ≠ file ->
      exists statement localName root unit,
        (Scope.ofFile (Registry.ofFiles files) file).reference typeName =
          localName ++ (target.entry owner).memberPath ∧
        esModule.imports.filter (fun other => other.fileName = owner.name) = [statement] ∧
        statement.names.filter
            (fun name => name.identifier = (target.entry owner).identifier) =
          [⟨owner.name, (target.entry owner).identifier, localName⟩] ∧
        ownerModule.bound (target.entry owner).identifier = [root] ∧
        root.exported = true ∧
        ownerModule.follow [root] ((target.entry owner).memberPath.splitOn '.').tail = [unit] ∧
        '.' :: unit.fullName = (target.entry owner).fullName) := by
  constructor
  · intro heq
    subst heq
    exact ⟨_, bound_reference hfiles hmodule hfile htarget hkept hlookup,
      cons_fullName_unitOf hfiles hfile htarget⟩
  · intro hother
    have hne : owner.name ≠ file.name := by
      intro heq
      exact hother (List.inj_on_of_nodup_map hfiles.fileNames howner hfile heq)
    rcases exists_name_of_mentions hfiles hfile hne hsite hdeclared hfield hmentions hlookup with
      ⟨localName, hname⟩
    rcases ofFile_eq_ok_iff.mp hmodule with ⟨imports, draft, himports, _, rfl⟩
    rcases exists_statement_of_mem_names himports hname with ⟨statement, hstatement, hinside⟩
    rcases exists_follow_memberPath hfiles howner hownerModule htarget hkept with
      ⟨root, unit, hroot, hexported, hfollow, hfull⟩
    refine ⟨statement, localName, root, unit, ?_, hstatement, hinside, hroot, hexported,
      hfollow, hfull⟩
    have hlocal := Imports.localName_eq_of_mem_names hname
    have hforeign : ¬ (target.entry owner).fileName =
        (Scope.ofFile (Registry.ofFiles files) file).file.name := hne
    have hregistry : (Scope.ofFile (Registry.ofFiles files) file).registry.lookup typeName =
        some (target.entry owner) := hlookup
    simp only [Scope.reference, hregistry, if_neg hforeign]
    exact congrArg (· ++ (target.entry owner).memberPath) hlocal

def library : File where
  name := ['g']
  package := ['p']
  messages := [{ name := ['A'], nested := [{ name := ['B'] }] }]

/-- A message that has the name of one in the library and a field for what is in that. -/
def client : File where
  name := ['f']
  messages := [
    { name := ['A']
      fields := [{ type := .message, typeName := ['.', 'p', '.', 'A', '.', 'B'] }] }]

theorem reference_of_client :
    exists esModule ownerModule statement localName root unit,
      ofFile [] (Registry.ofFiles [client, library]) ['.', 'm'] client = .ok esModule ∧
      ofFile [] (Registry.ofFiles [client, library]) ['.', 'm'] library = .ok ownerModule ∧
      (Scope.ofFile (Registry.ofFiles [client, library]) client).reference
          ['.', 'p', '.', 'A', '.', 'B'] = localName ++ ['.', 'B'] ∧
      esModule.imports.filter (fun other => other.fileName = ['g']) = [statement] ∧
      statement.names.filter (fun name => name.identifier = ['A']) =
        [⟨['g'], ['A'], localName⟩] ∧
      ownerModule.bound ['A'] = [root] ∧ root.exported = true ∧
      ownerModule.follow [root] [['B']] = [unit] ∧
      '.' :: unit.fullName = ['.', 'p', '.', 'A', '.', 'B'] := by
  have hfiles : WellFormed [client, library] :=
    ⟨by decide +kernel, by decide +kernel, by decide +kernel, by decide +kernel,
      by decide +kernel⟩
  have hother : library ≠ client := by
    intro heq
    exact absurd (congrArg File.name heq) (by decide)
  rcases (⟨_, rfl⟩ : exists esModule,
    ofFile [] (Registry.ofFiles [client, library]) ['.', 'm'] client = .ok esModule) with
    ⟨esModule, hmodule⟩
  rcases (⟨_, rfl⟩ : exists ownerModule,
    ofFile [] (Registry.ofFiles [client, library]) ['.', 'm'] library = .ok ownerModule) with
    ⟨ownerModule, hownerModule⟩
  have hsite : Site.mk [.message 0] [] (.message (client.messages.headD {})) ∈
      Draft.emitted client := List.mem_singleton.mpr rfl
  have htarget : Site.StandsIn library
      ⟨[.message 0, .message 0], library.messages, .message { name := ['B'] }⟩ := rfl
  rcases (reference_leads_to_declaration hfiles List.mem_cons_self
    (List.mem_cons_of_mem _ List.mem_cons_self) hmodule hownerModule hsite rfl
    List.mem_cons_self ⟨_, rfl, rfl, rfl⟩ htarget rfl rfl).2 hother with
    ⟨statement, localName, root, unit, hlink⟩
  exact ⟨esModule, ownerModule, statement, localName, root, unit, hmodule, hownerModule, hlink⟩

end EsModule
end ProtoModules
