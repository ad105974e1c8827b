import ProtoModules.Compile
import ProtoModules.Proofs.Linking

/-!
# What a module depends on

A module is made from its file and from what the registry says about some type names:
those of the fields that it has members for and, where such a type has a key and a value
field, those of these two.  Two registries that agree on these names give the same module,
whatever else they know and in whatever order they learned it.
-/

namespace ProtoModules

open Schema

def Draft.emittedFields (file : File) : List Field :=
  ((emitted file).filterMap Site.message?).flatMap Message.fields

namespace Scope

/-- The type names that decide what a field becomes. -/
def consulted (scope : Scope) (field : Field) : List Text :=
  field.typeName ::
    match scope.entryFields? field with
    | some (key, value) => [key.typeName, value.typeName]
    | none => []

def references (scope : Scope) : List Text :=
  (Draft.emittedFields scope.file).flatMap scope.consulted

/-!
## Registries that agree on the names of a field
-/

theorem mem_consulted_of_mem_needed {scope : Scope} {field : Field} {typeName : Text}
    (hneeded : typeName ∈ scope.needed field) : typeName ∈ scope.consulted field := by
  rcases mem_needed.mp hneeded with ⟨named, _, rfl, hnamed⟩
  unfold consulted
  split at hnamed
  · rcases hnamed with ⟨key, hfields⟩
    rw [hfields]
    simp
  · rw [hnamed]
    exact List.mem_cons_self

theorem reference_congr {left right : Registry} {typeName : Text}
    (hlookup : left.lookup typeName = right.lookup typeName) (file : File)
    (names : List ImportName) :
    reference ⟨left, file, names⟩ typeName = reference ⟨right, file, names⟩ typeName := by
  simp only [reference, localName, hlookup]

theorem valueType_congr {left right : Registry} {field : Field}
    (hlookup : left.lookup field.typeName = right.lookup field.typeName) (file : File)
    (names : List ImportName) :
    valueType ⟨left, file, names⟩ field = valueType ⟨right, file, names⟩ field := by
  simp only [valueType, reference_congr hlookup]

section Agreement

variable {left right : Registry} {file : File} {field : Field}
  (hagree : forall typeName, typeName ∈ consulted { registry := left, file } field ->
    left.lookup typeName = right.lookup typeName)
  (names : List ImportName)

include hagree

theorem lookup_typeName_eq : left.lookup field.typeName = right.lookup field.typeName :=
  hagree field.typeName List.mem_cons_self

theorem isMap_congr : isMap ⟨left, file, names⟩ field = isMap ⟨right, file, names⟩ field := by
  simp only [isMap, lookup_typeName_eq hagree]

theorem entryFields?_congr :
    entryFields? ⟨left, file, names⟩ field = entryFields? ⟨right, file, names⟩ field := by
  simp only [entryFields?, lookup_typeName_eq hagree]

theorem keyValueTypes_congr :
    keyValueTypes ⟨left, file, names⟩ field = keyValueTypes ⟨right, file, names⟩ field := by
  unfold keyValueTypes
  rw [← entryFields?_congr hagree]
  cases hfields : entryFields? ⟨left, file, names⟩ field with
  | none => rfl
  | some pair =>
      have hconsulted : consulted { registry := left, file } field =
          [field.typeName, pair.1.typeName, pair.2.typeName] := by
        have hplain : entryFields? { registry := left, file } field = some pair := hfields
        rw [consulted, hplain]
      have hkey : left.lookup pair.1.typeName = right.lookup pair.1.typeName :=
        hagree _ (by simp [hconsulted])
      have hvalue : left.lookup pair.2.typeName = right.lookup pair.2.typeName :=
        hagree _ (by simp [hconsulted])
      simp only [valueType_congr hkey, valueType_congr hvalue]

theorem memberOf_congr :
    Draft.memberOf ⟨left, file, names⟩ field = Draft.memberOf ⟨right, file, names⟩ field := by
  have hlookup := lookup_typeName_eq hagree
  simp only [Draft.memberOf, typeOf, classOf?, isMap_congr hagree, keyValueTypes_congr hagree,
    valueType_congr hlookup, reference_congr hlookup]

theorem needed_congr :
    needed { registry := left, file } field = needed { registry := right, file } field := by
  simp only [needed, isMap_congr hagree, entryFields?_congr hagree]

end Agreement

end Scope

/-!
## Registries that agree on the names of a file
-/

theorem Draft.mem_emittedFields {file : File} {field : Field} :
    field ∈ emittedFields file ↔
      exists site message, site ∈ emitted file ∧ site.declared = .message message ∧
        field ∈ message.fields := by
  simp only [emittedFields, List.mem_flatMap, List.mem_filterMap, Site.message?_eq_some_iff]
  constructor
  · intro hlisted
    rcases hlisted with ⟨message, ⟨site, hsite, hdeclared⟩, hfield⟩
    exact ⟨site, message, hsite, hdeclared, hfield⟩
  · intro hemitted
    rcases hemitted with ⟨site, message, hsite, hdeclared, hfield⟩
    exact ⟨message, ⟨site, hsite, hdeclared⟩, hfield⟩

section Agreement

variable {left right : Registry} {file : File}
  (hagree : forall typeName, typeName ∈ Scope.references { registry := left, file } ->
    left.lookup typeName = right.lookup typeName)

include hagree

theorem Draft.lookup_eq_of_mem_consulted {field : Field} (hfield : field ∈ emittedFields file) :
    forall typeName, typeName ∈ Scope.consulted { registry := left, file } field ->
      left.lookup typeName = right.lookup typeName := by
  intro typeName htype
  exact hagree typeName (List.mem_flatMap.mpr ⟨field, hfield, htype⟩)

theorem Imports.keys_congr : keys left file = keys right file := by
  have hfields : forall field, field ∈ (scannedAll file.messages).flatMap Message.fields ->
      field ∈ Draft.emittedFields file := by
    intro field hfield
    rcases List.mem_flatMap.mp hfield with ⟨message, hmessage, hfield⟩
    rcases mem_scannedAll.mp hmessage with ⟨site, hsite, hkept, hdeclared⟩
    exact Draft.mem_emittedFields.mpr ⟨site, message,
      Draft.mem_emitted.mpr ⟨hsite, Site.isEmitted_of_isKept hkept⟩, hdeclared, hfield⟩
  have hneeded : ((scannedAll file.messages).flatMap Message.fields).flatMap
        (Scope.needed { registry := left, file }) =
      ((scannedAll file.messages).flatMap Message.fields).flatMap
        (Scope.needed { registry := right, file }) := by
    apply List.flatMap_congr
    intro field hfield
    exact Scope.needed_congr (Draft.lookup_eq_of_mem_consulted hagree (hfields field hfield))
  have hforeign : forall typeName,
      typeName ∈ ((scannedAll file.messages).flatMap Message.fields).flatMap
        (Scope.needed { registry := left, file }) ->
      left.foreign? file.name typeName = right.foreign? file.name typeName := by
    intro typeName htype
    rcases List.mem_flatMap.mp htype with ⟨field, hfield, htype⟩
    rw [Registry.foreign?, Registry.foreign?, Draft.lookup_eq_of_mem_consulted hagree
      (hfields field hfield) typeName (Scope.mem_consulted_of_mem_needed htype)]
  simp only [keys]
  rw [List.filterMap_congr hforeign, hneeded]

theorem Draft.ofScope_congr (names : List ImportName) :
    ofScope ⟨left, file, names⟩ = ofScope ⟨right, file, names⟩ := by
  have hunits : (emitted file).map (unitOf ⟨left, file, names⟩) =
      (emitted file).map (unitOf ⟨right, file, names⟩) := by
    apply List.map_congr_left
    intro site hsite
    unfold unitOf
    cases hdeclared : site.declared with
    | enumeration enum => rfl
    | message message =>
        have hmembers : message.fields.map (memberOf ⟨left, file, names⟩) =
            message.fields.map (memberOf ⟨right, file, names⟩) := by
          apply List.map_congr_left
          intro field hfield
          apply Scope.memberOf_congr
          exact lookup_eq_of_mem_consulted hagree
            (mem_emittedFields.mpr ⟨site, message, hsite, hdeclared, hfield⟩)
        simp only [hmembers]
  rw [ofScope_eq, ofScope_eq, hunits]

theorem EsModule.ofFile_congr (workDir : Path.Place) (extension : Text) :
    ofFile workDir left extension file = ofFile workDir right extension file := by
  have hnames : Imports.names left file = Imports.names right file := by
    rw [Imports.names, Imports.names, Imports.keys_congr hagree]
  simp only [ofFile, hnames, Draft.ofScope_congr hagree]

theorem compileFile_congr (workDir : Path.Place) (extension : Text) :
    compileFile workDir left extension file = compileFile workDir right extension file := by
  rw [compileFile, compileFile, EsModule.ofFile_congr hagree]

end Agreement

/-!
## Files in another order, and more files
-/

namespace Registry

/-- A full name that is listed once is found among the same entries in any order. -/
theorem find?_eq_of_mem_iff {entries others : List Entry} {fullName : Text}
    (hnames : (entries.map Entry.fullName).Nodup)
    (hmem : forall entry, entry.fullName = fullName -> (entry ∈ entries ↔ entry ∈ others)) :
    (entries.find? fun entry => entry.fullName = fullName) =
      others.find? fun entry => entry.fullName = fullName := by
  cases hfirst : entries.find? fun entry => entry.fullName = fullName with
  | none =>
      apply Eq.symm
      rw [List.find?_eq_none] at hfirst ⊢
      intro entry hentry hname
      exact hfirst entry ((hmem entry (of_decide_eq_true hname)).mpr hentry) hname
  | some first =>
      have hname : first.fullName = fullName := by simpa using List.find?_some hfirst
      have hentry := List.mem_of_find?_eq_some hfirst
      cases hfound : others.find? fun entry => entry.fullName = fullName with
      | none =>
          exact absurd (decide_eq_true hname)
            (List.find?_eq_none.mp hfound first ((hmem first hname).mp hentry))
      | some found =>
          have hsame : found.fullName = fullName := by simpa using List.find?_some hfound
          have hother := (hmem found hsame).mpr (List.mem_of_find?_eq_some hfound)
          exact congrArg some
            (List.inj_on_of_nodup_map hnames hentry hother (hname.trans hsame.symm))

/-- Files that do not declare a type name change nothing about it, wherever they are put. -/
theorem lookup_eq_of_perm_append {files more other : List File}
    (hnames : ((entriesOf files).map Entry.fullName).Nodup)
    (hother : (files ++ more).Perm other) {typeName : Text}
    (hmore : TypeName.absolute typeName ∉ (entriesOf more).map Entry.fullName) :
    (ofFiles files).lookup typeName = (ofFiles other).lookup typeName := by
  have hentries : (entriesOf files ++ entriesOf more).Perm (entriesOf other) := by
    have hperm := hother.flatMap_right fun file =>
      (Traversal.messagesFirst.ofFile file).map (Site.entry file)
    rw [List.flatMap_append] at hperm
    exact hperm
  rw [lookup_ofFiles, lookup_ofFiles]
  apply find?_eq_of_mem_iff hnames
  intro entry hname
  rw [← hentries.mem_iff, List.mem_append]
  constructor
  · intro hfiles
    exact Or.inl hfiles
  · intro heither
    rcases heither with hfiles | hadded
    · exact hfiles
    · exact absurd (List.mem_map.mpr ⟨entry, hadded, hname⟩) hmore

end Registry

/--
The module of a file is determined by what its references stand for.  It is the same among
two lists of files that give the same entries to these type names, and so among the same
files in another order, and among more files that declare none of these type names.
-/
theorem compileFile_determined_by_references (workDir : Path.Place) (extension : Text)
    (file : File) :
    (forall left right : List File,
      (forall typeName,
        typeName ∈ Scope.references { registry := Registry.ofFiles left, file } ->
        (Registry.ofFiles left).lookup typeName = (Registry.ofFiles right).lookup typeName) ->
      compileFile workDir (Registry.ofFiles left) extension file =
        compileFile workDir (Registry.ofFiles right) extension file) ∧
    (forall files other : List File,
      ((Registry.entriesOf files).map Entry.fullName).Nodup -> files.Perm other ->
      compileFile workDir (Registry.ofFiles files) extension file =
        compileFile workDir (Registry.ofFiles other) extension file) ∧
    (forall files more other : List File,
      ((Registry.entriesOf files).map Entry.fullName).Nodup -> (files ++ more).Perm other ->
      (forall typeName,
        typeName ∈ Scope.references { registry := Registry.ofFiles files, file } ->
        TypeName.absolute typeName ∉ (Registry.entriesOf more).map Entry.fullName) ->
      compileFile workDir (Registry.ofFiles files) extension file =
        compileFile workDir (Registry.ofFiles other) extension file) := by
  refine ⟨?_, ?_, ?_⟩
  · intro left right hagree
    exact compileFile_congr hagree workDir extension
  · intro files other hnames hother
    have hnone : (files ++ []).Perm other := by
      rw [List.append_nil]
      exact hother
    apply compileFile_congr
    intro typeName _
    exact Registry.lookup_eq_of_perm_append hnames hnone List.not_mem_nil
  · intro files more other hnames hother hmore
    apply compileFile_congr
    intro typeName htype
    exact Registry.lookup_eq_of_perm_append hnames hother (hmore typeName htype)

/-- A message with a field for a type that the file does not declare. -/
def dangling : File where
  name := ['f']
  messages := [{ name := ['A'], fields := [{ type := .message, typeName := ['.', 'B'] }] }]

def provider : File where
  name := ['g']
  messages := [{ name := ['B'] }]

def bystander : File where
  name := ['h']
  package := ['p']
  messages := [{ name := ['A'] }, { name := ['B'] }]

theorem compileFile_beside_bystander :
    (Scope.references { registry := Registry.ofFiles [dangling, provider], file := dangling } =
      [['.', 'B']]) ∧
    compileFile [] (Registry.ofFiles [dangling, provider]) ['.', 'm'] dangling =
      compileFile [] (Registry.ofFiles [bystander, provider, dangling]) ['.', 'm'] dangling := by
  constructor
  · rfl
  · have hperm : ([dangling, provider] ++ [bystander]).Perm [bystander, provider, dangling] :=
      List.reverse_perm [bystander, provider, dangling]
    exact (compileFile_determined_by_references [] ['.', 'm'] dangling).2.2
      [dangling, provider] [bystander] _ (by decide +kernel) hperm (by decide +kernel)

/--
That the added files repeat no full name is not enough: they may declare a type that a
field refers to and nobody declared before.
-/
theorem not_forall_compileFile_eq_of_new_names :
    ¬ forall (workDir : Path.Place) (extension : Text) (file : File) (files more : List File),
      file ∈ files -> ((Registry.entriesOf files).map Entry.fullName).Nodup ->
      (forall entry, entry ∈ Registry.entriesOf more ->
        entry.fullName ∉ (Registry.entriesOf files).map Entry.fullName) ->
      compileFile workDir (Registry.ofFiles files) extension file =
        compileFile workDir (Registry.ofFiles (files ++ more)) extension file := by
  intro hall
  have hsame := hall [] ['.', 'm'] dangling [dangling] [provider] List.mem_cons_self
    (by decide +kernel) (by decide +kernel)
  exact absurd hsame (by decide +kernel)

end ProtoModules
