import ProtoModules.Proofs.Aliasing
import ProtoModules.Proofs.Linking

/-!
# When a module binds a name twice

A module binds the identifiers of its declarations and the local names of its imports.
Three checks keep these apart: declarations of one file must not collide, an import must
not have the name of a declaration at the top of the file, and it must not have the name
of an earlier import.  What no check covers is an import with the identifier of a
declaration inside a message, and two imports whose local names are made from file names
that look alike.  These two cases are the only ones in which a name is bound twice.
-/

namespace ProtoModules

open Schema

def Text.isWord (text : Text) : Bool :=
  !text.isEmpty && text.all fun c => c.isAlphanum || c = '_'

theorem Text.not_mem_of_isWord {text : Text} (hword : text.isWord = true) {c : Char}
    (hletter : c.isAlphanum = false) (hne : c ≠ '_') : c ∉ text := by
  intro hc
  have hall : text.all (fun c => c.isAlphanum || c = '_') = true :=
    (Bool.and_eq_true_iff.mp hword).2
  have hallowed := List.all_eq_true.mp hall c hc
  rw [hletter, Bool.false_or] at hallowed
  exact hne (of_decide_eq_true hallowed)

theorem Text.ne_nil_of_isWord {text : Text} (hword : text.isWord = true) : text ≠ [] := by
  intro hnil
  rw [hnil] at hword
  cases hword

theorem Site.wellNamed_of_isWord {site : Site}
    (hwords : forall name, name ∈ site.names -> name.isWord = true) : site.WellNamed := by
  intro name hname
  have hword := hwords name hname
  exact ⟨Text.ne_nil_of_isWord hword, Text.not_mem_of_isWord hword (by decide) (by decide)⟩

/-!
## Names at the top of a file
-/

namespace Imports

theorem name_mem_declaredNames {file : File} {site : Site} (hsite : site.StandsIn file)
    (haround : site.around = []) : site.declared.name ∈ declaredNames file := by
  rcases Site.cases_of_standsIn hsite with
    ⟨index, enum, henum, rfl⟩ | ⟨index, message, hmessage, hplace⟩
  · exact List.mem_append_right _ (List.mem_map_of_mem (List.mem_of_getElem? henum))
  · rcases hplace with rfl | ⟨inner, rfl⟩
    · exact List.mem_append_left _ (List.mem_map_of_mem (List.mem_of_getElem? hmessage))
    · simp at haround

end Imports

theorem Site.label_eq_name {site : Site} (hnames : site.WellNamed) (haround : site.around = [])
    (package : Text) : site.label package = site.declared.name := by
  simp [label, Draft.identifierFor, haround, hnames.afterLast_fullName]

namespace EsModule

/-- The names that a module binds at its top: those of its declarations and imports. -/
def boundNames (esModule : EsModule) : List Text :=
  esModule.declarations.map Declaration.identifier ++
    esModule.imports.flatMap fun statement => statement.names.map ImportName.localName

section Words

variable {files : List File}
  (hwords : forall file, file ∈ files ->
    forall site, site ∈ Traversal.messagesFirst.ofFile file ->
      forall name, name ∈ site.names -> name.isWord = true)

include hwords

/-- What another file exports is the first name of a site, so there is no dollar sign in it. -/
theorem dollar_not_mem_of_mem_keys {file : File} {key : ImportKey}
    (hkey : key ∈ Imports.keys (Registry.ofFiles files) file) : '$' ∉ key.identifier := by
  rcases Imports.mem_keys.mp hkey with ⟨_, _, _, _, typeName, _, entry, hentry, rfl⟩
  rcases Registry.exists_site_of_lookup (Registry.foreign?_eq_some_iff.mp hentry).1 with
    ⟨owner, site, howner, hsite, rfl⟩
  have hsites := hwords owner howner site (Traversal.mem_ofFile.mpr hsite)
  have hnames := (Site.wellNamed_of_isWord hsites).identifier_entry owner
  have hfirst : (site.entry owner).identifier.isWord = true :=
    hsites _ (by rw [hnames]; exact List.mem_cons_self)
  exact Text.not_mem_of_isWord hfirst (by decide) (by decide)

/-- The bound names, with the local names of the imports said at once. -/
theorem boundNames_eq {workDir : Path.Place} {extension : Text} {file : File}
    {esModule : EsModule}
    (hok : ofFile workDir (Registry.ofFiles files) extension file = .ok esModule) :
    esModule.boundNames =
      (Draft.emitted file).map (Site.label file.package) ++
        (Imports.keys (Registry.ofFiles files) file).map
          (ImportKey.localName (Imports.declaredNames file)
            (Imports.keys (Registry.ofFiles files) file)) := by
  rcases ofFile_eq_ok_iff.mp hok with ⟨imports, draft, himports, hdraft, rfl⟩
  have hnames : imports.flatMap Import.names = Imports.names (Registry.ofFiles files) file := by
    have hgroups := Imports.flatMap_names_grouped (Imports.names (Registry.ofFiles files) file)
    rw [← map_groupOf_of_mapM himports, List.flatMap_map] at hgroups
    exact hgroups
  have hchosen := Imports.choose_eq_map (Imports.declaredNames file)
    (Imports.pairwise_keys (Registry.ofFiles files) file)
    (fun _ hkey => dollar_not_mem_of_mem_keys hwords hkey)
  have himported : (imports.flatMap fun statement => statement.names.map ImportName.localName) =
      (Imports.keys (Registry.ofFiles files) file).map
        (ImportKey.localName (Imports.declaredNames file)
          (Imports.keys (Registry.ofFiles files) file)) := by
    rw [← List.map_flatMap, hnames, Imports.names, hchosen, List.map_map]
    rfl
  rw [boundNames, himported]
  exact congrArg (· ++ _) (Draft.map_identifier_of_ofScope hdraft)

/-- A name at the top of a file is never the local name of an import. -/
theorem label_ne_localName {file : File} (hfile : file ∈ files) {site : Site}
    (hsite : site.StandsIn file) (haround : site.around = []) (keys : List ImportKey)
    (key : ImportKey) :
    site.label file.package ≠ key.localName (Imports.declaredNames file) keys := by
  have hsites := hwords file hfile site (Traversal.mem_ofFile.mpr hsite)
  have hword : site.declared.name.isWord = true := hsites _ (by simp [Site.names])
  rw [Site.label_eq_name (Site.wellNamed_of_isWord hsites) haround, ImportKey.localName]
  intro heq
  by_cases htaken : key.isTaken (Imports.declaredNames file) keys = true
  · rw [if_pos htaken] at heq
    have hdollar : '$' ∉ site.declared.name :=
      Text.not_mem_of_isWord hword (by decide) (by decide)
    exact hdollar (by simp [heq])
  · rw [if_neg htaken] at heq
    have hdeclared := Imports.name_mem_declaredNames hsite haround
    rw [heq] at hdeclared
    exact htaken (ImportKey.isTaken_iff.mpr (Or.inl hdeclared))

end Words

/--
A module binds no name twice exactly when no declaration inside a message has the local
name of an import for its identifier, and the files of two imports that both lost the
same identifier do not look alike.
-/
theorem nodup_boundNames_iff {files : List File}
    (hfullNames : ((Registry.entriesOf files).map Entry.fullName).Nodup)
    (hwords : forall file, file ∈ files ->
      forall site, site ∈ Traversal.messagesFirst.ofFile file ->
        forall name, name ∈ site.names -> name.isWord = true)
    {file : File} (hfile : file ∈ files) {workDir : Path.Place} {extension : Text}
    {esModule : EsModule}
    (hok : ofFile workDir (Registry.ofFiles files) extension file = .ok esModule) :
    esModule.boundNames.Nodup ↔
      (forall site, site ∈ Draft.emitted file -> site.around ≠ [] ->
        forall key, key ∈ Imports.keys (Registry.ofFiles files) file ->
          site.label file.package ≠
            key.localName (Imports.declaredNames file)
              (Imports.keys (Registry.ofFiles files) file)) ∧
      (forall left, left ∈ Imports.keys (Registry.ofFiles files) file ->
        forall right, right ∈ Imports.keys (Registry.ofFiles files) file ->
          left.fileName ≠ right.fileName -> left.identifier = right.identifier ->
          left.isTaken (Imports.declaredNames file)
            (Imports.keys (Registry.ofFiles files) file) = true ->
          right.isTaken (Imports.declaredNames file)
            (Imports.keys (Registry.ofFiles files) file) = true ->
          Imports.fileAlias left.fileName ≠ Imports.fileAlias right.fileName) := by
  have hplain : forall key, key ∈ Imports.keys (Registry.ofFiles files) file ->
      '$' ∉ key.identifier := fun _ hkey => dollar_not_mem_of_mem_keys hwords hkey
  have hlabels : ((Draft.emitted file).map (Site.label file.package)).Nodup := by
    rcases ofFile_eq_ok_iff.mp hok with ⟨_, draft, _, hdraft, _⟩
    exact Draft.nodup_labels_of_ofScope (Registry.nodup_fullNames_claimed hfullNames hfile) hdraft
  rw [boundNames_eq hwords hok, List.nodup_append,
    Imports.nodup_localNames_iff (Imports.pairwise_keys _ file) hplain]
  constructor
  · intro hnodup
    rcases hnodup with ⟨_, hlocal, hacross⟩
    refine ⟨?_, hlocal⟩
    intro site hsite _ key hkey
    exact hacross _ (List.mem_map_of_mem hsite) _ (List.mem_map_of_mem hkey)
  · intro hboth
    refine ⟨hlabels, hboth.2, ?_⟩
    intro label hlabel name hname
    rcases List.mem_map.mp hlabel with ⟨site, hsite, rfl⟩
    rcases List.mem_map.mp hname with ⟨key, hkey, rfl⟩
    by_cases haround : site.around = []
    · exact label_ne_localName hwords hfile (Draft.mem_emitted.mp hsite).1 haround _ key
    · exact hboth.1 site hsite haround key hkey

/-- A message inside another one, and a field for a message that is named like it. -/
def shadowing : List File := [
  { name := ['f']
    messages := [
      { name := ['A']
        fields := [
          { type := .message, typeName := ['.', 'q', '.', '_', '_', 'A', '_', 'B'] }]
        nested := [{ name := ['B'] }] }] },
  { name := ['g']
    package := ['q']
    messages := [{ name := ['_', '_', 'A', '_', 'B'] }] }]

theorem boundNames_of_samples :
    (exists esModule,
      ofFile [] (Registry.ofFiles [client, library]) ['.', 'm'] client = .ok esModule ∧
        esModule.boundNames.Nodup) ∧
    (exists esModule,
      ofFile [] (Registry.ofFiles shadowing) ['.', 'm'] (shadowing.headD {}) = .ok esModule ∧
        ¬ esModule.boundNames.Nodup) := by
  constructor
  · rcases (⟨_, rfl⟩ : exists esModule,
      ofFile [] (Registry.ofFiles [client, library]) ['.', 'm'] client = .ok esModule) with
      ⟨esModule, hmodule⟩
    refine ⟨esModule, hmodule, (nodup_boundNames_iff (by decide +kernel) (by decide +kernel)
      List.mem_cons_self hmodule).mpr ?_⟩
    decide +kernel
  · rcases (⟨_, rfl⟩ : exists esModule,
      ofFile [] (Registry.ofFiles shadowing) ['.', 'm'] (shadowing.headD {}) =
        .ok esModule) with ⟨esModule, hmodule⟩
    refine ⟨esModule, hmodule, fun hnodup => ?_⟩
    have hapart := (nodup_boundNames_iff (by decide +kernel) (by decide +kernel)
      List.mem_cons_self hmodule).mp hnodup
    exact absurd hapart.1 (by decide +kernel)

/-- A file that uses a name of its own from two files whose names look alike. -/
def equalAliases : List File := [
  { name := ['f']
    messages := [
      { name := ['A']
        fields := [
          { type := .message, typeName := ['.', 'p', '.', 'A'] },
          { type := .message, typeName := ['.', 'q', '.', 'A'] }] }] },
  { name := ['a', '/', 'b'], package := ['p'], messages := [{ name := ['A'] }] },
  { name := ['a', '_', 'b'], package := ['q'], messages := [{ name := ['A'] }] }]

theorem not_forall_nodup_boundNames :
    ¬ forall files : List File, (files.map File.name).Nodup ->
      ((Registry.entriesOf files).map Entry.fullName).Nodup ->
      (forall file, file ∈ files ->
        forall site, site ∈ Traversal.messagesFirst.ofFile file ->
          forall name, name ∈ site.names -> name.isWord = true) ->
      forall file, file ∈ files -> forall (workDir : Path.Place) (extension : Text) esModule,
        ofFile workDir (Registry.ofFiles files) extension file = .ok esModule ->
          esModule.boundNames.Nodup := by
  intro hall
  have hnodup := hall equalAliases (by decide +kernel) (by decide +kernel) (by decide +kernel)
    (equalAliases.headD {}) List.mem_cons_self [] ['.', 'm'] _ rfl
  exact absurd hnodup (by decide +kernel)

end EsModule
end ProtoModules
