import Mathlib.Data.List.Nodup
import ProtoModules.Proofs.Drafting

/-!
# What the registry knows

The registry is filled by a recursion that hands the entry of each message down to
what is in it.  Taken together it inserts the entries of all sites of all files, in
the order of the registry, and so a full name has the entry of the first site that
bears it.
-/

namespace ProtoModules

open Schema

namespace Site

def entry (file : File) (site : Site) : Entry where
  fullName := site.fullName file.package
  fileName := file.name
  name := site.declared.name
  path := site.path
  declared := site.declared

/--
The entry of a site is exported under the first name of the site, and the names that
lead down from there are the others.
-/
theorem WellNamed.identifier_entry {site : Site} (hnames : site.WellNamed) (file : File) :
    site.names = (site.entry file).identifier ::
      ((site.entry file).memberPath.splitOn '.').tail := by
  cases hall : site.names with
  | nil => exact absurd hall site.names_ne_nil
  | cons first others =>
      have hfirst : '.' ∉ first := (hnames first (by simp [hall])).2
      have hentry : (site.entry file).path = Text.joined "." (first :: others) := by
        rw [← hall]
        rfl
      cases others with
      | nil =>
          rw [Text.joined_singleton] at hentry
          have hidentifier : (site.entry file).identifier = first := by
            rw [Entry.identifier, hentry, Text.beforeFirst_of_not_mem hfirst]
          have hmember : (site.entry file).memberPath = [] := by
            rw [Entry.memberPath, hidentifier, hentry, List.drop_length]
          rw [hidentifier, hmember]
          rfl
      | cons second more =>
          have hjoin := Text.joined_dot_append [first] (second :: more) (by simp) (by simp)
          rw [Text.joined_singleton, List.singleton_append, ← hentry] at hjoin
          have hidentifier : (site.entry file).identifier = first := by
            rw [Entry.identifier, hjoin, Text.beforeFirst_append _ hfirst]
          have hmember : (site.entry file).memberPath =
              ['.'].intercalate ([] :: second :: more) := by
            rw [Entry.memberPath, hidentifier, hjoin, List.drop_left]
            rfl
          have hwords : forall name, name ∈ [] :: second :: more -> '.' ∉ name := by
            intro name hname
            rcases List.mem_cons.mp hname with rfl | hname
            · simp
            · exact (hnames name (by rw [hall]; exact List.mem_cons_of_mem first hname)).2
          rw [hidentifier, hmember, List.splitOn_intercalate '.' hwords (by simp)]
          rfl

end Site

namespace Registry

def entriesOf (files : List File) : List Entry :=
  files.flatMap fun file => (Traversal.messagesFirst.ofFile file).map (Site.entry file)

theorem mem_entriesOf {files : List File} {entry : Entry} :
    entry ∈ entriesOf files ↔
      exists (file : File) (site : Site),
        file ∈ files ∧ site.StandsIn file ∧ entry = site.entry file := by
  rw [entriesOf, List.mem_flatMap]
  constructor
  · intro hlisted
    rcases hlisted with ⟨file, hfile, hentry⟩
    rcases List.mem_map.mp hentry with ⟨site, hsite, rfl⟩
    exact ⟨file, site, hfile, Traversal.mem_ofFile.mp hsite, rfl⟩
  · intro hstands
    rcases hstands with ⟨file, site, hfile, hsite, rfl⟩
    exact ⟨file, hfile, List.mem_map_of_mem (Traversal.mem_ofFile.mpr hsite)⟩

def insertAll (registry : Registry) (entries : List Entry) : Registry :=
  entries.foldl insert registry

theorem insertAll_append (registry : Registry) (front back : List Entry) :
    registry.insertAll (front ++ back) = (registry.insertAll front).insertAll back :=
  List.foldl_append

/-!
## The recursion of the registry
-/

/-- Whether an optional entry is that of the innermost message around a declaration. -/
structure Encloses (file : File) (around : List Message) (parent : Option Entry) : Prop where
  fullName_eq : (parent.map Entry.fullName).getD [] = parentName file.package around
  path_eq : parent.map Entry.path =
    if around = [] then none else some (Text.joined "." (around.map Message.name))

theorem encloses_nil (file : File) : Encloses file [] none := ⟨rfl, rfl⟩

theorem encloses_snoc (file : File) (address : List Step) (around : List Message)
    (message : Message) :
    Encloses file (around ++ [message])
      (some (Site.entry file ⟨address, around, .message message⟩)) where
  fullName_eq := by
    rw [parentName_snoc]
    exact (Site.full_parentName_around file.package ⟨address, around, .message message⟩).symm
  path_eq := by simp [Site.entry, Site.path, Site.names, Declared.name]

theorem declare_eq_entry {file : File} {parent : Option Entry} {site : Site}
    (hparent : Encloses file site.around parent) {name : Text} {declared : Declared}
    (hname : site.declared.name = name) (hdeclared : site.declared = declared) :
    Entry.declare file parent name declared = site.entry file := by
  subst hname hdeclared
  have hfull := Site.full_parentName_around file.package site
  rw [← hparent.fullName_eq] at hfull
  have hpath := hparent.path_eq
  cases parent with
  | none =>
      have haround : site.around = [] := by simpa using hpath
      simp only [Entry.declare, Site.entry, hfull, Site.path_eq_name haround]
  | some outer =>
      have haround : site.around ≠ [] := by
        intro hnil
        simp [hnil] at hpath
      have houter : outer.path = Text.joined "." (site.around.map Message.name) := by
        simpa [haround] using hpath
      simp only [Entry.declare, Site.entry, hfull, houter, Site.path_eq_append haround]

theorem addEnum_eq {file : File} {parent : Option Entry} {site : Site} {enum : Enum}
    (registry : Registry) (hparent : Encloses file site.around parent)
    (hdeclared : site.declared = .enumeration enum) :
    addEnum file parent registry enum = registry.insert (site.entry file) := by
  rw [addEnum, declare_eq_entry hparent (by rw [hdeclared]; rfl) hdeclared]

theorem foldl_addEnum_eq {file : File} {around : List Message} {parent : Option Entry}
    (hparent : Encloses file around parent) (address : List Step) (registry : Registry)
    (index : Nat) (enums : List Enum) :
    enums.foldl (addEnum file parent) registry =
      registry.insertAll
        (((Site.ofEnums index enums).map (Site.under address around)).map
          (Site.entry file)) := by
  induction enums generalizing registry index with
  | nil => rfl
  | cons enum rest ih =>
      have hinner : Encloses file
          (Site.under address around ⟨[.enumeration index], [], .enumeration enum⟩).around
          parent := by simpa using hparent
      rw [List.foldl_cons, addEnum_eq registry hinner rfl, ih _ (index + 1)]
      rfl

mutual

theorem addMessage_eq {file : File} {around : List Message} {parent : Option Entry}
    (hparent : Encloses file around parent) (address : List Step) (registry : Registry)
    (index : Nat) :
    forall message : Message,
      addMessage file parent registry message =
        registry.insertAll
          (((Traversal.messagesFirst.ofMessage index message).map
            (Site.under address around)).map (Site.entry file))
  | ⟨name, fields, nested, enums, isMapEntry⟩ => by
      have hinside := encloses_snoc file (address ++ [.message index]) around
        ⟨name, fields, nested, enums, isMapEntry⟩
      have hroot : Entry.declare file parent name
          (.message ⟨name, fields, nested, enums, isMapEntry⟩) =
            Site.entry file ⟨address ++ [.message index], around,
              .message ⟨name, fields, nested, enums, isMapEntry⟩⟩ :=
        declare_eq_entry hparent rfl rfl
      rw [addMessage, hroot, addMessages_eq hinside (address ++ [.message index]) _ 0 nested,
        foldl_addEnum_eq hinside (address ++ [.message index]) _ 0 enums,
        ← insertAll_append, Traversal.ofMessage, Traversal.map_arrange]
      simp [Traversal.arrange, insertAll, Site.under, Function.comp_def]

theorem addMessages_eq {file : File} {around : List Message} {parent : Option Entry}
    (hparent : Encloses file around parent) (address : List Step) (registry : Registry)
    (index : Nat) :
    forall messages : List Message,
      addMessages file parent registry messages =
        registry.insertAll
          (((Traversal.messagesFirst.ofMessages index messages).map
            (Site.under address around)).map (Site.entry file))
  | [] => by rw [addMessages]; rfl
  | message :: rest => by
      rw [addMessages, addMessage_eq hparent address registry index message,
        addMessages_eq hparent address _ (index + 1) rest, Traversal.ofMessages,
        List.map_append, List.map_append, insertAll_append]

end

theorem addFile_eq (registry : Registry) (file : File) :
    registry.addFile file =
      registry.insertAll ((Traversal.messagesFirst.ofFile file).map (Site.entry file)) := by
  rw [addFile, addMessages_eq (encloses_nil file) [] registry 0 file.messages,
    foldl_addEnum_eq (encloses_nil file) [] _ 0 file.enums, Site.map_under_nil,
    Site.map_under_nil, ← insertAll_append, ← List.map_append]
  rfl

/-- The registry of some files is filled with the entries of their sites. -/
theorem ofFiles_eq (files : List File) : ofFiles files = insertAll {} (entriesOf files) := by
  have hfold : forall registry : Registry,
      files.foldl addFile registry = registry.insertAll (entriesOf files) := by
    induction files with
    | nil => intro registry; rfl
    | cons file rest ih =>
        intro registry
        rw [List.foldl_cons, addFile_eq, ih, ← insertAll_append]
        rfl
  exact hfold {}

/-!
## Look-ups
-/

theorem find?_insertAll (registry : Registry) (entries : List Entry) (fullName : Text) :
    (registry.insertAll entries).find? fullName =
      (registry.find? fullName).or (entries.find? fun entry => entry.fullName = fullName) := by
  induction entries generalizing registry with
  | nil => simp [insertAll]
  | cons entry rest ih =>
      have hstep := ih (registry.insert entry)
      rw [show registry.insertAll (entry :: rest) = (registry.insert entry).insertAll rest
        from rfl, hstep]
      by_cases hname : entry.fullName = fullName
      · subst hname
        rw [find?_insert_self]
        cases registry.find? entry.fullName <;> simp
      · rw [find?_insert_of_ne hname]
        simp [hname]

/-- A full name has the entry of the first site that bears it. -/
theorem lookup_ofFiles (files : List File) (typeName : Text) :
    (ofFiles files).lookup typeName =
      (entriesOf files).find? fun entry => entry.fullName = TypeName.absolute typeName := by
  rw [lookup, ofFiles_eq, find?_insertAll]
  simp [find?]

theorem exists_site_of_lookup {files : List File} {typeName : Text} {entry : Entry}
    (hlookup : (ofFiles files).lookup typeName = some entry) :
    exists (file : File) (site : Site),
      file ∈ files ∧ site.StandsIn file ∧ entry = site.entry file := by
  rw [lookup_ofFiles] at hlookup
  exact mem_entriesOf.mp (List.mem_of_find?_eq_some hlookup)

theorem foreign?_eq_some_iff {registry : Registry} {fileName typeName : Text} {entry : Entry} :
    registry.foreign? fileName typeName = some entry ↔
      registry.lookup typeName = some entry ∧ entry.fileName ≠ fileName := by
  rw [foreign?, Option.filter_eq_some_iff, decide_eq_true_iff]

/-!
## Distinct full names
-/

theorem nodup_fullNames_ofFile {files : List File} {file : File}
    (hnames : ((entriesOf files).map Entry.fullName).Nodup) (hfile : file ∈ files)
    (order : Traversal) :
    ((order.ofFile file).map (Site.fullName file.package)).Nodup := by
  rw [entriesOf, List.map_flatMap, List.nodup_flatMap] at hnames
  have hown := hnames.1 file hfile
  rw [List.map_map] at hown
  exact (((Traversal.ofFile_perm order .messagesFirst file).map _).nodup_iff).mpr hown

theorem eq_of_fullName_eq {files : List File} {file : File} {left right : Site}
    (hnames : ((entriesOf files).map Entry.fullName).Nodup) (hfile : file ∈ files)
    (hleft : left.StandsIn file) (hright : right.StandsIn file)
    (heq : left.fullName file.package = right.fullName file.package) : left = right :=
  List.inj_on_of_nodup_map (nodup_fullNames_ofFile hnames hfile .messagesFirst)
    (Traversal.mem_ofFile.mpr hleft) (Traversal.mem_ofFile.mpr hright) heq

theorem nodup_fullNames_claimed {files : List File} {file : File}
    (hnames : ((entriesOf files).map Entry.fullName).Nodup) (hfile : file ∈ files) :
    ((Draft.claimed file).map (Site.fullName file.package)).Nodup :=
  (nodup_fullNames_ofFile hnames hfile .enumsFirst).sublist
    (List.Sublist.map _ List.filter_sublist)

end Registry
end ProtoModules
