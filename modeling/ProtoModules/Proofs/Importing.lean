import Mathlib.Data.Char
import Mathlib.Data.List.Lex
import Mathlib.Data.List.Nodup
import ProtoModules.Proofs.Drafting

/-!
# The imports of a module

The keys of the imports are listed in ascending order, each once, and each gets one
local name.  Since the order is by file first, the names of one file are neighbours,
and grouping them gives one import statement for each file.
-/

namespace ProtoModules

open Schema

/-- In a list without repetitions, a test that one element passes leaves that one. -/
theorem filter_eq_singleton {α : Type} {test : α -> Bool} {items : List α} {item : α}
    (hnodup : items.Nodup) (hitem : item ∈ items) (htest : test item = true)
    (hunique : forall other, other ∈ items -> test other = true -> other = item) :
    items.filter test = [item] := by
  refine List.perm_singleton.mp
    ((List.perm_ext_iff_of_nodup (hnodup.filter test) (List.nodup_singleton item)).mpr ?_)
  intro other
  rw [List.mem_filter, List.mem_singleton]
  constructor
  · intro hpassed
    rcases hpassed with ⟨hother, hpasses⟩
    exact hunique other hother hpasses
  · intro heq
    subst heq
    exact ⟨hitem, htest⟩

namespace ImportKey

/-!
## Ascending lists of keys
-/

theorem before_iff {left right : ImportKey} :
    left.before right = true ↔
      left.fileName < right.fileName ∨
        (left.fileName = right.fileName ∧ left.identifier < right.identifier) := by
  simp [before]

theorem not_before_self (key : ImportKey) : ¬ key.before key = true := by
  simp [before_iff]

theorem before_trans {first second third : ImportKey} (hleft : first.before second = true)
    (hright : second.before third = true) : first.before third = true := by
  rw [before_iff] at hleft hright ⊢
  rcases hleft with hleft | ⟨hfile, hleft⟩
  · rcases hright with hright | ⟨hsame, _⟩
    · exact Or.inl (lt_trans hleft hright)
    · exact Or.inl (hsame ▸ hleft)
  · rcases hright with hright | ⟨hsame, hright⟩
    · exact Or.inl (hfile ▸ hright)
    · exact Or.inr ⟨hfile.trans hsame, lt_trans hleft hright⟩

theorem before_of_not_before {left right : ImportKey} (hnot : ¬ left.before right = true)
    (hne : left ≠ right) : right.before left = true := by
  rw [before_iff, not_or] at hnot
  rw [before_iff]
  rcases hnot with ⟨hfile, hidentifier⟩
  rcases lt_trichotomy left.fileName right.fileName with hlt | heq | hgt
  · exact absurd hlt hfile
  · rcases lt_trichotomy left.identifier right.identifier with hlt | hsame | hgt
    · exact absurd ⟨heq, hlt⟩ hidentifier
    · cases left
      cases right
      simp_all
    · exact Or.inr ⟨heq.symm, hgt⟩
  · exact Or.inl hgt

theorem mem_insert {key other : ImportKey} {keys : List ImportKey} :
    other ∈ insert key keys ↔ other = key ∨ other ∈ keys := by
  induction keys with
  | nil => simp [insert]
  | cons first rest ih =>
      by_cases hbefore : key.before first = true
      · simp [insert, hbefore]
      · by_cases heq : key = first
        · subst heq
          simp [insert, hbefore]
        · simp only [insert, hbefore, heq, if_false, List.mem_cons, ih, Bool.false_eq_true]
          exact or_left_comm

theorem pairwise_insert {key : ImportKey} {keys : List ImportKey}
    (hkeys : keys.Pairwise fun left right => left.before right = true) :
    (insert key keys).Pairwise fun left right => left.before right = true := by
  induction keys with
  | nil => exact List.pairwise_singleton _ key
  | cons first rest ih =>
      rcases List.pairwise_cons.mp hkeys with ⟨hfirst, hrest⟩
      by_cases hbefore : key.before first = true
      · simp only [insert, hbefore, if_true]
        refine List.pairwise_cons.mpr ⟨?_, hkeys⟩
        intro other hother
        rcases List.mem_cons.mp hother with rfl | hother
        · exact hbefore
        · exact before_trans hbefore (hfirst other hother)
      · by_cases heq : key = first
        · subst heq
          simpa [insert, hbefore] using hkeys
        · simp only [insert, hbefore, heq, if_false, Bool.false_eq_true]
          refine List.pairwise_cons.mpr ⟨?_, ih hrest⟩
          intro other hother
          rcases mem_insert.mp hother with rfl | hother
          · exact before_of_not_before hbefore heq
          · exact hfirst other hother

theorem mem_ascending {key : ImportKey} {keys : List ImportKey} :
    key ∈ ascending keys ↔ key ∈ keys := by
  induction keys with
  | nil => rfl
  | cons first rest ih => exact mem_insert.trans (by rw [List.mem_cons]; exact or_congr_right ih)

theorem pairwise_ascending (keys : List ImportKey) :
    (ascending keys).Pairwise fun left right => left.before right = true := by
  induction keys with
  | nil => exact List.Pairwise.nil
  | cons first rest ih => exact pairwise_insert ih

theorem nodup_of_pairwise {keys : List ImportKey}
    (hkeys : keys.Pairwise fun left right => left.before right = true) : keys.Nodup := by
  rw [List.nodup_iff_pairwise_ne]
  refine hkeys.imp fun {left right} hbefore heq => ?_
  rw [heq] at hbefore
  exact not_before_self right hbefore

end ImportKey

/-!
## The messages whose fields count
-/

def Site.message? (site : Site) : Option Message :=
  match site.declared with
  | .message message => some message
  | .enumeration _ => none

theorem Site.message?_eq_some_iff {site : Site} {message : Message} :
    site.message? = some message ↔ site.declared = .message message := by
  unfold message?
  cases site.declared with
  | message found => simp
  | enumeration enum => simp

namespace Imports

theorem filterMap_message?_ofEnums (index : Nat) (enums : List Enum) :
    (Site.ofEnums index enums).filterMap Site.message? = [] := by
  rw [List.filterMap_eq_nil_iff]
  intro site hsite
  rcases List.mem_map.mp hsite with ⟨numbered, _, rfl⟩
  rfl

theorem filterMap_message?_under (sites : List Site) (address : List Step)
    (around : List Message) :
    (sites.map (Site.under address around)).filterMap Site.message? =
      sites.filterMap Site.message? := by
  rw [List.filterMap_map]
  rfl

/-- A message comes before the messages in it, be it a map entry or not. -/
theorem filterMap_message?_ofMessage (index : Nat) (message : Message) :
    ((Traversal.enumsFirst.ofMessage index message).filter Site.isEmitted).filterMap
        Site.message? =
      message :: ((Traversal.enumsFirst.ofMessages 0 message.nested).filter
        Site.isKept).filterMap Site.message? := by
  rw [Traversal.filter_isEmitted_ofMessage]
  simp only [Traversal.arrange, List.filterMap_append, filterMap_message?_ofEnums,
    filterMap_message?_under]
  rfl

mutual

theorem scanned_eq (index : Nat) :
    forall message : Message,
      scanned message =
        ((Traversal.enumsFirst.ofMessage index message).filter Site.isKept).filterMap
          Site.message?
  | ⟨name, fields, nested, enums, isMapEntry⟩ => by
      rw [scanned, Traversal.filter_isKept_ofMessage]
      cases isMapEntry with
      | true => rfl
      | false =>
          simp only [Bool.false_eq_true, if_false]
          rw [filterMap_message?_ofMessage, ← scannedAll_eq 0 nested]

/-- The scan of a file finds the messages that no map entry hides. -/
theorem scannedAll_eq (index : Nat) :
    forall messages : List Message,
      scannedAll messages =
        ((Traversal.enumsFirst.ofMessages index messages).filter Site.isKept).filterMap
          Site.message?
  | [] => by
      rw [scannedAll]
      rfl
  | message :: rest => by
      rw [scannedAll, scanned_eq index message, scannedAll_eq (index + 1) rest,
        Traversal.ofMessages, List.filter_append, List.filterMap_append]

end

theorem mem_scannedAll {file : File} {message : Message} :
    message ∈ scannedAll file.messages ↔
      exists site : Site, site.StandsIn file ∧ site.isKept = true ∧
        site.declared = .message message := by
  rw [scannedAll_eq 0, List.mem_filterMap]
  constructor
  · intro hfound
    rcases hfound with ⟨site, hsite, hmessage⟩
    rcases List.mem_filter.mp hsite with ⟨hsite, hkept⟩
    have hvisited : site ∈ Traversal.enumsFirst.ofFile file := by
      rw [Traversal.ofFile, Traversal.below, Traversal.mem_arrange]
      exact Or.inr (Or.inr hsite)
    exact ⟨site, Traversal.mem_ofFile.mp hvisited, hkept, Site.message?_eq_some_iff.mp hmessage⟩
  · intro hkeeps
    rcases hkeeps with ⟨site, hsite, hkept, hdeclared⟩
    have hvisited : site ∈ Traversal.enumsFirst.ofFile file := Traversal.mem_ofFile.mpr hsite
    refine ⟨site, List.mem_filter.mpr ⟨?_, hkept⟩, Site.message?_eq_some_iff.mpr hdeclared⟩
    rw [Traversal.ofFile, Traversal.below, Traversal.mem_arrange] at hvisited
    rcases hvisited with hroot | henum | hnested
    · cases hroot
    · rcases List.mem_map.mp henum with ⟨numbered, _, rfl⟩
      cases hdeclared
    · exact hnested

end Imports

def Scope.ofFile (registry : Registry) (file : File) : Scope where
  registry := registry
  file := file
  names := Imports.names registry file

def ImportName.key (name : ImportName) : ImportKey :=
  ⟨name.fileName, name.identifier⟩

namespace Imports

theorem pairwise_keys (registry : Registry) (file : File) :
    (keys registry file).Pairwise fun left right => left.before right = true :=
  ImportKey.pairwise_ascending _

theorem nodup_keys (registry : Registry) (file : File) : (keys registry file).Nodup :=
  ImportKey.nodup_of_pairwise (pairwise_keys registry file)

theorem mem_keys {registry : Registry} {file : File} {key : ImportKey} :
    key ∈ keys registry file ↔
      exists message, message ∈ scannedAll file.messages ∧
        exists field, field ∈ message.fields ∧
          exists typeName, typeName ∈ Scope.needed { registry, file } field ∧
            exists entry, registry.foreign? file.name typeName = some entry ∧
              key = ImportKey.ofEntry entry := by
  simp only [keys, ImportKey.mem_ascending, List.mem_map, List.mem_filterMap, List.mem_flatMap]
  constructor
  · intro hlisted
    rcases hlisted with
      ⟨entry, ⟨typeName, ⟨field, ⟨message, hmessage, hfield⟩, htype⟩, hentry⟩, rfl⟩
    exact ⟨message, hmessage, field, hfield, typeName, htype, entry, hentry, rfl⟩
  · intro hneeded
    rcases hneeded with ⟨message, hmessage, field, hfield, typeName, htype, entry, hentry, rfl⟩
    exact ⟨entry, ⟨typeName, ⟨field, ⟨message, hmessage, hfield⟩, htype⟩, hentry⟩, rfl⟩

/-- Every key gets one name, in the order of the keys. -/
theorem map_key_choose (taken : List Text) (keys : List ImportKey) :
    (choose taken keys).map ImportName.key = keys := by
  induction keys generalizing taken with
  | nil => rfl
  | cons key rest ih =>
      cases key
      simp [choose, ImportName.key, ih]

theorem map_key_names (registry : Registry) (file : File) :
    (names registry file).map ImportName.key = keys registry file :=
  map_key_choose _ _

theorem nodup_names (registry : Registry) (file : File) : (names registry file).Nodup := by
  have hkeys := nodup_keys registry file
  rw [← map_key_names] at hkeys
  exact hkeys.of_map _

theorem eq_of_key_eq {registry : Registry} {file : File} {left right : ImportName}
    (hleft : left ∈ names registry file) (hright : right ∈ names registry file)
    (hkey : left.key = right.key) : left = right := by
  have hkeys := nodup_keys registry file
  rw [← map_key_names] at hkeys
  exact List.inj_on_of_nodup_map hkeys hleft hright hkey

theorem exists_name_of_mem_keys {registry : Registry} {file : File} {key : ImportKey}
    (hkey : key ∈ keys registry file) :
    exists name, name ∈ names registry file ∧ name.key = key := by
  rw [← map_key_names] at hkey
  exact List.mem_map.mp hkey

/-!
## One group for each file
-/

theorem flatMap_names_grouped (names : List ImportName) :
    (grouped names).flatMap ImportGroup.names = names := by
  induction names with
  | nil => rfl
  | cons name rest ih =>
      rw [grouped]
      cases hgroups : grouped rest with
      | nil =>
          rw [hgroups] at ih
          simp [← ih]
      | cons group more =>
          rw [hgroups] at ih
          by_cases hfile : name.fileName = group.fileName
          · simp [hfile, ← ih]
          · simp [hfile, ← ih]

theorem ne_nil_and_fileName_of_mem_grouped {names : List ImportName} :
    forall {group}, group ∈ grouped names ->
      group.names ≠ [] ∧
        forall name, name ∈ group.names -> name.fileName = group.fileName := by
  induction names with
  | nil =>
      intro group hgroup
      cases hgroup
  | cons name rest ih =>
      intro group hgroup
      rw [grouped] at hgroup
      cases hgroups : grouped rest with
      | nil =>
          rw [hgroups] at hgroup
          rw [List.mem_singleton.mp hgroup]
          simp
      | cons first more =>
          rw [hgroups] at hgroup ih
          by_cases hfile : name.fileName = first.fileName
          · simp only [hfile, if_true] at hgroup
            rcases List.mem_cons.mp hgroup with rfl | hgroup
            · refine ⟨by simp, ?_⟩
              intro other hother
              rcases List.mem_cons.mp hother with rfl | hother
              · exact hfile
              · exact (ih List.mem_cons_self).2 other hother
            · exact ih (List.mem_cons_of_mem first hgroup)
          · simp only [hfile, if_false] at hgroup
            rcases List.mem_cons.mp hgroup with rfl | hgroup
            · simp
            · exact ih hgroup

theorem mem_of_mem_grouped {names : List ImportName} {group : ImportGroup} {name : ImportName}
    (hgroup : group ∈ grouped names) (hname : name ∈ group.names) : name ∈ names := by
  rw [← flatMap_names_grouped names]
  exact List.mem_flatMap.mpr ⟨group, hgroup, hname⟩

/-- Names in the order of their files give groups with ascending file names. -/
theorem pairwise_grouped {names : List ImportName}
    (hnames : names.Pairwise fun left right => left.fileName ≤ right.fileName) :
    (grouped names).Pairwise fun left right => left.fileName < right.fileName := by
  induction names with
  | nil => exact List.Pairwise.nil
  | cons name rest ih =>
      rcases List.pairwise_cons.mp hnames with ⟨hname, hrest⟩
      have hle : forall group, group ∈ grouped rest -> name.fileName ≤ group.fileName := by
        intro group hgroup
        rcases ne_nil_and_fileName_of_mem_grouped hgroup with ⟨hsome, hfile⟩
        rcases List.exists_mem_of_ne_nil _ hsome with ⟨other, hother⟩
        rw [← hfile other hother]
        exact hname other (mem_of_mem_grouped hgroup hother)
      have hgrouped := ih hrest
      rw [grouped]
      cases hgroups : grouped rest with
      | nil => exact List.pairwise_singleton _ _
      | cons group more =>
          rw [hgroups] at hgrouped hle
          rcases List.pairwise_cons.mp hgrouped with ⟨hgroup, hmore⟩
          by_cases hfile : name.fileName = group.fileName
          · simp only [hfile, if_true]
            exact List.pairwise_cons.mpr ⟨hgroup, hmore⟩
          · have hlt : name.fileName < group.fileName :=
              lt_of_le_of_ne (hle group List.mem_cons_self) hfile
            simp only [hfile, if_false]
            refine List.pairwise_cons.mpr ⟨?_, hgrouped⟩
            intro other hother
            rcases List.mem_cons.mp hother with rfl | hother
            · exact hlt
            · exact lt_trans hlt (hgroup other hother)

theorem pairwise_fileName_names (registry : Registry) (file : File) :
    (names registry file).Pairwise fun left right => left.fileName ≤ right.fileName := by
  have hkeys := pairwise_keys registry file
  rw [← map_key_names, List.pairwise_map] at hkeys
  refine hkeys.imp fun {left right} hbefore => ?_
  rcases ImportKey.before_iff.mp hbefore with hlt | ⟨heq, _⟩
  · exact le_of_lt hlt
  · exact le_of_eq heq

/-- Every imported name is in the one group of its file, and nowhere else in it. -/
theorem exists_group_of_mem_names {registry : Registry} {file : File} {name : ImportName}
    (hname : name ∈ names registry file) :
    exists group,
      (grouped (names registry file)).filter (fun other => other.fileName = name.fileName) =
        [group] ∧
      group.names.filter (fun other => other.identifier = name.identifier) = [name] := by
  have hordered := pairwise_grouped (pairwise_fileName_names registry file)
  have hflat := flatMap_names_grouped (names registry file)
  have hmem := hname
  rw [← hflat] at hmem
  rcases List.mem_flatMap.mp hmem with ⟨group, hgroup, hinside⟩
  have hfile := (ne_nil_and_fileName_of_mem_grouped hgroup).2
  refine ⟨group, ?_, ?_⟩
  · have hnodup : (grouped (names registry file)).Nodup := by
      rw [List.nodup_iff_pairwise_ne]
      refine hordered.imp fun {left right} hlt heq => ?_
      rw [heq] at hlt
      exact lt_irrefl _ hlt
    refine filter_eq_singleton hnodup hgroup (by simp [hfile name hinside]) ?_
    intro other hother hsame
    have hfiles : (grouped (names registry file)).Pairwise
        fun left right => left.fileName ≠ right.fileName := hordered.imp ne_of_lt
    refine List.inj_on_of_nodup_map (List.pairwise_map.mpr hfiles) hother hgroup ?_
    rw [← hfile name hinside]
    exact of_decide_eq_true hsame
  · have hnodup : group.names.Nodup := by
      have hnames := nodup_names registry file
      rw [← hflat, List.nodup_flatMap] at hnames
      exact hnames.1 group hgroup
    refine filter_eq_singleton hnodup hinside (by simp) ?_
    intro other hother hsame
    refine eq_of_key_eq (mem_of_mem_grouped hgroup hother) hname ?_
    rw [ImportName.key, ImportName.key, hfile other hother, hfile name hinside,
      of_decide_eq_true hsame]

/-- An identifier that is imported gets the local name that is listed for it. -/
theorem localName_eq_of_mem_names {registry : Registry} {file : File} {name : ImportName}
    (hname : name ∈ names registry file) :
    (Scope.ofFile registry file).localName name.fileName name.identifier = name.localName := by
  unfold Scope.localName Scope.ofFile
  cases hfind : (names registry file).find? fun other =>
      other.fileName = name.fileName ∧ other.identifier = name.identifier with
  | none => exact absurd (List.find?_eq_none.mp hfind name hname) (by simp)
  | some found =>
      have hfound := List.find?_some hfind
      rcases of_decide_eq_true hfound with ⟨hfile, hidentifier⟩
      have heq : found = name :=
        eq_of_key_eq (List.mem_of_find?_eq_some hfind) hname
          (by rw [ImportName.key, ImportName.key, hfile, hidentifier])
      rw [heq]

end Imports

/-!
## Import statements
-/

namespace EsModule

def groupOf (statement : Import) : ImportGroup :=
  ⟨statement.fileName, statement.names⟩

theorem map_groupOf_of_mapM {workDir : Path.Place} {file : File} {extension : Text}
    {groups : List ImportGroup} {imports : List Import}
    (hok : groups.mapM (importOf workDir file extension) = .ok imports) :
    imports.map groupOf = groups := by
  induction groups generalizing imports with
  | nil =>
      rw [List.mapM_nil] at hok
      cases hok
      rfl
  | cons group rest ih =>
      rw [List.mapM_cons] at hok
      cases hgroup : importOf workDir file extension group with
      | error failure =>
          rw [hgroup] at hok
          cases hok
      | ok statement =>
          cases hrest : rest.mapM (importOf workDir file extension) with
          | error failure =>
              rw [hgroup, hrest] at hok
              cases hok
          | ok statements =>
              rw [hgroup, hrest] at hok
              cases hok
              have hstatement : groupOf statement = group := by
                unfold importOf at hgroup
                split at hgroup
                · cases hgroup
                  rfl
                · cases hgroup
              rw [List.map_cons, hstatement, ih hrest]

theorem exists_statement_of_mem_names {workDir : Path.Place} {registry : Registry} {file : File}
    {extension : Text} {imports : List Import} {name : ImportName}
    (hok : (Imports.grouped (Imports.names registry file)).mapM
      (importOf workDir file extension) = .ok imports)
    (hname : name ∈ Imports.names registry file) :
    exists statement : Import,
      imports.filter (fun other => other.fileName = name.fileName) = [statement] ∧
      statement.names.filter (fun other => other.identifier = name.identifier) = [name] := by
  rcases Imports.exists_group_of_mem_names hname with ⟨group, hgroup, hinside⟩
  rw [← map_groupOf_of_mapM hok, List.filter_map] at hgroup
  rcases List.map_eq_singleton_iff.mp hgroup with ⟨statement, hstatement, rfl⟩
  exact ⟨statement, hstatement, hinside⟩

/-- What the module of a file consists of. -/
theorem ofFile_eq_ok_iff {workDir : Path.Place} {registry : Registry} {extension : Text}
    {file : File} {esModule : EsModule} :
    ofFile workDir registry extension file = .ok esModule ↔
      exists imports draft,
        (Imports.grouped (Imports.names registry file)).mapM
          (importOf workDir file extension) = .ok imports ∧
        Draft.ofScope (Scope.ofFile registry file) = .ok draft ∧
        esModule = ⟨file.name, imports, draft.declarations⟩ := by
  simp only [ofFile]
  cases hgroups : (Imports.grouped (Imports.names registry file)).mapM
      (importOf workDir file extension) with
  | error failure => simp [Bind.bind, Except.bind]
  | ok imports =>
      have hscope : Scope.ofFile registry file =
          { registry, file, names := Imports.names registry file } := rfl
      rw [← hscope]
      cases hdraft : Draft.ofScope (Scope.ofFile registry file) with
      | error collision => simp [Bind.bind, Except.bind, Except.mapError]
      | ok draft =>
          simp [Bind.bind, Except.bind, Except.mapError, Pure.pure, Except.pure, eq_comm]

end EsModule
end ProtoModules
