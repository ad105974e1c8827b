import ProtoModules.Proofs.Linking

/-!
# The import lists of a module

What a module imports is a set of keys, and the lists that a module is written from are
that set in order: the keys ascend, each file has one group, and a group has the keys of
its file.  Nothing else about the references enters the lists, so they do not change when
messages, the messages in them or fields change places.
-/

namespace ProtoModules

open Schema

/-!
## Messages in another order
-/

/-- Messages in another order, with their parts in another order at every depth. -/
inductive Rearranged : List Message -> List Message -> Prop where
  | nil : Rearranged [] []
  | cons {first second : Message} {rest others : List Message} :
      first.name = second.name ->
      first.isMapEntry = second.isMapEntry ->
      first.fields.Perm second.fields ->
      first.enums.Perm second.enums ->
      Rearranged first.nested second.nested ->
      Rearranged rest others ->
      Rearranged (first :: rest) (second :: others)
  | swap (first second : Message) (rest : List Message) :
      Rearranged (first :: second :: rest) (second :: first :: rest)
  | trans {first second third : List Message} :
      Rearranged first second -> Rearranged second third -> Rearranged first third

theorem Imports.scanned_eq_ite (message : Message) :
    scanned message = if message.isMapEntry then [] else message :: scannedAll message.nested := by
  cases message
  rw [scanned]

namespace Rearranged

theorem refl : forall messages : List Message, Rearranged messages messages
  | [] => nil
  | ⟨_, _, nested, _, _⟩ :: rest =>
      cons rfl rfl (List.Perm.refl _) (List.Perm.refl _) (refl nested) (refl rest)

theorem of_perm {left right : List Message} (hperm : left.Perm right) :
    Rearranged left right := by
  induction hperm with
  | nil => exact nil
  | cons message _ ih =>
      exact cons rfl rfl (List.Perm.refl _) (List.Perm.refl _) (refl message.nested) ih
  | swap first second rest => exact swap second first rest
  | trans _ _ ihfirst ihsecond => exact ihfirst.trans ihsecond

theorem map_name {left right : List Message} (hleft : Rearranged left right) :
    (left.map Message.name).Perm (right.map Message.name) := by
  induction hleft with
  | nil => exact List.Perm.nil
  | cons hname _ _ _ _ _ _ ih =>
      rw [List.map_cons, List.map_cons, hname]
      exact List.Perm.cons _ ih
  | swap first second rest => exact List.Perm.swap _ _ _
  | trans _ _ ihfirst ihsecond => exact ihfirst.trans ihsecond

/-- The scan meets the same fields, whatever the order of the messages. -/
theorem scannedFields {left right : List Message} (hleft : Rearranged left right) :
    ((Imports.scannedAll left).flatMap Message.fields).Perm
      ((Imports.scannedAll right).flatMap Message.fields) := by
  induction hleft with
  | nil => exact List.Perm.refl _
  | @cons first second rest others _ hmark hfields _ _ _ ihnested ihrest =>
      have hroot : ((Imports.scanned first).flatMap Message.fields).Perm
          ((Imports.scanned second).flatMap Message.fields) := by
        rw [Imports.scanned_eq_ite, Imports.scanned_eq_ite, hmark]
        cases second.isMapEntry with
        | true => exact List.Perm.refl _
        | false => exact hfields.append ihnested
      rw [Imports.scannedAll, Imports.scannedAll, List.flatMap_append, List.flatMap_append]
      exact hroot.append ihrest
  | swap first second rest =>
      simp only [Imports.scannedAll, List.flatMap_append, ← List.append_assoc]
      exact List.Perm.append_right _ List.perm_append_comm
  | trans _ _ ihfirst ihsecond => exact ihfirst.trans ihsecond

end Rearranged

/-!
## Lists that depend on their members only
-/

theorem ImportKey.ascending_eq_of_mem_iff {left right : List ImportKey}
    (hmem : forall key, key ∈ left ↔ key ∈ right) : ascending left = ascending right := by
  have hperm : (ascending left).Perm (ascending right) := by
    rw [List.perm_ext_iff_of_nodup (nodup_of_pairwise (pairwise_ascending left))
      (nodup_of_pairwise (pairwise_ascending right))]
    intro key
    rw [mem_ascending, mem_ascending]
    exact hmem key
  apply hperm.eq_of_pairwise _ (pairwise_ascending left) (pairwise_ascending right)
  intro first second _ _ hbefore hback
  exact absurd (before_trans hbefore hback) (not_before_self first)

namespace Imports

theorem choose_eq_of_mem_iff {left right : List Text}
    (hmem : forall name, name ∈ left ↔ name ∈ right) (keys : List ImportKey) :
    choose left keys = choose right keys := by
  induction keys generalizing left right with
  | nil => rfl
  | cons key rest ih =>
      have htaken : left.contains key.identifier = right.contains key.identifier := by
        rw [Bool.eq_iff_iff, List.contains_iff_mem, List.contains_iff_mem]
        exact hmem key.identifier
      rw [choose, choose, htaken]
      apply congrArg
      apply ih
      intro name
      rw [List.mem_cons, List.mem_cons, hmem name]

theorem names_eq_of_rearranged (registry : Registry) {file other : File}
    (hname : other.name = file.name) (hmessages : Rearranged file.messages other.messages)
    (henums : file.enums.Perm other.enums) :
    names registry other = names registry file := by
  have hkeys : keys registry other = keys registry file := by
    have hfields := hmessages.scannedFields.symm
    have hneeded := hfields.flatMap_right (Scope.needed { registry, file })
    have hentries := hneeded.filterMap (registry.foreign? file.name)
    unfold keys
    rw [hname]
    apply ImportKey.ascending_eq_of_mem_iff
    intro key
    exact (hentries.map ImportKey.ofEntry).mem_iff
  have hdeclared : (declaredNames other).Perm (declaredNames file) :=
    (hmessages.map_name.append (henums.map Enum.name)).symm
  rw [names, names, hkeys]
  apply choose_eq_of_mem_iff
  intro name
  exact hdeclared.mem_iff

/-!
## The group of a file
-/

theorem mem_fileNames_grouped {names : List ImportName} {fileName : Text} :
    fileName ∈ (grouped names).map ImportGroup.fileName ↔
      fileName ∈ names.map ImportName.fileName := by
  rw [List.mem_map, List.mem_map]
  constructor
  · intro hgrouped
    rcases hgrouped with ⟨group, hgroup, rfl⟩
    rcases ne_nil_and_fileName_of_mem_grouped hgroup with ⟨hsome, hfile⟩
    rcases List.exists_mem_of_ne_nil _ hsome with ⟨name, hname⟩
    exact ⟨name, mem_of_mem_grouped hgroup hname, hfile name hname⟩
  · intro hlisted
    rcases hlisted with ⟨name, hname, rfl⟩
    rw [← flatMap_names_grouped names] at hname
    rcases List.mem_flatMap.mp hname with ⟨group, hgroup, hname⟩
    exact ⟨group, hgroup, ((ne_nil_and_fileName_of_mem_grouped hgroup).2 name hname).symm⟩

/-- A group has all names of its file, in their order. -/
theorem names_eq_filter_of_mem_grouped {names : List ImportName}
    (hnames : names.Pairwise fun left right => left.fileName ≤ right.fileName)
    {group : ImportGroup} (hgroup : group ∈ grouped names) :
    group.names = names.filter fun name => name.fileName = group.fileName := by
  have hordered := pairwise_grouped hnames
  have hflat := flatMap_names_grouped names
  have hfiles : forall {other}, other ∈ grouped names ->
      forall name, name ∈ other.names -> name.fileName = other.fileName :=
    fun hother => (ne_nil_and_fileName_of_mem_grouped hother).2
  rcases List.append_of_mem hgroup with ⟨front, back, hsplit⟩
  rw [hsplit] at hordered hflat hfiles
  rcases List.pairwise_append.mp hordered with ⟨_, hback, hfront⟩
  -- The names before and behind the group belong to other files, so the test drops them.
  have hdropped : forall groups : List ImportGroup,
      (forall other, other ∈ groups -> other ∈ front ++ group :: back ∧
        other.fileName ≠ group.fileName) ->
      (groups.flatMap ImportGroup.names).filter
        (fun name => name.fileName = group.fileName) = [] := by
    intro groups hgroups
    rw [List.filter_eq_nil_iff]
    intro name hname hsame
    rcases List.mem_flatMap.mp hname with ⟨other, hother, hname⟩
    rcases hgroups other hother with ⟨hmem, hne⟩
    rw [hfiles hmem name hname] at hsame
    exact hne (of_decide_eq_true hsame)
  have hkept : group.names.filter (fun name => name.fileName = group.fileName) =
      group.names := by
    rw [List.filter_eq_self]
    intro name hname
    exact decide_eq_true (hfiles (by simp) name hname)
  have hbefore := hdropped front fun other hother =>
    ⟨List.mem_append_left _ hother, ne_of_lt (hfront other hother group List.mem_cons_self)⟩
  have hbehind := hdropped back fun other hother =>
    ⟨by simp [hother], ne_of_gt ((List.pairwise_cons.mp hback).1 other hother)⟩
  rw [← hflat, List.flatMap_append, List.flatMap_cons, List.filter_append, List.filter_append,
    hbefore, hbehind, hkept, List.nil_append, List.append_nil]

theorem pairwise_identifiers_of_mem_grouped {registry : Registry} {file : File}
    {group : ImportGroup} (hgroup : group ∈ grouped (names registry file)) :
    (group.names.map ImportName.identifier).Pairwise (· < ·) := by
  have hkeys := pairwise_keys registry file
  rw [← map_key_names, List.pairwise_map] at hkeys
  have hfiles := (ne_nil_and_fileName_of_mem_grouped hgroup).2
  have hinside : group.names.Pairwise fun left right => left.key.before right.key = true := by
    rw [names_eq_filter_of_mem_grouped (pairwise_fileName_names registry file) hgroup]
    exact hkeys.filter _
  rw [List.pairwise_map]
  apply hinside.imp_of_mem
  intro left right hleft hright hbefore
  rcases ImportKey.before_iff.mp hbefore with hlt | ⟨_, hlt⟩
  · rw [ImportName.key, ImportName.key, hfiles left hleft, hfiles right hright] at hlt
    exact absurd hlt (lt_irrefl _)
  · exact hlt

theorem mem_keys_names {registry : Registry} {file : File} {key : ImportKey} :
    key ∈ (names registry file).map ImportName.key ↔
      exists message, message ∈ scannedAll file.messages ∧
        exists field, field ∈ message.fields ∧
          exists typeName, typeName ∈ Scope.needed { registry, file } field ∧
            exists entry, registry.lookup typeName = some entry ∧
              entry.fileName ≠ file.name ∧ key = ⟨entry.fileName, entry.identifier⟩ := by
  rw [map_key_names, mem_keys]
  simp only [Registry.foreign?_eq_some_iff, and_assoc]
  rfl

theorem fileName_ne_of_mem_names {registry : Registry} {file : File} {name : ImportName}
    (hname : name ∈ names registry file) : name.fileName ≠ file.name := by
  have hkey : name.key ∈ (names registry file).map ImportName.key := List.mem_map_of_mem hname
  rcases mem_keys_names.mp hkey with ⟨_, _, _, _, _, _, entry, _, hforeign, hentry⟩
  rw [ImportName.key, ImportKey.mk.injEq] at hentry
  rw [hentry.1]
  exact hforeign

/--
The names that a module imports are those that its fields need from other files, each
once.  The fields are those of the messages that no map entry hides, and a field needs the
type that it mentions.  The names come in one group for each file, by ascending file name,
and in a group by ascending identifier.  The lists are the same for every order of the
messages, of the messages in them and of their fields.
-/
theorem import_lists_match_references (registry : Registry) (file : File) :
    ((names registry file).map ImportName.key).Nodup ∧
    (forall key, key ∈ (names registry file).map ImportName.key ↔
      exists message, message ∈ scannedAll file.messages ∧
        exists field, field ∈ message.fields ∧
          exists typeName, typeName ∈ Scope.needed { registry, file } field ∧
            exists entry, registry.lookup typeName = some entry ∧
              entry.fileName ≠ file.name ∧ key = ⟨entry.fileName, entry.identifier⟩) ∧
    (forall message, message ∈ scannedAll file.messages ↔
      exists site : Site, site.StandsIn file ∧ site.isKept = true ∧
        site.declared = .message message) ∧
    (forall field typeName, typeName ∈ Scope.needed { registry, file } field ↔
      Scope.Mentions { registry, file } field typeName) ∧
    (grouped (names registry file)).Pairwise
      (fun left right => left.fileName < right.fileName) ∧
    (forall fileName, fileName ∈ (grouped (names registry file)).map ImportGroup.fileName ↔
      fileName ∈ (names registry file).map ImportName.fileName) ∧
    file.name ∉ (grouped (names registry file)).map ImportGroup.fileName ∧
    (forall group, group ∈ grouped (names registry file) ->
      group.names ≠ [] ∧
      group.names = (names registry file).filter (fun name =>
        name.fileName = group.fileName) ∧
      (group.names.map ImportName.identifier).Pairwise (· < ·) ∧
      forall name, name ∈ group.names ->
        (name.localName = name.identifier -> name.clause = name.identifier) ∧
        (name.localName ≠ name.identifier ->
          name.clause = name.identifier ++ " as ".toList ++ name.localName)) ∧
    (forall other : File, other.name = file.name ->
      Rearranged file.messages other.messages -> file.enums.Perm other.enums ->
      names registry other = names registry file ∧
        grouped (names registry other) = grouped (names registry file)) := by
  have hordered := pairwise_fileName_names registry file
  refine ⟨?_, fun _ => mem_keys_names, fun _ => mem_scannedAll, fun _ _ => Scope.mem_needed,
    pairwise_grouped hordered, fun _ => mem_fileNames_grouped, ?_, ?_, ?_⟩
  · rw [map_key_names]
    exact nodup_keys registry file
  · rw [mem_fileNames_grouped, List.mem_map]
    intro hown
    rcases hown with ⟨name, hname, hsame⟩
    exact fileName_ne_of_mem_names hname hsame
  · intro group hgroup
    refine ⟨(ne_nil_and_fileName_of_mem_grouped hgroup).1,
      names_eq_filter_of_mem_grouped hordered hgroup,
      pairwise_identifiers_of_mem_grouped hgroup, ?_⟩
    intro name _
    constructor
    · intro hsame
      rw [ImportName.clause, if_pos hsame]
    · intro haliased
      rw [ImportName.clause, if_neg haliased]
  · intro other hname hmessages henums
    have hnames := names_eq_of_rearranged registry hname hmessages henums
    exact ⟨hnames, congrArg grouped hnames⟩

/-- Two messages with fields for types of two other files, one of them under a name of its own. -/
def consumer : File where
  name := ['f']
  messages := [
    { name := ['A']
      fields := [
        { type := .message, typeName := ['.', 'q', '.', 'D'] },
        { type := .message, typeName := ['.', 'p', '.', 'A'] }] },
    { name := ['B'], fields := [{ type := .message, typeName := ['.', 'q', '.', 'C'] }] }]

def suppliers : List File := [
  { name := ['h'], package := ['q'], messages := [{ name := ['C'] }, { name := ['D'] }] },
  { name := ['g'], package := ['p'], messages := [{ name := ['A'] }] }]

theorem import_lists_of_consumer :
    (grouped (names (Registry.ofFiles suppliers) consumer)).map (fun group =>
      (group.fileName, group.names.map ImportName.clause)) =
        [(['g'], ["A as A$g".toList]), (['h'], [['C'], ['D']])] ∧
    names (Registry.ofFiles suppliers)
        { consumer with messages := consumer.messages.reverse } =
      names (Registry.ofFiles suppliers) consumer := by
  rcases import_lists_match_references (Registry.ofFiles suppliers) consumer with
    ⟨_, _, _, _, _, _, _, _, hrearranged⟩
  constructor
  · decide +kernel
  · exact (hrearranged { consumer with messages := consumer.messages.reverse } rfl
      (Rearranged.of_perm (List.reverse_perm _).symm) (List.Perm.refl _)).1

end Imports
end ProtoModules
