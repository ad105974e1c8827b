import ProtoModules.EsModule.Layout
import ProtoModules.Proofs.BoundNames
import ProtoModules.Proofs.Capitals

/-!
# When members of a class have one name

A class has a property, a method to read and a method to set for each of its fields, and one
method that projects it to JSON.  Nothing checks that these have different names.  A method that
reads is never named like one that sets, or like the projection.  So a name occurs twice only
where two fields give their methods the same suffix, where the name of a field begins like that
of a method, and where a property is named like the projection.
-/

namespace ProtoModules

open Schema

/-!
## Property names that begin with small letters
-/

theorem Text.upperChar_ne_self {c : Char} (hsmall : c.isLower = true) : upperChar c ≠ [c] := by
  have hletters : forall index, index < 26 ->
      upperChar (Char.ofNat (97 + index)) ≠ [Char.ofNat (97 + index)] := by
    decide +kernel
  have hrange := Bool.and_eq_true_iff.mp hsmall
  have hfirst : 97 ≤ c.toNat := of_decide_eq_true hrange.1
  have hlast : c.toNat ≤ 122 := of_decide_eq_true hrange.2
  have hletter := hletters (c.toNat - 97) (by omega)
  rwa [Nat.add_sub_cancel' hfirst, Char.ofNat_toNat] at hletter

namespace CamelCase

theorem lower_append {word : Text} (hword : '_' ∉ word) (name : Text) :
    lower (word ++ name) = word ++ lower name := by
  induction word with
  | nil => rfl
  | cons c rest ih =>
      rw [List.mem_cons, not_or] at hword
      rw [List.cons_append, lower_cons (Ne.symm hword.1), ih hword.2, List.cons_append]

/-- What follows an underscore is a capital, so a small letter comes from the name itself. -/
theorem exists_of_lower_eq_cons {name rest : Text} {c : Char} (hsmall : c.isLower = true)
    (hname : lower name = c :: rest) : exists more, name = c :: more ∧ lower more = rest := by
  cases name with
  | nil => cases hname
  | cons first more =>
      by_cases hfirst : first = '_'
      · rw [hfirst, lower_underscore] at hname
        exact absurd (upperChar_of_upper_eq_cons hname) (Text.upperChar_ne_self hsmall)
      · rw [lower_cons hfirst] at hname
        rcases List.cons.inj hname with ⟨rfl, hmore⟩
        exact ⟨more, rfl, hmore⟩

theorem exists_of_lower_eq_append {word name rest : Text}
    (hsmall : word.all Char.isLower = true) (hname : lower name = word ++ rest) :
    exists more, name = word ++ more ∧ lower more = rest := by
  induction word generalizing name with
  | nil => exact ⟨name, rfl, hname⟩
  | cons c others ih =>
      rw [List.all_cons, Bool.and_eq_true] at hsmall
      rcases exists_of_lower_eq_cons hsmall.1 hname with ⟨tail, rfl, htail⟩
      rcases ih hsmall.2 htail with ⟨more, rfl, hmore⟩
      exact ⟨more, rfl, hmore⟩

end CamelCase

/-!
## Names of members
-/

def Member.getMethod (member : Member) : Text :=
  "get".toList ++ member.methodSuffix

def Member.setMethod (member : Member) : Text :=
  "set".toList ++ member.methodSuffix

namespace MessageClass

def projection : Text := "toJSON".toList

/-- The names of the members that the objects of a class have. -/
def memberNames (cls : MessageClass) : List Text :=
  cls.members.map Member.propertyName ++ (cls.members.map Member.getMethod ++
    (cls.members.map Member.setMethod ++ [projection]))

/-- Whether a line of a class opens the body of a member with a name. -/
def Opens (line name : Text) : Prop :=
  line = indented 1 ("get ".toList ++ name ++ "() \x7b".toList) ∨
  line = indented 1 (name ++ "() \x7b".toList) ∨
  line = indented 1 (name ++ "(value) \x7b".toList)

theorem exists_line_of_mem_memberNames {cls : MessageClass} {name : Text}
    (hname : name ∈ cls.memberNames) : exists line, line ∈ cls.lines ∧ Opens line name := by
  have haccessors : forall {member : Member} {line : Text}, member ∈ cls.members ->
      line ∈ member.accessorLines -> line ∈ cls.lines := by
    intro member line hmember hline
    apply List.mem_append_left
    exact List.mem_append_right _ (List.mem_flatMap.mpr ⟨member, hmember, hline⟩)
  rw [memberNames, List.mem_append, List.mem_append, List.mem_append, List.mem_singleton] at hname
  -- The line is found by its place in the layout, which computes whatever the names are.
  rcases hname with hproperty | hget | hset | rfl
  · rcases List.mem_map.mp hproperty with ⟨member, hmember, rfl⟩
    refine ⟨_, haccessors hmember ?_, Or.inl rfl⟩
    exact List.mem_of_getElem? (i := 2) rfl
  · rcases List.mem_map.mp hget with ⟨member, hmember, rfl⟩
    refine ⟨_, haccessors hmember ?_, Or.inr (Or.inl rfl)⟩
    exact List.mem_of_getElem? (i := 12) rfl
  · rcases List.mem_map.mp hset with ⟨member, hmember, rfl⟩
    refine ⟨_, haccessors hmember ?_, Or.inr (Or.inr rfl)⟩
    exact List.mem_of_getElem? (i := 20) rfl
  · refine ⟨_, List.mem_append_right _ ?_, Or.inr (Or.inl rfl)⟩
    exact List.mem_of_getElem? (i := 1) rfl

/--
Whether the members for fields with these names have names of their own: the suffixes of the
methods differ, no name is that of a method with its suffix spelled as a property would have
it, and no property is named like the projection.
-/
structure Apart (names : List Text) : Prop where
  suffixes : (names.map CamelCase.upper).Nodup
  methods : forall name, name ∈ names -> forall other, other ∈ names -> forall rest,
    name = "get".toList ++ rest ∨ name = "set".toList ++ rest ->
      CamelCase.lower rest ≠ CamelCase.upper other
  projected : forall name, name ∈ names -> CamelCase.lower name ≠ projection

/-- Fields whose methods have different suffixes have different property names. -/
theorem nodup_lower_of_nodup_upper {names : List Text}
    (hupper : (names.map CamelCase.upper).Nodup) : (names.map CamelCase.lower).Nodup := by
  have hmap : (names.map CamelCase.lower).map CamelCase.upper = names.map CamelCase.upper := by
    rw [List.map_map]
    apply List.map_congr_left
    intro name _
    exact CamelCase.upper_lower name
  rw [← hmap] at hupper
  exact hupper.of_map CamelCase.upper

theorem nodup_method_iff (word : String) (names : List Text) :
    (names.map fun name => word.toList ++ CamelCase.upper name).Nodup ↔
      (names.map CamelCase.upper).Nodup := by
  have hmap : (names.map fun name => word.toList ++ CamelCase.upper name) =
      (names.map CamelCase.upper).map (word.toList ++ ·) := by
    rw [List.map_map]
    rfl
  rw [hmap]
  exact List.nodup_map_iff (List.append_right_injective word.toList)

/-- A property has the name of a method exactly if its field's name begins like the method's. -/
theorem lower_eq_method_iff {word name other : Text} (hsmall : word.all Char.isLower = true) :
    CamelCase.lower name = word ++ CamelCase.upper other ↔
      exists rest, name = word ++ rest ∧ CamelCase.lower rest = CamelCase.upper other := by
  constructor
  · exact CamelCase.exists_of_lower_eq_append hsmall
  · intro hrest
    rcases hrest with ⟨rest, rfl, hsuffix⟩
    have hword : '_' ∉ word := by
      intro hmem
      exact absurd (List.all_eq_true.mp hsmall '_' hmem) (by decide)
    rw [CamelCase.lower_append hword, hsuffix]

def namesFor (names : List Text) : List Text :=
  names.map CamelCase.lower ++
    ((names.map fun name => "get".toList ++ CamelCase.upper name) ++
      ((names.map fun name => "set".toList ++ CamelCase.upper name) ++ [projection]))

theorem memberNames_eq_namesFor {cls : MessageClass} {scope : Scope} {fields : List Field}
    (hmembers : cls.members = fields.map (Draft.memberOf scope)) :
    cls.memberNames = namesFor (fields.map Field.name) := by
  simp only [memberNames, namesFor, hmembers, List.map_map]
  rfl

theorem apart_of_nodup {names : List Text} (hnodup : (namesFor names).Nodup) : Apart names := by
  rw [namesFor, List.nodup_append] at hnodup
  rcases hnodup with ⟨_, hmethods, hproperties⟩
  rw [List.nodup_append, nodup_method_iff] at hmethods
  refine ⟨hmethods.1, ?_, ?_⟩
  · intro name hname other hother rest hspelled hsuffix
    apply hproperties _ (List.mem_map_of_mem hname) (CamelCase.lower name) ?_ rfl
    rcases hspelled with rfl | rfl
    · rw [CamelCase.lower_append (by decide), hsuffix]
      exact List.mem_append_left _ (List.mem_map_of_mem hother)
    · rw [CamelCase.lower_append (by decide), hsuffix]
      exact List.mem_append_right _ (List.mem_append_left _ (List.mem_map_of_mem hother))
  · intro name hname
    apply hproperties _ (List.mem_map_of_mem hname)
    simp

theorem Apart.lower_ne_method {names : List Text} (hapart : Apart names) {name other : Text}
    (hname : name ∈ names) (hother : other ∈ names) :
    CamelCase.lower name ≠ "get".toList ++ CamelCase.upper other ∧
      CamelCase.lower name ≠ "set".toList ++ CamelCase.upper other := by
  constructor
  · intro hget
    rcases (lower_eq_method_iff (by decide)).mp hget with ⟨rest, hspelled, hsuffix⟩
    exact hapart.methods name hname other hother rest (Or.inl hspelled) hsuffix
  · intro hset
    rcases (lower_eq_method_iff (by decide)).mp hset with ⟨rest, hspelled, hsuffix⟩
    exact hapart.methods name hname other hother rest (Or.inr hspelled) hsuffix

theorem nodup_of_apart {names : List Text} (hapart : Apart names) : (namesFor names).Nodup := by
  rw [namesFor, List.nodup_append, List.nodup_append, List.nodup_append, nodup_method_iff,
    nodup_method_iff]
  refine ⟨nodup_lower_of_nodup_upper hapart.suffixes,
    ⟨hapart.suffixes, ⟨hapart.suffixes, List.nodup_singleton _, ?_⟩, ?_⟩, ?_⟩
  -- The three kinds of methods begin with different letters.
  · intro method hset other hprojection hsame
    rcases List.mem_map.mp hset with ⟨name, _, rfl⟩
    rw [List.mem_singleton.mp hprojection] at hsame
    cases hsame
  · intro method hget other hother hsame
    rcases List.mem_map.mp hget with ⟨name, _, rfl⟩
    rcases List.mem_append.mp hother with hset | hprojection
    · rcases List.mem_map.mp hset with ⟨_, _, rfl⟩
      cases hsame
    · rw [List.mem_singleton.mp hprojection] at hsame
      cases hsame
  · intro property hproperty method hmethod hsame
    rcases List.mem_map.mp hproperty with ⟨name, hname, rfl⟩
    rw [List.mem_append, List.mem_append, List.mem_singleton] at hmethod
    rcases hmethod with hget | hset | hprojection
    · rcases List.mem_map.mp hget with ⟨other, hother, rfl⟩
      exact (hapart.lower_ne_method hname hother).1 hsame
    · rcases List.mem_map.mp hset with ⟨other, hother, rfl⟩
      exact (hapart.lower_ne_method hname hother).2 hsame
    · rw [hprojection] at hsame
      exact hapart.projected name hname hsame

/-- Slots are named after properties, so they are different if the members are. -/
theorem nodup_slots {cls : MessageClass} (hnodup : cls.memberNames.Nodup) :
    (cls.members.map Member.slotLine).Nodup := by
  have hproperties : (cls.members.map Member.propertyName).Nodup := hnodup.of_append_left
  have hslots : cls.members.map Member.slotLine =
      (cls.members.map Member.propertyName).map fun property =>
        indented 1 ("#".toList ++ property ++ ";".toList) := by
    rw [List.map_map]
    rfl
  rw [hslots]
  apply hproperties.map
  intro property other hsame
  simpa [indented] using hsame

/--
The class of a message has members with different names exactly if the names of its fields are
apart, and then every field has a slot of its own as well.  The body of each member is part of
the text of the class.
-/
theorem nodup_memberNames_iff {workDir : Path.Place} {registry : Registry} {extension : Text}
    {file : File} {esModule : EsModule}
    (hok : EsModule.ofFile workDir registry extension file = .ok esModule) {site : Site}
    (hsite : site ∈ Draft.emitted file) {message : Message}
    (hmessage : site.declared = .message message) :
    exists cls, Declaration.message cls ∈ esModule.declarations ∧
      cls.identifier = site.label file.package ∧
      cls.members.map Member.name = message.fields.map Field.name ∧
      (forall name, name ∈ cls.memberNames -> exists line, line ∈ cls.lines ∧ Opens line name) ∧
      (cls.memberNames.Nodup ↔ Apart (message.fields.map Field.name)) ∧
      (cls.memberNames.Nodup -> (cls.members.map Member.slotLine).Nodup) := by
  rcases EsModule.ofFile_eq_ok_iff.mp hok with ⟨_, draft, _, hdraft, rfl⟩
  rcases Draft.ofScope_eq_ok_iff.mp hdraft with ⟨_, _, rfl⟩
  have hunit : Draft.unitOf (Scope.ofFile registry file) site ∈
      (Draft.emitted file).map (Draft.unitOf (Scope.ofFile registry file)) :=
    List.mem_map_of_mem hsite
  simp only [Draft.unitOf, hmessage] at hunit
  refine ⟨_, hunit, rfl, ?_, fun _ => exists_line_of_mem_memberNames, ?_, nodup_slots⟩
  · rw [List.map_map]
    rfl
  · rw [memberNames_eq_namesFor rfl]
    exact ⟨apart_of_nodup, nodup_of_apart⟩

def fileWith (names : List Text) : File where
  name := ['f']
  messages := [{ name := ['M'], fields := names.map fun name => { name } }]

def siteWith (names : List Text) : Site where
  address := [.message 0]
  around := []
  declared := .message { name := ['M'], fields := names.map fun name => { name } }

theorem siteWith_mem_emitted (names : List Text) :
    siteWith names ∈ Draft.emitted (fileWith names) :=
  List.mem_cons_self

theorem memberNames_of_samples :
    (exists esModule cls,
      EsModule.ofFile [] {} [] (fileWith ["x".toList, "get_it".toList]) = .ok esModule ∧
        Declaration.message cls ∈ esModule.declarations ∧ cls.memberNames.Nodup) ∧
    (exists esModule cls,
      EsModule.ofFile [] {} [] (fileWith ["x".toList, "get_x".toList]) = .ok esModule ∧
        Declaration.message cls ∈ esModule.declarations ∧ ¬ cls.memberNames.Nodup) := by
  constructor
  · rcases (⟨_, rfl⟩ : exists esModule,
      EsModule.ofFile [] {} [] (fileWith ["x".toList, "get_it".toList]) = .ok esModule) with
      ⟨esModule, hmodule⟩
    rcases nodup_memberNames_iff hmodule (siteWith_mem_emitted _) rfl with
      ⟨cls, hcls, _, _, _, hnodup, _⟩
    refine ⟨esModule, cls, hmodule, hcls, hnodup.mpr ⟨by decide +kernel, ?_, by decide +kernel⟩⟩
    intro name hname other hother rest hspelled
    have hrest : rest = "_it".toList := by
      rcases List.mem_pair.mp hname with rfl | rfl
      · rcases hspelled with hget | hset
        · cases hget
        · cases hset
      · rcases hspelled with hget | hset
        · have hsplit : "get".toList ++ "_it".toList = "get".toList ++ rest := hget
          exact (List.append_cancel_left hsplit).symm
        · cases hset
    rw [hrest]
    revert other
    decide +kernel
  · rcases (⟨_, rfl⟩ : exists esModule,
      EsModule.ofFile [] {} [] (fileWith ["x".toList, "get_x".toList]) = .ok esModule) with
      ⟨esModule, hmodule⟩
    rcases nodup_memberNames_iff hmodule (siteWith_mem_emitted _) rfl with
      ⟨cls, hcls, _, _, _, hnodup, _⟩
    refine ⟨esModule, cls, hmodule, hcls, fun hall => ?_⟩
    exact (hnodup.mp hall).methods "get_x".toList (by decide) "x".toList (by decide) "_x".toList
      (Or.inl rfl) (by decide +kernel)

def isIdentifier (text : Text) : Bool :=
  text.isWord && text.head?.any Char.isAlpha

/-- Different names of fields, made of letters, digits and underscores, may clash as members. -/
theorem not_forall_nodup_memberNames :
    ¬ forall (workDir : Path.Place) (registry : Registry) (extension : Text) (file : File)
        (esModule : EsModule), EsModule.ofFile workDir registry extension file = .ok esModule ->
      forall (site : Site) (message : Message), site ∈ Draft.emitted file ->
        site.declared = .message message -> (message.fields.map Field.name).Nodup ->
        (forall field, field ∈ message.fields -> isIdentifier field.name = true) ->
        exists cls, Declaration.message cls ∈ esModule.declarations ∧
          cls.identifier = site.label file.package ∧ cls.memberNames.Nodup := by
  intro hall
  have hclass := hall [] {} [] (fileWith ["x".toList, "get_x".toList]) _ rfl _ _
    (siteWith_mem_emitted _) rfl (by decide) (by decide +kernel)
  rcases hclass with ⟨cls, hcls, _, hnodup⟩
  have hnames : cls.memberNames = namesFor ["x".toList, "get_x".toList] := by
    cases List.mem_singleton.mp hcls
    rfl
  rw [hnames] at hnodup
  exact absurd hnodup (by decide +kernel)

end MessageClass
end ProtoModules
