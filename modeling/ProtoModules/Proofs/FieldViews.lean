import Mathlib.Data.List.TakeWhile
import ProtoModules.Proofs.Registration

/-!
# The views of a field

A field is seen in three ways: its type expression, the class that its values are read into,
and whether it is a map.  A map has no class.  Any other message field has the class that its
type expression names, unless the expression is the one for unknown types.  That expression
is an identifier like any other, so a type may bear it as its name, and then a field of this
type has no class although the type is known.
-/

namespace ProtoModules

open Schema

theorem Text.not_mem_beforeFirst (sep : Char) (text : Text) : sep ∉ beforeFirst sep text := by
  intro hsep
  unfold beforeFirst at hsep
  have htest := List.mem_takeWhile_imp hsep
  exact of_decide_eq_true htest rfl

theorem Entry.identifier_append_memberPath (entry : Entry) :
    entry.identifier ++ entry.memberPath = entry.path :=
  List.prefix_iff_eq_append.mp (List.takeWhile_prefix _)

namespace Scope

/-!
## Types and classes
-/

theorem reference_of_lookup_eq_none {scope : Scope} {typeName : Text}
    (hlookup : scope.registry.lookup typeName = none) :
    scope.reference typeName = unknownType := by
  rw [reference, hlookup]

theorem isRepeated_of_isMap {scope : Scope} {field : Field} (hmap : scope.isMap field = true) :
    field.isRepeated = true := by
  unfold isMap at hmap
  rw [Bool.and_eq_true, Bool.and_eq_true] at hmap
  exact hmap.1.2

theorem valueType_of_message (scope : Scope) {field : Field} (htype : field.type = .message) :
    scope.valueType field = scope.reference field.typeName := by
  rw [valueType, htype]
  rfl

theorem classOf?_eq_some_iff {scope : Scope} {field : Field} {name : Text} :
    scope.classOf? field = some name ↔
      field.type = .message ∧ scope.isMap field = false ∧
        scope.reference field.typeName ≠ unknownType ∧
        name = scope.reference field.typeName := by
  unfold classOf?
  by_cases hother : field.type ≠ .message ∨ scope.isMap field = true
  · rw [if_pos hother]
    constructor
    · intro hnone
      cases hnone
    · intro hclass
      rcases hother with htype | hmap
      · exact absurd hclass.1 htype
      · rw [hclass.2.1] at hmap
        cases hmap
  · rw [if_neg hother]
    rw [not_or, Classical.not_not, Bool.not_eq_true] at hother
    by_cases hunknown : scope.reference field.typeName = unknownType
    · simp [hunknown]
    · simp [hunknown, hother.1, hother.2, eq_comm]

theorem typeOf_of_isMap {scope : Scope} {field : Field} (hmap : scope.isMap field = true) :
    scope.typeOf field =
      "Object<".toList ++ (scope.keyValueTypes field).1 ++ ", ".toList ++
        (scope.keyValueTypes field).2 ++ ">".toList := by
  rw [typeOf, if_pos (isRepeated_of_isMap hmap), if_pos hmap]

theorem typeOf_of_not_isMap {scope : Scope} {field : Field} (hmap : scope.isMap field = false) :
    scope.typeOf field =
      scope.valueType field ++ if field.isRepeated then "[]".toList else [] := by
  unfold typeOf
  by_cases hrepeated : field.isRepeated = true
  · simp only [hrepeated, hmap, if_true, if_false, Bool.false_eq_true]
  · simp only [hrepeated, if_false, Bool.false_eq_true, List.append_nil]

/-!
## Known types with the name of the unknown
-/

theorem entry_of_lone {site : Site} (hnames : site.WellNamed) (haround : site.around = [])
    (owner : File) :
    (site.entry owner).identifier = site.declared.name ∧ (site.entry owner).memberPath = [] := by
  have hpath : (site.entry owner).path = site.declared.name := Site.path_eq_name haround
  have hidentifier : (site.entry owner).identifier = site.declared.name := by
    rw [Entry.identifier, hpath, Text.beforeFirst_of_not_mem hnames.dot_not_mem_name]
  constructor
  · exact hidentifier
  · rw [Entry.memberPath, hidentifier, hpath, List.drop_length]

theorem dot_mem_memberPath {site : Site} (hnames : site.WellNamed) (haround : site.around ≠ [])
    (owner : File) : '.' ∈ (site.entry owner).memberPath := by
  have hpath : '.' ∈ (site.entry owner).path := hnames.dot_mem_path_iff.mpr haround
  rw [← Entry.identifier_append_memberPath] at hpath
  rcases List.mem_append.mp hpath with hfirst | hrest
  · exact absurd hfirst (Text.not_mem_beforeFirst '.' _)
  · exact hrest

/--
A known type is named like an unknown one only if it stands at the top of its file and is
declared, or imported, under that very name.
-/
theorem reference_eq_unknownType_iff {scope : Scope} {typeName : Text} {owner : File}
    {site : Site} (hnames : site.WellNamed) (hpackage : scope.file.package.head? ≠ some '.')
    (hfile : owner.name = scope.file.name -> owner.package = scope.file.package)
    (hlookup : scope.registry.lookup typeName = some (site.entry owner)) :
    scope.reference typeName = unknownType ↔
      site.around = [] ∧
        (if owner.name = scope.file.name then site.declared.name
          else scope.localName owner.name site.declared.name) = unknownType := by
  by_cases hhome : owner.name = scope.file.name
  · have hreference : scope.reference typeName = site.identifier := by
      rw [reference, hlookup, ← hnames.localIdentifier_fullName hpackage, ← hfile hhome]
      exact if_pos hhome
    rw [if_pos hhome, hreference, Site.identifier]
    by_cases haround : site.around = []
    · simp only [haround, if_true, true_and]
    · simp [haround, unknownType]
  · have hreference : scope.reference typeName =
        scope.localName owner.name (site.entry owner).identifier ++
          (site.entry owner).memberPath := by
      rw [reference, hlookup]
      exact if_neg hhome
    rw [if_neg hhome, hreference]
    by_cases haround : site.around = []
    · rcases entry_of_lone hnames haround owner with ⟨hidentifier, hmember⟩
      rw [hidentifier, hmember, List.append_nil]
      simp only [haround, true_and]
    · constructor
      · intro hany
        have hdot := List.mem_append_right
          (scope.localName owner.name (site.entry owner).identifier)
          (dot_mem_memberPath hnames haround owner)
        rw [hany] at hdot
        exact absurd hdot (by decide)
      · intro hlone
        exact absurd hlone.1 haround

/--
A field has a class exactly when it is a message field that is no map, its type is known, and
the type is not named like an unknown one.  The class is the reference to the type, and the
type expression is this reference, with brackets if the field is repeated.  A map has no
class, and its type expression is made from those of its keys and values.
-/
theorem class_and_type_agree (scope : Scope) (field : Field) :
    ((scope.classOf? field).isSome = true ↔
      field.type = .message ∧ scope.isMap field = false ∧
        (exists entry, scope.registry.lookup field.typeName = some entry) ∧
        scope.reference field.typeName ≠ unknownType) ∧
    (forall name, scope.classOf? field = some name ->
      name = scope.reference field.typeName ∧
      scope.typeOf field = name ++ if field.isRepeated then "[]".toList else []) ∧
    (scope.isMap field = true ->
      scope.classOf? field = none ∧
      scope.typeOf field =
        "Object<".toList ++ (scope.keyValueTypes field).1 ++ ", ".toList ++
          (scope.keyValueTypes field).2 ++ ">".toList) ∧
    (forall (owner : File) (site : Site),
      scope.registry.lookup field.typeName = some (site.entry owner) -> site.WellNamed ->
      scope.file.package.head? ≠ some '.' ->
      (owner.name = scope.file.name -> owner.package = scope.file.package) ->
      (scope.reference field.typeName = unknownType ↔
        site.around = [] ∧
          (if owner.name = scope.file.name then site.declared.name
            else scope.localName owner.name site.declared.name) = unknownType)) := by
  refine ⟨?_, ?_, ?_, ?_⟩
  · rw [Option.isSome_iff_exists]
    constructor
    · intro hsome
      rcases hsome with ⟨name, hname⟩
      rcases classOf?_eq_some_iff.mp hname with ⟨htype, hmap, hknown, _⟩
      refine ⟨htype, hmap, ?_, hknown⟩
      apply Option.ne_none_iff_exists'.mp
      intro hlookup
      exact hknown (reference_of_lookup_eq_none hlookup)
    · intro hclass
      rcases hclass with ⟨htype, hmap, _, hknown⟩
      exact ⟨_, classOf?_eq_some_iff.mpr ⟨htype, hmap, hknown, rfl⟩⟩
  · intro name hname
    rcases classOf?_eq_some_iff.mp hname with ⟨htype, hmap, _, hreference⟩
    constructor
    · exact hreference
    · rw [typeOf_of_not_isMap hmap, valueType_of_message scope htype, hreference]
  · intro hmap
    constructor
    · rw [classOf?, if_pos (Or.inr hmap)]
    · exact typeOf_of_isMap hmap
  · intro owner site hlookup hnames hpackage hfile
    exact reference_eq_unknownType_iff hnames hpackage hfile hlookup

/-- A message that is named like an unknown type, and a message with two fields. -/
def namesake : File where
  name := ['f']
  messages := [
    { name := unknownType },
    { name := ['M']
      fields := [
        { type := .message, typeName := '.' :: unknownType },
        { type := .message, label := .repeated, typeName := ['.', 'M'] }] }]

def namesakeScope : Scope where
  registry := Registry.ofFiles [namesake]
  file := namesake

theorem class_and_type_of_namesake :
    exists name,
      namesakeScope.classOf?
        { type := .message, label := .repeated, typeName := ['.', 'M'] } = some name ∧
      namesakeScope.typeOf
        { type := .message, label := .repeated, typeName := ['.', 'M'] } =
          name ++ ['[', ']'] := by
  have hfound : ((namesakeScope.registry.lookup ['.', 'M']).isSome = true ∧
      namesakeScope.isMap
        { type := .message, label := .repeated, typeName := ['.', 'M'] } = false) ∧
      namesakeScope.reference ['.', 'M'] ≠ unknownType := by decide +kernel
  rcases class_and_type_agree namesakeScope
    { type := .message, label := .repeated, typeName := ['.', 'M'] } with ⟨hclass, htype, _⟩
  have hsome := hclass.mpr
    ⟨rfl, hfound.1.2, Option.isSome_iff_exists.mp hfound.1.1, hfound.2⟩
  rcases Option.isSome_iff_exists.mp hsome with ⟨name, hname⟩
  exact ⟨name, hname, (htype name hname).2⟩

/-- A message field that is no map may lack a class although its type is known. -/
theorem not_forall_isSome_classOf? :
    ¬ forall (scope : Scope) (field : Field),
      (scope.classOf? field).isSome = true ↔
        field.type = .message ∧ scope.isMap field = false ∧
          exists entry, scope.registry.lookup field.typeName = some entry := by
  intro hall
  have hfound : (namesakeScope.registry.lookup ('.' :: unknownType)).isSome = true := by
    decide +kernel
  have hclass := (hall namesakeScope { type := .message, typeName := '.' :: unknownType }).mpr
    ⟨rfl, rfl, Option.isSome_iff_exists.mp hfound⟩
  exact absurd hclass (by decide +kernel)

end Scope
end ProtoModules
