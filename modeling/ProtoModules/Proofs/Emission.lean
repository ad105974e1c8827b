import Mathlib.Data.List.Forall2
import ProtoModules.Proofs.Descent
import ProtoModules.Proofs.VisitOrder

/-!
# What a module declares, and in which order

A draft that meets no collision declares every type of its file once, but for map
entries and what is in them.  What a class refers to by its aliases stands before
the class, since the aliases are read when the class is declared.
-/

namespace ProtoModules

open Schema

namespace Draft

theorem visits_of_mem_children {file : File} {site child : Site} (hsite : site ∈ emitted file)
    (hchild : child ∈ site.children) :
    child ∈ emitted file ∧ Traversal.rootLast.Visits child site := by
  rcases mem_emitted.mp hsite with ⟨hstands, hemitted⟩
  rcases Site.standsIn_of_mem_children hstands hemitted hchild with ⟨hchild, hkept, step, haddress⟩
  refine ⟨mem_emitted.mpr ⟨hchild, hkept⟩, ?_⟩
  have hbefore : Traversal.rootLast.Before (site.address ++ [step]) (site.address ++ []) :=
    (Traversal.before_append site.address).mpr rfl
  rw [Traversal.Visits, haddress]
  simpa using hbefore

theorem pairwise_emitted (file : File) : (emitted file).Pairwise Traversal.rootLast.Visits :=
  (Traversal.pairwise_ofFile .rootLast file).filter Site.isEmitted

/-- A site that is visited before another one has the smaller index. -/
theorem index_lt_of_visits {file : File} {first second : Site} {place index : Nat}
    (hfirst : (emitted file)[place]? = some first)
    (hsecond : (emitted file)[index]? = some second)
    (hvisits : Traversal.rootLast.Visits first second) : place < index := by
  rcases List.getElem?_eq_some_iff.mp hfirst with ⟨hplace, rfl⟩
  rcases List.getElem?_eq_some_iff.mp hsecond with ⟨hindex, rfl⟩
  rcases Nat.lt_trichotomy place index with hlt | rfl | hgt
  · exact hlt
  · exact absurd hvisits (Traversal.not_before_self _ _)
  · have hback := List.pairwise_iff_getElem.mp (pairwise_emitted file) index place hindex hplace hgt
    exact absurd hvisits (Traversal.not_before_of_before hback)

/-!
## The declarations of a draft
-/

/--
What the declaration at an index of a module is, given the site it stands for.  An
enum has its constants.  A class has a member for each of its fields in their order,
with the name, the number, the type and the label of the field, and one alias for
each site right inside its own, which holds the identifier of a declaration at a
smaller index.
-/
def Portrays (scope : Scope) (sites : List Site) (declarations : List Declaration)
    (index : Nat) (site : Site) : Declaration -> Prop
  | .enumeration table =>
      exists enum, site.declared = .enumeration enum ∧
        table.name = enum.name ∧ table.values = enum.values ∧
        (table.exported = true ↔ site.around = [])
  | .message cls =>
      exists message, site.declared = .message message ∧
        cls.name = message.name ∧ cls.members = message.fields.map (memberOf scope) ∧
        List.Forall₂ (fun (field : Field) (member : Member) =>
          member.name = field.name ∧ member.number = field.number ∧
            member.type = field.type ∧ member.label = field.label)
          message.fields cls.members ∧
        (cls.exported = true ↔ site.around = []) ∧
        List.Forall₂ (fun (child : Site) (entry : Alias) =>
          entry.name = child.declared.name ∧
            exists place, place < index ∧ sites[place]? = some child ∧
              declarations[place]?.map Declaration.identifier = some entry.target)
          site.children cls.aliases

/--
How the declarations of a module stand for the sites of its file: one declaration
for each site that no map entry hides, in the order of emission.
-/
structure StandsFor (scope : Scope) (sites : List Site) (declarations : List Declaration) :
    Prop where
  mem_iff : forall site, site ∈ sites ↔ site.StandsIn scope.file ∧ site.isEmitted = true
  nodup : (sites.map Site.address).Nodup
  ordered : sites.Pairwise Traversal.rootLast.Visits
  length_eq : declarations.length = sites.length
  portrays : forall index site, sites[index]? = some site ->
    exists declaration, declarations[index]? = some declaration ∧
      Portrays scope sites declarations index site declaration

theorem exists_index_of_mem_children {scope : Scope} {site child : Site} {index : Nat}
    (hsite : (emitted scope.file)[index]? = some site) (hchild : child ∈ site.children) :
    exists place, place < index ∧ (emitted scope.file)[place]? = some child ∧
      ((emitted scope.file).map (unitOf scope))[place]?.map Declaration.identifier =
        some (child.label scope.file.package) := by
  rcases visits_of_mem_children (List.mem_of_getElem? hsite) hchild with ⟨hmem, hvisits⟩
  rcases List.mem_iff_getElem?.mp hmem with ⟨place, hplace⟩
  exact ⟨place, index_lt_of_visits hplace hsite hvisits, hplace, by simp [hplace]⟩

theorem portrays_unitOf {scope : Scope} {site : Site} {index : Nat}
    (hsite : (emitted scope.file)[index]? = some site) :
    Portrays scope (emitted scope.file) ((emitted scope.file).map (unitOf scope)) index site
      (unitOf scope site) := by
  cases hdeclared : site.declared with
  | enumeration enum =>
      simp only [unitOf, hdeclared]
      exact ⟨enum, hdeclared, rfl, rfl, List.isEmpty_iff⟩
  | message message =>
      simp only [unitOf, hdeclared]
      refine ⟨message, hdeclared, rfl, rfl, ?_, List.isEmpty_iff, ?_⟩
      · rw [List.forall₂_map_right_iff, List.forall₂_same]
        intro field _
        exact ⟨rfl, rfl, rfl, rfl⟩
      · rw [List.forall₂_map_right_iff, List.forall₂_same]
        intro child hchild
        exact ⟨rfl, exists_index_of_mem_children hsite hchild⟩

/--
A module declares every type of its file exactly once, but for map entries and what
is in them: the enums at the top first, then each message at the top with everything
in it, and within a message the enums in it, the messages in it, and then its class.
-/
theorem declarations_stand_for_sites {scope : Scope} {draft : Draft}
    (hok : ofScope scope = .ok draft) :
    exists sites, StandsFor scope sites draft.declarations := by
  rcases ofScope_eq_ok_iff.mp hok with ⟨claims, _, rfl⟩
  refine ⟨emitted scope.file, ?_, Traversal.nodup_address_of_pairwise (pairwise_emitted _),
    pairwise_emitted _, ?_, ?_⟩
  · intro site
    exact mem_emitted
  · exact List.length_map _
  · intro index site hsite
    exact ⟨unitOf scope site, by simp [hsite], portrays_unitOf hsite⟩

/--
An enum and a message at the top; in the message two fields, an enum, a map entry and a message
with a field.
-/
def layered : File where
  name := ['f']
  messages := [
    { name := ['M']
      fields := [
        { name := "a_b".toList, number := 2, type := .string },
        { name := ['n'], number := -1, label := .repeated, type := .message
          typeName := ".M.N".toList }]
      nested := [
        { name := ['E'], fields := [{ name := "key".toList, number := 1 }], isMapEntry := true },
        { name := ['N'], fields := [{ name := ['x'], number := 7, type := .bool }] }]
      enums := [{ name := ['K'] }] }]
  enums := [{ name := ['T'] }]

def memberNumbers : Declaration -> List (Text × Int32)
  | .enumeration _ => []
  | .message cls => cls.members.map fun member => (member.name, member.number)

theorem declarations_of_layered :
    exists draft, ofScope { registry := {}, file := layered } = .ok draft ∧
      draft.declarations.map Declaration.identifier =
        [['T'], ['_', '_', 'M', '_', 'K'], ['_', '_', 'M', '_', 'N'], ['M']] ∧
      draft.declarations.map memberNumbers =
        [[], [], [(['x'], 7)], [("a_b".toList, 2), (['n'], -1)]] ∧
      exists sites, StandsFor { registry := {}, file := layered } sites draft.declarations :=
  ⟨_, rfl, by decide +kernel, by decide +kernel, declarations_stand_for_sites rfl⟩

end Draft
end ProtoModules
