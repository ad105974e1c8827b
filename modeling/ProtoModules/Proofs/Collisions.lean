import Mathlib.Data.List.Induction
import Mathlib.Data.List.Nodup
import ProtoModules.Proofs.Drafting

/-!
# Collisions of identifiers

Underscores for dots make different paths look alike, so two declarations of a
file may need one identifier.  A draft notices this when it claims an identifier
that is taken.  As long as the full names of a file are distinct, claiming fails
exactly when an identifier repeats, and the failure names the first declaration
that repeats one and the declaration that had it before.
-/

namespace ProtoModules

open Schema

/-- A list whose images repeat has a first element whose image is there already. -/
theorem exists_first_repeat {α β : Type} {f : α -> β} :
    forall {items : List α}, ¬ (items.map f).Nodup ->
      exists front second back first,
        items = front ++ second :: back ∧ (front.map f).Nodup ∧
          first ∈ front ∧ f first = f second := by
  intro items
  -- The induction is from the end, so that what comes before the last element is known.
  induction items using List.reverseRecOn with
  | nil =>
      intro hrepeat
      exact absurd List.nodup_nil hrepeat
  | append_singleton items last ih =>
      intro hrepeat
      by_cases hitems : (items.map f).Nodup
      · have hlast : f last ∈ items.map f := by
          refine Classical.byContradiction fun hfresh => hrepeat ?_
          rw [List.map_append, List.nodup_append_comm]
          exact List.nodup_cons.mpr ⟨hfresh, hitems⟩
        rcases List.mem_map.mp hlast with ⟨first, hfirst, heq⟩
        exact ⟨items, last, [], first, rfl, hitems, hfirst, heq⟩
      · rcases ih hitems with ⟨front, second, back, first, rfl, hfront, hfirst, heq⟩
        exact ⟨front, second, back ++ [last], first, by simp, hfront, hfirst, heq⟩

namespace Draft

/-!
## Claims along a list of sites
-/

def noteOf (package : Text) (site : Site) : Text × Text :=
  (site.label package, site.fullName package)

theorem lookup_notes_eq_none {package identifier : Text} {sites : List Site}
    (hfresh : identifier ∉ sites.map (Site.label package)) :
    (sites.map (noteOf package)).reverse.lookup identifier = none := by
  rw [List.lookup_eq_none_iff]
  intro note hnote
  rcases List.mem_map.mp (List.mem_reverse.mp hnote) with ⟨site, hsite, rfl⟩
  have hne : identifier ≠ site.label package := by
    intro heq
    exact hfresh (heq ▸ List.mem_map_of_mem hsite)
  simpa [noteOf] using hne

theorem lookup_notes_of_mem {package : Text} {sites : List Site} {site : Site}
    (hlabels : (sites.map (Site.label package)).Nodup) (hsite : site ∈ sites) :
    (sites.map (noteOf package)).reverse.lookup (site.label package) =
      some (site.fullName package) := by
  rcases List.append_of_mem hsite with ⟨front, back, rfl⟩
  have hback : site.label package ∉ back.map (Site.label package) := by
    rw [List.map_append, List.map_cons] at hlabels
    exact (List.nodup_cons.mp (List.nodup_append.mp hlabels).2.1).1
  rw [List.map_append, List.map_cons, List.reverse_append, List.reverse_cons,
    List.append_assoc, List.lookup_append, lookup_notes_eq_none hback]
  simp [noteOf]

/-- Claiming a fresh identifier adds one note. -/
theorem register_fresh {file : File} {sites : List Site} {site : Site}
    (hfresh : site.label file.package ∉ sites.map (Site.label file.package)) :
    register file (sites.map (noteOf file.package)).reverse site =
      .ok ((sites ++ [site]).map (noteOf file.package)).reverse := by
  rw [register, lookup_notes_eq_none hfresh]
  simp [noteOf]

theorem registerAll_of_nodup {file : File} (front : List Site) {back : List Site}
    (hlabels : ((front ++ back).map (Site.label file.package)).Nodup) :
    registerAll file (front.map (noteOf file.package)).reverse back =
      .ok ((front ++ back).map (noteOf file.package)).reverse := by
  induction back generalizing front with
  | nil => simp [registerAll_nil]
  | cons site rest ih =>
      have hfresh : site.label file.package ∉ front.map (Site.label file.package) := by
        intro hmem
        rw [List.map_append] at hlabels
        exact (List.nodup_append.mp hlabels).2.2 _ hmem _ (by simp) rfl
      have hrest : ((front ++ [site] ++ rest).map (Site.label file.package)).Nodup := by
        simpa using hlabels
      rw [registerAll_cons, register_fresh hfresh]
      simp only [Except.bind]
      rw [ih (front ++ [site]) hrest]
      simp

/-- The failure at a site that repeats the identifier of an earlier one. -/
theorem registerAll_of_repeat {file : File} {front : List Site} (back : List Site)
    {first second : Site}
    (hfront : (front.map (Site.label file.package)).Nodup) (hfirst : first ∈ front)
    (hlabel : first.label file.package = second.label file.package)
    (hname : first.fullName file.package ≠ second.fullName file.package) :
    registerAll file [] (front ++ second :: back) =
      .error ⟨first.fullName file.package, second.fullName file.package, file.name,
        second.label file.package⟩ := by
  have hnotes : registerAll file [] front = .ok (front.map (noteOf file.package)).reverse :=
    registerAll_of_nodup [] hfront
  have hlookup := lookup_notes_of_mem hfront hfirst
  rw [hlabel] at hlookup
  rw [registerAll_append, hnotes]
  simp [Except.bind, registerAll_cons, register, hlookup, hname]

theorem fullName_ne_of_mem {package : Text} {front back : List Site} {first second : Site}
    (hdistinct : ((front ++ second :: back).map (Site.fullName package)).Nodup)
    (hfirst : first ∈ front) :
    first.fullName package ≠ second.fullName package := by
  rw [List.map_append] at hdistinct
  exact (List.nodup_append.mp hdistinct).2.2 _ (List.mem_map_of_mem hfirst) _ (by simp)

/-- Claiming fails exactly at the first site that repeats an identifier. -/
theorem registerAll_eq_error_iff {file : File} {sites : List Site} {collision : Collision}
    (hdistinct : (sites.map (Site.fullName file.package)).Nodup) :
    registerAll file [] sites = .error collision ↔
      exists front second back first,
        sites = front ++ second :: back ∧
        (front.map (Site.label file.package)).Nodup ∧ first ∈ front ∧
        first.label file.package = second.label file.package ∧
        collision = ⟨first.fullName file.package, second.fullName file.package, file.name,
          second.label file.package⟩ := by
  constructor
  · intro herror
    have hrepeat : ¬ (sites.map (Site.label file.package)).Nodup := by
      intro hlabels
      have hok := registerAll_of_nodup [] hlabels
      simp only [List.map_nil, List.reverse_nil, herror] at hok
      cases hok
    rcases exists_first_repeat hrepeat with
      ⟨front, second, back, first, rfl, hfront, hfirst, hlabel⟩
    have hfailure := registerAll_of_repeat back hfront hfirst hlabel
      (fullName_ne_of_mem hdistinct hfirst)
    rw [herror] at hfailure
    exact ⟨front, second, back, first, rfl, hfront, hfirst, hlabel,
      Except.error.inj hfailure⟩
  · intro hrepeat
    rcases hrepeat with ⟨front, second, back, first, rfl, hfront, hfirst, hlabel, rfl⟩
    exact registerAll_of_repeat back hfront hfirst hlabel (fullName_ne_of_mem hdistinct hfirst)

theorem nodup_labels_of_registerAll {file : File} {sites : List Site}
    {claims : List (Text × Text)}
    (hdistinct : (sites.map (Site.fullName file.package)).Nodup)
    (hok : registerAll file [] sites = .ok claims) :
    (sites.map (Site.label file.package)).Nodup := by
  refine Classical.byContradiction fun hrepeat => ?_
  rcases exists_first_repeat hrepeat with ⟨front, second, back, first, rfl, hfront, hfirst, hlabel⟩
  rw [registerAll_of_repeat back hfront hfirst hlabel (fullName_ne_of_mem hdistinct hfirst)] at hok
  cases hok

/-!
## When a file has no draft
-/

theorem nodup_labels_of_ofScope {scope : Scope} {draft : Draft}
    (hdistinct : ((claimed scope.file).map (Site.fullName scope.file.package)).Nodup)
    (hok : ofScope scope = .ok draft) :
    ((emitted scope.file).map (Site.label scope.file.package)).Nodup := by
  rcases ofScope_eq_ok_iff.mp hok with ⟨claims, hclaims, _⟩
  exact (((emitted_perm_claimed scope.file).map _).nodup_iff).mpr
    (nodup_labels_of_registerAll hdistinct hclaims)

/-- The declarations of a draft bind distinct identifiers. -/
theorem nodup_identifiers_of_ofScope {scope : Scope} {draft : Draft}
    (hdistinct : ((claimed scope.file).map (Site.fullName scope.file.package)).Nodup)
    (hok : ofScope scope = .ok draft) :
    (draft.declarations.map Declaration.identifier).Nodup := by
  rw [map_identifier_of_ofScope hok]
  exact nodup_labels_of_ofScope hdistinct hok

theorem label_eq_identifier {file : File} (hpackage : file.package.head? ≠ some '.')
    (hnames : forall site, site ∈ claimed file -> site.WellNamed) {site : Site}
    (hsite : site ∈ claimed file) :
    site.label file.package = site.identifier :=
  (hnames site hsite).identifierFor_fullName hpackage

/-- The wording of a collision shows full names without the dot in front. -/
theorem message_collision (fileName identifier : Text) {package : Text} {first second : Site}
    (hpackage : package.head? ≠ some '.') (hfirst : first.WellNamed)
    (hsecond : second.WellNamed) :
    (BuildError.collision
        ⟨first.fullName package, second.fullName package, fileName, identifier⟩).message =
      "'".toList ++ first.bareName package ++ "' and '".toList ++ second.bareName package ++
        "' in ".toList ++ fileName ++ " both flatten to '".toList ++ identifier ++
        "'".toList := by
  rw [← hfirst.shown_fullName hpackage, ← hsecond.shown_fullName hpackage]
  rfl

section Flattening

variable {scope : Scope} (hpackage : scope.file.package.head? ≠ some '.')
  (hnames : forall site, site ∈ claimed scope.file -> site.WellNamed)
  (hdistinct : ((claimed scope.file).map (Site.fullName scope.file.package)).Nodup)

include hpackage hnames hdistinct

theorem ofScope_eq_error_iff_first_repeat {collision : Collision} :
    ofScope scope = .error collision ↔
      exists front second back first,
        claimed scope.file = front ++ second :: back ∧
        (front.map Site.identifier).Nodup ∧ first ∈ front ∧
        first.identifier = second.identifier ∧
        collision = ⟨first.fullName scope.file.package, second.fullName scope.file.package,
          scope.file.name, second.identifier⟩ := by
  have hlabels : forall {front back : List Site} {second : Site},
      claimed scope.file = front ++ second :: back ->
        (forall site, site ∈ front ->
          site.label scope.file.package = site.identifier) ∧
        second.label scope.file.package = second.identifier := by
    intro front back second hsites
    constructor
    · intro site hsite
      exact label_eq_identifier hpackage hnames (by simp [hsites, hsite])
    · exact label_eq_identifier hpackage hnames (by simp [hsites])
  rw [ofScope_eq_error_iff, registerAll_eq_error_iff hdistinct]
  constructor
  · intro hlabelled
    rcases hlabelled with ⟨front, second, back, first, hsites, hfront, hfirst, hlabel, rfl⟩
    rcases hlabels hsites with ⟨hbefore, hsecond⟩
    rw [List.map_congr_left hbefore] at hfront
    rw [hbefore first hfirst, hsecond] at hlabel
    exact ⟨front, second, back, first, hsites, hfront, hfirst, hlabel, by rw [hsecond]⟩
  · intro hidentified
    rcases hidentified with ⟨front, second, back, first, hsites, hfront, hfirst, hidentifier, rfl⟩
    rcases hlabels hsites with ⟨hbefore, hsecond⟩
    rw [← List.map_congr_left hbefore] at hfront
    rw [← hbefore first hfirst, ← hsecond] at hidentifier
    exact ⟨front, second, back, first, hsites, hfront, hfirst, hidentifier, by rw [hsecond]⟩

theorem exists_ofScope_eq_error_iff :
    (exists collision, ofScope scope = .error collision) ↔
      exists first second, first ∈ claimed scope.file ∧ second ∈ claimed scope.file ∧
        first ≠ second ∧ first.identifier = second.identifier := by
  constructor
  · intro hfails
    rcases hfails with ⟨collision, herror⟩
    rcases (ofScope_eq_error_iff_first_repeat hpackage hnames hdistinct).mp herror with
      ⟨front, second, back, first, hsites, _, hfirst, hidentifier, _⟩
    refine ⟨first, second, by simp [hsites, hfirst], by simp [hsites], ?_, hidentifier⟩
    intro heq
    rw [hsites] at hdistinct
    exact fullName_ne_of_mem hdistinct hfirst (by rw [heq])
  · intro htwins
    rcases htwins with ⟨first, second, hfirst, hsecond, hne, hidentifier⟩
    have hrepeat : ¬ ((claimed scope.file).map Site.identifier).Nodup := by
      intro hnodup
      exact hne (List.inj_on_of_nodup_map hnodup hfirst hsecond hidentifier)
    rcases exists_first_repeat hrepeat with
      ⟨front, repeated, back, earlier, hsites, hfront, hearlier, heq⟩
    exact ⟨_, (ofScope_eq_error_iff_first_repeat hpackage hnames hdistinct).mpr
      ⟨front, repeated, back, earlier, hsites, hfront, hearlier, heq, rfl⟩⟩

end Flattening

/--
A file has no draft exactly when two of its declarations need the same identifier.
The failure names the first declaration, in the order of the claims, that needs an
identifier which is taken, and the declaration that took it.  The declarations of
a draft bind distinct identifiers.
-/
theorem ofScope_fails_iff_identifiers_repeat (scope : Scope)
    (hpackage : scope.file.package.head? ≠ some '.')
    (hnames : forall site, site ∈ claimed scope.file -> site.WellNamed)
    (hdistinct : ((claimed scope.file).map (Site.fullName scope.file.package)).Nodup) :
    ((exists collision, ofScope scope = .error collision) ↔
      exists first second, first ∈ claimed scope.file ∧ second ∈ claimed scope.file ∧
        first ≠ second ∧ first.identifier = second.identifier) ∧
    (forall collision, ofScope scope = .error collision ↔
      exists front second back first,
        claimed scope.file = front ++ second :: back ∧
        (front.map Site.identifier).Nodup ∧ first ∈ front ∧
        first.identifier = second.identifier ∧
        collision = ⟨first.fullName scope.file.package, second.fullName scope.file.package,
          scope.file.name, second.identifier⟩ ∧
        (BuildError.collision collision).message =
          "'".toList ++ first.bareName scope.file.package ++ "' and '".toList ++
            second.bareName scope.file.package ++ "' in ".toList ++ scope.file.name ++
            " both flatten to '".toList ++ second.identifier ++ "'".toList) ∧
    (forall draft, ofScope scope = .ok draft ->
      (draft.declarations.map Declaration.identifier).Nodup) := by
  refine ⟨exists_ofScope_eq_error_iff hpackage hnames hdistinct, ?_, ?_⟩
  · intro collision
    rw [ofScope_eq_error_iff_first_repeat hpackage hnames hdistinct]
    constructor
    · intro hrepeat
      rcases hrepeat with ⟨front, second, back, first, hsites, hfront, hfirst, hidentifier, rfl⟩
      have hmessage := message_collision scope.file.name second.identifier hpackage
        (hnames first (by simp [hsites, hfirst])) (hnames second (by simp [hsites]))
      exact ⟨front, second, back, first, hsites, hfront, hfirst, hidentifier, rfl, hmessage⟩
    · intro hworded
      rcases hworded with ⟨front, second, back, first, hsites, hfront, hfirst, hidentifier, heq, _⟩
      exact ⟨front, second, back, first, hsites, hfront, hfirst, hidentifier, heq⟩
  · intro draft hok
    exact nodup_identifiers_of_ofScope hdistinct hok

/-- Two paths that differ only in where an underscore stands for a dot. -/
def lookalikes : File where
  name := ['f']
  package := ['p']
  messages := [
    { name := ['A'], nested := [{ name := ['B', '_', 'C'] }] },
    { name := ['A', '_', 'B'], enums := [{ name := ['C'] }] }]

theorem ofScope_lookalikes :
    ofScope { registry := {}, file := lookalikes } =
      .error ⟨['.', 'p', '.', 'A', '.', 'B', '_', 'C'],
        ['.', 'p', '.', 'A', '_', 'B', '.', 'C'], ['f'],
        ['_', '_', 'A', '_', 'B', '_', 'C']⟩ :=
  ((ofScope_fails_iff_identifiers_repeat { registry := {}, file := lookalikes }
    (by decide) (by decide +kernel) (by decide +kernel)).2.1 _).mpr
      ⟨(claimed lookalikes).take 3, _, [], _, rfl, by decide +kernel,
        List.mem_cons_of_mem _ List.mem_cons_self, rfl, rfl, rfl⟩

end Draft
end ProtoModules
