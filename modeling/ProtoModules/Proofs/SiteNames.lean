import ProtoModules.EsModule.Draft
import ProtoModules.Proofs.Sites

/-!
# The names of sites

The registry and a draft build full names from the outside in: each declaration
extends the full name of the message around it.  Here this is the full name of a
site, which is said in one piece.  When no name is empty or has a dot in it and
the package does not start with a dot, names can also be taken apart again: the
identifier that a draft claims for a site and the identifier by which a scope
refers to it are both the identifier of the site.
-/

namespace ProtoModules

open Schema

/-!
## Joining and cutting
-/

namespace Text

theorem joined_dot_append (front back : List Text) (hfront : front ≠ []) (hback : back ≠ []) :
    joined "." (front ++ back) = joined "." front ++ '.' :: joined "." back := by
  have hdot : ".".toList = ['.'] := rfl
  induction front with
  | nil => exact absurd rfl hfront
  | cons first rest ih =>
      cases rest with
      | nil =>
          cases back with
          | nil => exact absurd rfl hback
          | cons next more =>
              simp [joined, hdot, List.intercalate_cons_cons]
      | cons second others =>
          have hrest := ih (List.cons_ne_nil second others)
          simp only [joined, hdot, List.cons_append, List.intercalate_cons_cons] at hrest ⊢
          rw [hrest]
          simp

theorem joined_singleton (sep : String) (text : Text) : joined sep [text] = text := by
  simp [joined]

theorem cutLast_append {sep : Char} (before : Text) {after : Text} (hafter : sep ∉ after) :
    cutLast sep (before ++ sep :: after) = some (before, after) := by
  induction before with
  | nil => simp [cutLast, cutLast_eq_none.mpr hafter]
  | cons c rest ih => simp [cutLast, ih]

theorem afterLast_append {sep : Char} (before : Text) {after : Text} (hafter : sep ∉ after) :
    afterLast sep (before ++ sep :: after) = after := by
  rw [afterLast, cutLast_append before hafter]

theorem afterLast_of_not_mem {sep : Char} {text : Text} (htext : sep ∉ text) :
    afterLast sep text = text := by
  rw [afterLast, cutLast_eq_none.mpr htext]

theorem beforeFirst_append {sep : Char} {before : Text} (after : Text) (hbefore : sep ∉ before) :
    beforeFirst sep (before ++ sep :: after) = before := by
  have htest : forall c, c ∈ before -> decide (c ≠ sep) = true := by
    intro c hc
    exact decide_eq_true fun heq => hbefore (heq ▸ hc)
  rw [beforeFirst, List.takeWhile_append_of_pos htest]
  simp

theorem beforeFirst_of_not_mem {sep : Char} {text : Text} (htext : sep ∉ text) :
    beforeFirst sep text = text := by
  induction text with
  | nil => rfl
  | cons c rest ih =>
      obtain ⟨hc, hrest⟩ : sep ≠ c ∧ sep ∉ rest := by simpa using htext
      simpa [beforeFirst, List.takeWhile_cons, Ne.symm hc] using ih hrest

end Text

/-!
## Full names from the outside in
-/

/--
The text that stands for the messages around a declaration: their full name, or
nothing at the top of a file.
-/
def parentName (package : Text) (around : List Message) : Text :=
  if around = [] then [] else TypeName.qualified package (around.map Message.name)

@[simp] theorem parentName_nil (package : Text) : parentName package [] = [] := rfl

theorem qualified_ne_nil (package : Text) (names : List Text) :
    TypeName.qualified package names ≠ [] := by
  unfold TypeName.qualified
  split <;> simp

@[simp] theorem isEmpty_parentName (package : Text) (around : List Message) :
    (parentName package around).isEmpty = around.isEmpty := by
  cases around with
  | nil => rfl
  | cons message rest => simp [parentName, qualified_ne_nil]

theorem full_parentName (package : Text) (around : List Message) (name : Text) :
    TypeName.full package (parentName package around) name =
      TypeName.qualified package (around.map Message.name ++ [name]) := by
  cases around with
  | nil => simp [TypeName.full, TypeName.qualified, Text.joined_singleton]
  | cons message rest =>
      have hpath := Text.joined_dot_append ((message :: rest).map Message.name) [name]
        (by simp) (by simp)
      rw [Text.joined_singleton] at hpath
      have hparent : parentName package (message :: rest) =
          TypeName.qualified package ((message :: rest).map Message.name) := rfl
      rw [hparent, TypeName.full, if_pos (qualified_ne_nil _ _), TypeName.qualified,
        TypeName.qualified, hpath]
      split <;> simp

theorem parentName_snoc (package : Text) (around : List Message) (message : Message) :
    parentName package (around ++ [message]) =
      TypeName.full package (parentName package around) message.name := by
  rw [full_parentName]
  simp [parentName]

namespace Site

theorem full_parentName_around (package : Text) (site : Site) :
    TypeName.full package (parentName package site.around) site.declared.name =
      site.fullName package :=
  full_parentName package site.around site.declared.name

/-!
## Taking names apart
-/

def WellNamed (site : Site) : Prop :=
  forall name, name ∈ site.names -> name ≠ [] ∧ '.' ∉ name

instance (site : Site) : Decidable site.WellNamed :=
  inferInstanceAs (Decidable (forall name, name ∈ site.names -> name ≠ [] ∧ '.' ∉ name))

def bareName (package : Text) (site : Site) : Text :=
  if package = [] then site.path else package ++ '.' :: site.path

theorem fullName_eq_cons (package : Text) (site : Site) :
    site.fullName package = '.' :: site.bareName package := by
  unfold fullName bareName TypeName.qualified path
  split <;> rfl

theorem path_eq_name {site : Site} (haround : site.around = []) :
    site.path = site.declared.name := by
  simp [path, names, haround, Text.joined_singleton]

theorem path_eq_append {site : Site} (haround : site.around ≠ []) :
    site.path =
      Text.joined "." (site.around.map Message.name) ++ '.' :: site.declared.name := by
  have hnames : site.around.map Message.name ≠ [] := by simpa using haround
  rw [path, names, Text.joined_dot_append _ _ hnames (List.cons_ne_nil _ []),
    Text.joined_singleton]

theorem exists_fullName_eq_append (package : Text) (site : Site) :
    exists before, site.fullName package = before ++ '.' :: site.declared.name := by
  rw [← full_parentName_around, TypeName.full]
  split
  · exact ⟨_, rfl⟩
  · split
    · exact ⟨'.' :: package, rfl⟩
    · exact ⟨[], rfl⟩

theorem withoutPackage_bareName (package : Text) (site : Site) :
    TypeName.withoutPackage package (site.bareName package) = site.path := by
  cases package with
  | nil => simp [TypeName.withoutPackage, bareName]
  | cons first others =>
      have hbare : site.bareName (first :: others) =
          (first :: others ++ ['.']) ++ site.path := by simp [bareName]
      have hlength : (first :: others).length + 1 = (first :: others ++ ['.']).length := by
        simp
      rw [TypeName.withoutPackage, hbare, hlength, List.drop_left]
      simp

namespace WellNamed

variable {site : Site}

theorem dot_not_mem_name (hnames : site.WellNamed) : '.' ∉ site.declared.name :=
  (hnames site.declared.name (by simp [names])).2

/-- The path of a site with such names starts with the first of them. -/
theorem exists_path_eq_cons (hnames : site.WellNamed) :
    exists c rest, site.path = c :: rest ∧ c ≠ '.' := by
  cases hall : site.names with
  | nil => exact absurd hall site.names_ne_nil
  | cons first others =>
      have hfirst := hnames first (by simp [hall])
      rcases List.exists_cons_of_ne_nil hfirst.1 with ⟨c, rest, rfl⟩
      have hdot : c ≠ '.' := by
        intro heq
        exact hfirst.2 (by simp [heq])
      cases others with
      | nil => exact ⟨c, rest, by simp [path, hall, Text.joined_singleton], hdot⟩
      | cons second more =>
          have hjoin := Text.joined_dot_append [c :: rest] (second :: more)
            (by simp) (by simp)
          rw [Text.joined_singleton] at hjoin
          exact ⟨c, rest ++ '.' :: Text.joined "." (second :: more),
            by rw [path, hall]; exact hjoin, hdot⟩

theorem dot_mem_path_iff (hnames : site.WellNamed) :
    '.' ∈ site.path ↔ site.around ≠ [] := by
  by_cases haround : site.around = []
  · simp [path_eq_name haround, haround, hnames.dot_not_mem_name]
  · simp [path_eq_append haround, haround]

/-- Only the dot in front of a full name is left out when it is shown. -/
theorem shown_fullName (hnames : site.WellNamed) {package : Text}
    (hpackage : package.head? ≠ some '.') :
    TypeName.shown (site.fullName package) = site.bareName package := by
  have hstart : forall c rest, site.bareName package = c :: rest -> c ≠ '.' := by
    intro c rest hbare
    cases package with
    | nil =>
        rcases hnames.exists_path_eq_cons with ⟨first, others, hpath, hdot⟩
        rw [bareName, if_pos rfl, hpath] at hbare
        cases hbare
        exact hdot
    | cons first others =>
        simp only [bareName, reduceCtorEq, if_false, List.cons_append, List.cons.injEq] at hbare
        rw [← hbare.1]
        simpa using hpackage
  rw [fullName_eq_cons, TypeName.shown]
  cases hbare : site.bareName package with
  | nil => simp
  | cons c rest => simp [hstart c rest hbare]

theorem shown_bareName (hnames : site.WellNamed) {package : Text}
    (hpackage : package.head? ≠ some '.') :
    TypeName.shown (site.bareName package) = site.bareName package := by
  have hshown := hnames.shown_fullName hpackage
  rw [fullName_eq_cons] at hshown
  simpa [TypeName.shown] using hshown

theorem flattened_fullName (hnames : site.WellNamed) {package : Text}
    (hpackage : package.head? ≠ some '.') :
    TypeName.flattened package (site.fullName package) =
      '_' :: '_' :: Text.replaceChar '.' '_' site.path := by
  rw [TypeName.flattened, hnames.shown_fullName hpackage, withoutPackage_bareName]

theorem afterLast_fullName (hnames : site.WellNamed) (package : Text) :
    Text.afterLast '.' (site.fullName package) = site.declared.name := by
  rcases site.exists_fullName_eq_append package with ⟨before, hbefore⟩
  rw [hbefore, Text.afterLast_append before hnames.dot_not_mem_name]

theorem afterLast_bareName (hnames : site.WellNamed) (package : Text) :
    Text.afterLast '.' (site.bareName package) = site.declared.name := by
  rcases site.exists_fullName_eq_append package with ⟨before, hbefore⟩
  rw [fullName_eq_cons] at hbefore
  cases before with
  | nil =>
      have hbare : site.bareName package = site.declared.name := by
        simpa using hbefore
      rw [hbare, Text.afterLast_of_not_mem hnames.dot_not_mem_name]
  | cons c rest =>
      obtain ⟨_, hbare⟩ : '.' = c ∧
          site.bareName package = rest ++ '.' :: site.declared.name := by
        simpa using hbefore
      rw [hbare, Text.afterLast_append rest hnames.dot_not_mem_name]

/-- A draft claims the identifier of a site for it. -/
theorem identifierFor_fullName (hnames : site.WellNamed) {package : Text}
    (hpackage : package.head? ≠ some '.') :
    Draft.identifierFor package (site.fullName package) (!site.around.isEmpty) =
      site.identifier := by
  by_cases haround : site.around = []
  · simp [Draft.identifierFor, identifier, haround, hnames.afterLast_fullName]
  · simp [Draft.identifierFor, identifier, haround, hnames.flattened_fullName hpackage]

/-- A scope refers to a site of its own file by the identifier of the site. -/
theorem localIdentifier_fullName (hnames : site.WellNamed) {package : Text}
    (hpackage : package.head? ≠ some '.') :
    TypeName.localIdentifier package (site.fullName package) = site.identifier := by
  have hhome : exists home, (if package = [] then [] else package ++ ['.']) = home ∧
      site.bareName package = home ++ site.path := by
    by_cases hempty : package = []
    · exact ⟨[], by simp [hempty], by simp [bareName, hempty]⟩
    · exact ⟨package ++ ['.'], by simp [hempty], by simp [bareName, hempty]⟩
  rcases hhome with ⟨home, hhome, hbare⟩
  have hinside : (home.isPrefixOf (site.bareName package) = true ∧
      ((site.bareName package).drop home.length).contains '.' = true) ↔
        site.around ≠ [] := by
    rw [hbare, ← hnames.dot_mem_path_iff]
    simp
  rw [fullName_eq_cons]
  simp only [TypeName.localIdentifier, hhome]
  by_cases haround : site.around = []
  · rw [if_neg fun hboth => hinside.mp hboth haround, hnames.afterLast_bareName, identifier,
      if_pos haround]
  · rw [if_pos (hinside.mpr haround), identifier, if_neg haround, TypeName.flattened,
      hnames.shown_bareName hpackage, withoutPackage_bareName]

end WellNamed
end Site
end ProtoModules
