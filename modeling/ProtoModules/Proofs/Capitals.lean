import ProtoModules.EsModule.Draft

/-!
# Names in camel case

An underscore takes no place in a name in camel case; all it does is capitalise the character
behind it.  So both conversions go through a name character by character, and differ only in
what they do with the very first one.  A capital is its own upper case, so converting a name
that is converted already changes nothing but a small letter that it begins with.
-/

namespace ProtoModules

open Schema

namespace Text

/-!
## Capitals

The tables of upper case are too long to hold every character of one against every character
of the other.  A set of code points is therefore written as a number, which has the bits of
its members.
-/

/-- The number whose bits are the given ones. -/
def bits : List Nat -> Nat
  | [] => 0
  | code :: rest => 1 <<< code ||| bits rest

theorem testBit_bits {codes : List Nat} {code : Nat} :
    (bits codes).testBit code = true ↔ code ∈ codes := by
  induction codes with
  | nil => simp [bits]
  | cons first rest ih =>
      rw [bits, Nat.testBit_or, Nat.one_shiftLeft, Nat.testBit_two_pow, Bool.or_eq_true,
        decide_eq_true_eq, ih, List.mem_cons]
      exact or_congr eq_comm Iff.rfl

theorem not_mem_of_land_bits {codes others : List Nat} (hland : bits codes &&& bits others = 0)
    {code : Nat} (hcode : code ∈ codes) : code ∉ others := by
  intro hother
  have hboth : (bits codes &&& bits others).testBit code = true := by
    rw [Nat.testBit_and, testBit_bits.mpr hcode, testBit_bits.mpr hother]
    rfl
  rw [hland, Nat.zero_testBit] at hboth
  cases hboth

def listedCodes : List Nat :=
  upperExpansions.map Prod.fst ++
    upperRuns.flatMap fun run =>
      (List.range run.count).map fun index => run.first + run.step * index

def capitalCodes : List Nat :=
  upperExpansions.filterMap (fun entry => entry.2.head?) ++
    upperRuns.flatMap fun run =>
      (List.range run.count).map fun index => run.upper + run.step * index

theorem upperCodes_of_not_listed {code : Nat} (hlisted : code ∉ listedCodes) :
    upperCodes code = [code] := by
  rcases upperCodes_cases code with
    ⟨codes, hentry, _⟩ | ⟨run, index, hrun, hindex, hcode, _⟩ | hcodes
  · exact absurd (List.mem_append_left _ (List.mem_map_of_mem hentry)) hlisted
  · apply absurd (List.mem_append_right _ (List.mem_flatMap.mpr ⟨run, hrun, ?_⟩)) hlisted
    rw [hcode]
    exact List.mem_map_of_mem (List.mem_range.mpr hindex)
  · exact hcodes

/-- The upper case of a code point begins with a capital, unless it is the code point. -/
theorem head?_upperCodes (code : Nat) :
    (exists capital, capital ∈ capitalCodes ∧ (upperCodes code).head? = some capital) ∨
      upperCodes code = [code] := by
  have hexpansions : forall entry, entry ∈ upperExpansions -> entry.2 ≠ [] := by decide
  rcases upperCodes_cases code with
    ⟨codes, hentry, hcodes⟩ | ⟨run, index, hrun, hindex, _, hcodes⟩ | hcodes
  · rcases List.exists_cons_of_ne_nil (hexpansions _ hentry) with ⟨capital, rest, rfl⟩
    refine Or.inl ⟨capital, List.mem_append_left _ ?_, by rw [hcodes]; rfl⟩
    exact List.mem_filterMap.mpr ⟨(code, capital :: rest), hentry, rfl⟩
  · refine Or.inl ⟨_, List.mem_append_right _ ?_, by rw [hcodes]; rfl⟩
    exact List.mem_flatMap.mpr ⟨run, hrun, List.mem_map_of_mem (List.mem_range.mpr hindex)⟩
  · exact Or.inr hcodes

/-- Upper case begins with a character that is its own upper case. -/
theorem exists_upperChar_eq_cons (c : Char) :
    exists capital rest, upperChar c = capital :: rest ∧ upperChar capital = [capital] := by
  have hland : bits capitalCodes &&& bits listedCodes = 0 := by decide +kernel
  have hvalid : forall code, code ∈ capitalCodes -> (Char.ofNat code).toNat = code := by
    decide +kernel
  rcases head?_upperCodes c.toNat with ⟨capital, hcapital, hhead⟩ | hself
  · rcases List.head?_eq_some_iff.mp hhead with ⟨rest, hcodes⟩
    refine ⟨Char.ofNat capital, rest.map Char.ofNat, by rw [upperChar, hcodes]; rfl, ?_⟩
    rw [upperChar, hvalid capital hcapital,
      upperCodes_of_not_listed (not_mem_of_land_bits hland hcapital)]
    rfl
  · have hupper : upperChar c = [c] := by
      rw [upperChar, hself, List.map_singleton, Char.ofNat_toNat]
    exact ⟨c, [], hupper, hupper⟩

theorem underscore_not_mem_upperChar {c : Char} (hc : c ≠ '_') : '_' ∉ upperChar c := by
  have hexpansions : forall entry, entry ∈ upperExpansions -> forall code, code ∈ entry.2 ->
      Char.ofNat code ≠ '_' := by
    decide +kernel
  have hruns : forall run, run ∈ upperRuns -> forall index, index < run.count ->
      Char.ofNat (run.upper + run.step * index) ≠ '_' := by
    decide +kernel
  intro hmem
  rcases List.mem_map.mp hmem with ⟨code, hcode, hunderscore⟩
  rcases upperCodes_cases c.toNat with
    ⟨codes, hentry, hcodes⟩ | ⟨run, index, hrun, hindex, _, hcodes⟩ | hcodes
  · rw [hcodes] at hcode
    exact hexpansions _ hentry code hcode hunderscore
  · rw [hcodes, List.mem_singleton] at hcode
    rw [hcode] at hunderscore
    exact hruns run hrun index hindex hunderscore
  · rw [hcodes, List.mem_singleton] at hcode
    rw [hcode, Char.ofNat_toNat] at hunderscore
    exact hc hunderscore

end Text

namespace CamelCase

/-!
## From one character to the next
-/

@[simp] theorem lower_nil : lower [] = [] := rfl

@[simp] theorem upper_nil : upper [] = [] := rfl

theorem words_underscore (name : Text) : words ('_' :: name) = [] :: words name :=
  Text.splitOn_sep '_' name

@[simp] theorem lower_underscore (name : Text) : lower ('_' :: name) = upper name := by
  rw [lower, words_underscore]
  rfl

@[simp] theorem upper_underscore (name : Text) : upper ('_' :: name) = upper name := by
  rw [upper, words_underscore]
  rfl

theorem lower_cons {c : Char} (hc : c ≠ '_') (name : Text) :
    lower (c :: name) = c :: lower name := by
  rcases Text.splitOn_cons hc name with ⟨first, rest, hname, hcons⟩
  rw [lower, lower, words, words, hname, hcons]
  rfl

theorem upper_cons {c : Char} (hc : c ≠ '_') (name : Text) :
    upper (c :: name) = Text.upperChar c ++ lower name := by
  rcases Text.splitOn_cons hc name with ⟨first, rest, hname, hcons⟩
  rw [upper, lower, words, words, hname, hcons]
  simp [Text.capitalize]

theorem underscore_not_mem (name : Text) : '_' ∉ lower name ∧ '_' ∉ upper name := by
  induction name with
  | nil => simp
  | cons c rest ih =>
      by_cases hc : c = '_'
      · rw [hc, lower_underscore, upper_underscore]
        exact ⟨ih.2, ih.2⟩
      · rw [lower_cons hc, upper_cons hc]
        constructor
        · simp [Ne.symm hc, ih.1]
        · simp [Text.underscore_not_mem_upperChar hc, ih.1]

/-!
## Names that are converted already
-/

theorem lower_of_not_mem {name : Text} (hname : '_' ∉ name) : lower name = name := by
  induction name with
  | nil => rfl
  | cons c rest ih =>
      rw [List.mem_cons, not_or] at hname
      rw [lower_cons (Ne.symm hname.1), ih hname.2]

theorem upper_of_not_mem {name : Text} (hname : '_' ∉ name) :
    upper name = Text.capitalize name := by
  cases name with
  | nil => rfl
  | cons c rest =>
      rw [List.mem_cons, not_or] at hname
      rw [upper_cons (Ne.symm hname.1), lower_of_not_mem hname.2]
      rfl

/-- A name with capitals for its words begins with a capital. -/
theorem upperChar_of_upper_eq_cons {name rest : Text} {c : Char} (hname : upper name = c :: rest) :
    Text.upperChar c = [c] := by
  induction name with
  | nil => cases hname
  | cons first others ih =>
      by_cases hfirst : first = '_'
      · rw [hfirst, upper_underscore] at hname
        exact ih hname
      · rcases Text.exists_upperChar_eq_cons first with ⟨capital, more, hupper, hcapital⟩
        rw [upper_cons hfirst, hupper] at hname
        rw [← (List.cons.inj hname).1]
        exact hcapital

theorem capitalize_upper (name : Text) : Text.capitalize (upper name) = upper name := by
  cases hname : upper name with
  | nil => rfl
  | cons c rest =>
      rw [Text.capitalize, upperChar_of_upper_eq_cons hname]
      rfl

@[simp] theorem lower_lower (name : Text) : lower (lower name) = lower name :=
  lower_of_not_mem (underscore_not_mem name).1

@[simp] theorem lower_upper (name : Text) : lower (upper name) = upper name :=
  lower_of_not_mem (underscore_not_mem name).2

@[simp] theorem upper_upper (name : Text) : upper (upper name) = upper name := by
  rw [upper_of_not_mem (underscore_not_mem name).2, capitalize_upper]

@[simp] theorem upper_lower (name : Text) : upper (lower name) = upper name := by
  cases name with
  | nil => rfl
  | cons c rest =>
      by_cases hc : c = '_'
      · rw [hc, lower_underscore, upper_underscore, upper_upper]
      · rw [lower_cons hc, upper_cons hc, upper_cons hc, lower_lower]

/--
Names in camel case have no underscores.  A conversion changes a name that is converted already
only by capitalising the character it begins with, and then only if the name was a property
name.  So the suffix of a field's methods is made from its property name as well as from the
name of the field.
-/
theorem camel_case_is_stable (name : Text) :
    '_' ∉ lower name ∧ '_' ∉ upper name ∧
    lower (lower name) = lower name ∧ upper (upper name) = upper name ∧
    lower (upper name) = upper name ∧ upper (lower name) = upper name ∧
    upper (lower (upper name)) = upper name ∧
    forall (scope : Scope) (field : Field),
      (Draft.memberOf scope { field with name }).methodSuffix =
        upper (Draft.memberOf scope { field with name }).propertyName := by
  refine ⟨(underscore_not_mem name).1, (underscore_not_mem name).2, lower_lower name,
    upper_upper name, lower_upper name, upper_lower name, ?_, ?_⟩
  · rw [lower_upper, upper_upper]
  · intro scope field
    show upper name = upper (lower name)
    rw [upper_lower]

end CamelCase
end ProtoModules
