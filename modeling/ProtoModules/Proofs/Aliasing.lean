import ProtoModules.Proofs.Importing

/-!
# Which imports get another name

Local names are chosen one key at a time, and each choice depends on all the choices
before it.  For identifiers without a dollar sign the outcome can be said at once: a
key keeps its identifier unless the file declares that identifier at its top or an
earlier file exports it too.  Local names that were made from file names have a dollar
sign in them, so they never stand in the way of a later key.
-/

namespace ProtoModules

open Schema

namespace ImportKey

/-- Whether the identifier of a key is declared by the file or exported by an earlier one. -/
def isTaken (declared : List Text) (keys : List ImportKey) (key : ImportKey) : Bool :=
  declared.contains key.identifier ||
    keys.any fun other =>
      other.identifier = key.identifier && other.fileName < key.fileName

def localName (declared : List Text) (keys : List ImportKey) (key : ImportKey) : Text :=
  if key.isTaken declared keys then key.identifier ++ '$' :: Imports.fileAlias key.fileName
  else key.identifier

theorem isTaken_iff {declared : List Text} {keys : List ImportKey} {key : ImportKey} :
    key.isTaken declared keys = true ↔
      key.identifier ∈ declared ∨
        exists other, other ∈ keys ∧ other.identifier = key.identifier ∧
          other.fileName < key.fileName := by
  simp [isTaken]

theorem localName_eq_identifier_iff {declared : List Text} {keys : List ImportKey}
    {key : ImportKey} :
    key.localName declared keys = key.identifier ↔ ¬ key.isTaken declared keys = true := by
  unfold localName
  by_cases htaken : key.isTaken declared keys = true
  · rw [if_pos htaken]
    constructor
    · intro heq
      exact absurd (List.append_right_eq_self.mp heq) (List.cons_ne_nil _ _)
    · intro hfree
      exact absurd htaken hfree
  · rw [if_neg htaken]
    exact iff_of_true rfl htaken

/-- In an ascending list only the keys in front of a key can have taken its identifier. -/
theorem isTaken_append_iff {declared : List Text} {front rest : List ImportKey}
    {key : ImportKey}
    (hkeys : (front ++ key :: rest).Pairwise fun left right => left.before right = true) :
    key.isTaken declared (front ++ key :: rest) = true ↔
      key.identifier ∈ declared ∨
        exists other, other ∈ front ∧ other.identifier = key.identifier := by
  rcases List.pairwise_append.mp hkeys with ⟨_, hback, hacross⟩
  rcases List.pairwise_cons.mp hback with ⟨hlater, _⟩
  have hsame : forall {left right : ImportKey}, left.before right = true ->
      left.identifier = right.identifier -> left.fileName < right.fileName := by
    intro left right hbefore hidentifier
    rcases before_iff.mp hbefore with hlt | ⟨_, hlt⟩
    · exact hlt
    · rw [hidentifier] at hlt
      exact absurd hlt (lt_irrefl _)
  rw [isTaken_iff]
  refine or_congr_right ?_
  constructor
  · intro htaken
    rcases htaken with ⟨other, hother, hidentifier, hlt⟩
    rcases List.mem_append.mp hother with hfront | hrest
    · exact ⟨other, hfront, hidentifier⟩
    · rcases List.mem_cons.mp hrest with rfl | hrest
      · exact absurd hlt (lt_irrefl _)
      · have hgt := hsame (hlater other hrest) hidentifier.symm
        exact absurd (lt_trans hlt hgt) (lt_irrefl _)
  · intro htaken
    rcases htaken with ⟨other, hother, hidentifier⟩
    exact ⟨other, List.mem_append_left _ hother, hidentifier,
      hsame (hacross other hother key List.mem_cons_self) hidentifier⟩

/-- Two keys share a local name only when both were given one and their files look alike. -/
theorem localName_eq_iff {declared : List Text} {keys : List ImportKey} {left right : ImportKey}
    (hleft : left ∈ keys) (hright : right ∈ keys) (hne : left ≠ right)
    (hplain : '$' ∉ left.identifier) (hother : '$' ∉ right.identifier) :
    left.localName declared keys = right.localName declared keys ↔
      left.identifier = right.identifier ∧ left.isTaken declared keys = true ∧
        right.isTaken declared keys = true ∧
        Imports.fileAlias left.fileName = Imports.fileAlias right.fileName := by
  unfold localName
  by_cases htakenLeft : left.isTaken declared keys = true
  · by_cases htakenRight : right.isTaken declared keys = true
    · simp only [htakenLeft, htakenRight, if_true, true_and]
      constructor
      · intro heq
        have hidentifier := congrArg (Text.beforeFirst '$') heq
        rw [Text.beforeFirst_append _ hplain, Text.beforeFirst_append _ hother] at hidentifier
        rw [hidentifier] at heq
        exact ⟨hidentifier, List.cons_injective (List.append_cancel_left heq)⟩
      · intro hsame
        rw [hsame.1, hsame.2]
    · simp only [htakenLeft, htakenRight, if_true, if_false, Bool.false_eq_true, false_and,
        and_false, iff_false]
      intro heq
      exact hother (by simp [← heq])
  · by_cases htakenRight : right.isTaken declared keys = true
    · simp only [htakenLeft, htakenRight, if_true, if_false, Bool.false_eq_true, false_and,
        and_false, iff_false]
      intro heq
      exact hplain (by simp [heq])
    · simp only [htakenLeft, htakenRight, if_false, Bool.false_eq_true, false_and, and_false,
        iff_false]
      -- Of two files that export the same identifier, one is earlier than the other.
      intro heq
      rcases lt_trichotomy left.fileName right.fileName with hlt | hfile | hgt
      · exact htakenRight (isTaken_iff.mpr (Or.inr ⟨left, hleft, heq, hlt⟩))
      · cases left
        cases right
        simp_all
      · exact htakenLeft (isTaken_iff.mpr (Or.inr ⟨right, hright, heq.symm, hgt⟩))

end ImportKey

namespace Imports

/-- What is taken before a key: the declared names and the identifiers in front of it. -/
def Takes (declared : List Text) (front : List ImportKey) (taken : List Text) : Prop :=
  forall identifier, '$' ∉ identifier ->
    (identifier ∈ taken ↔
      identifier ∈ declared ∨ exists other, other ∈ front ∧ other.identifier = identifier)

theorem takes_nil (declared : List Text) : Takes declared [] declared := by
  intro identifier _
  simp

theorem takes_snoc {declared : List Text} {front : List ImportKey} {taken : List Text}
    (htakes : Takes declared front taken) {key : ImportKey} (hplain : '$' ∉ key.identifier)
    (ending : Text) :
    Takes declared (front ++ [key])
      ((if taken.contains key.identifier then key.identifier ++ '$' :: ending
        else key.identifier) :: taken) := by
  intro identifier hidentifier
  rw [List.mem_cons, htakes identifier hidentifier]
  by_cases htaken : key.identifier ∈ taken
  · have hother : identifier ≠ key.identifier ++ '$' :: ending := by
      intro heq
      exact hidentifier (by simp [heq])
    have hknown := (htakes key.identifier hplain).mp htaken
    simp only [List.contains_iff_mem, htaken, if_true, hother, false_or, List.mem_append,
      List.mem_singleton]
    constructor
    · intro hbefore
      rcases hbefore with hdeclared | ⟨other, hfront, heq⟩
      · exact Or.inl hdeclared
      · exact Or.inr ⟨other, Or.inl hfront, heq⟩
    · intro hafter
      rcases hafter with hdeclared | ⟨other, hfront | rfl, heq⟩
      · exact Or.inl hdeclared
      · exact Or.inr ⟨other, hfront, heq⟩
      · rw [heq] at hknown
        exact hknown
  · simp only [List.contains_iff_mem, htaken, if_false, List.mem_append, List.mem_singleton]
    constructor
    · intro hbefore
      rcases hbefore with rfl | hdeclared | ⟨other, hfront, heq⟩
      · exact Or.inr ⟨key, Or.inr rfl, rfl⟩
      · exact Or.inl hdeclared
      · exact Or.inr ⟨other, Or.inl hfront, heq⟩
    · intro hafter
      rcases hafter with hdeclared | ⟨other, hfront | rfl, heq⟩
      · exact Or.inr (Or.inl hdeclared)
      · exact Or.inr (Or.inr ⟨other, hfront, heq⟩)
      · exact Or.inl heq.symm

theorem choose_eq_map_of_takes {declared : List Text} (front : List ImportKey)
    {rest : List ImportKey} {taken : List Text}
    (hkeys : (front ++ rest).Pairwise fun left right => left.before right = true)
    (hplain : forall key, key ∈ rest -> '$' ∉ key.identifier)
    (htakes : Takes declared front taken) :
    choose taken rest =
      rest.map fun key =>
        ⟨key.fileName, key.identifier, key.localName declared (front ++ rest)⟩ := by
  induction rest generalizing front taken with
  | nil => rfl
  | cons key rest ih =>
      have hkey := hplain key List.mem_cons_self
      have htaken : taken.contains key.identifier =
          key.isTaken declared (front ++ key :: rest) := by
        rw [Bool.eq_iff_iff, ImportKey.isTaken_append_iff hkeys, List.contains_iff_mem]
        exact htakes key.identifier hkey
      have hsplit : front ++ key :: rest = front ++ [key] ++ rest := by simp
      have hrest := ih (front ++ [key]) (hsplit ▸ hkeys)
        (fun other hother => hplain other (List.mem_cons_of_mem key hother))
        (takes_snoc htakes hkey (fileAlias key.fileName))
      rw [← hsplit] at hrest
      rw [choose, List.map_cons]
      refine congrArg₂ List.cons ?_ hrest
      rw [ImportKey.localName, ← htaken]

/-- The local names of all keys at once. -/
theorem choose_eq_map (declared : List Text) {keys : List ImportKey}
    (hkeys : keys.Pairwise fun left right => left.before right = true)
    (hplain : forall key, key ∈ keys -> '$' ∉ key.identifier) :
    choose declared keys =
      keys.map fun key => ⟨key.fileName, key.identifier, key.localName declared keys⟩ :=
  choose_eq_map_of_takes [] hkeys hplain (takes_nil declared)

theorem nodup_localNames_iff {declared : List Text} {keys : List ImportKey}
    (hkeys : keys.Pairwise fun left right => left.before right = true)
    (hplain : forall key, key ∈ keys -> '$' ∉ key.identifier) :
    (keys.map (ImportKey.localName declared keys)).Nodup ↔
      forall left, left ∈ keys -> forall right, right ∈ keys ->
        left.fileName ≠ right.fileName -> left.identifier = right.identifier ->
        left.isTaken declared keys = true -> right.isTaken declared keys = true ->
        fileAlias left.fileName ≠ fileAlias right.fileName := by
  rw [List.nodup_map_iff_inj_on (ImportKey.nodup_of_pairwise hkeys)]
  constructor
  · intro hinjective left hleft right hright hfile hidentifier htakenLeft htakenRight halias
    have hne : left ≠ right := fun heq => hfile (congrArg ImportKey.fileName heq)
    have hsame := (ImportKey.localName_eq_iff hleft hright hne (hplain left hleft)
      (hplain right hright)).mpr ⟨hidentifier, htakenLeft, htakenRight, halias⟩
    exact hne (hinjective left hleft right hright hsame)
  · intro hdistinct left hleft right hright hsame
    refine Classical.byContradiction fun hne => ?_
    rcases (ImportKey.localName_eq_iff hleft hright hne (hplain left hleft)
      (hplain right hright)).mp hsame with ⟨hidentifier, htakenLeft, htakenRight, halias⟩
    have hfile : left.fileName ≠ right.fileName := by
      intro heq
      cases left
      cases right
      simp_all
    exact hdistinct left hleft right hright hfile hidentifier htakenLeft htakenRight halias

/-!
## The names of a module
-/

theorem key_mem_keys {registry : Registry} {file : File} {name : ImportName}
    (hname : name ∈ names registry file) : name.key ∈ keys registry file := by
  rw [← map_key_names]
  exact List.mem_map_of_mem hname

section Plain

variable {registry : Registry} {file : File}
  (hplain : forall name, name ∈ names registry file -> '$' ∉ name.identifier)

include hplain

theorem localName_of_mem_names {name : ImportName} (hname : name ∈ names registry file) :
    name.localName = name.key.localName (declaredNames file) (keys registry file) := by
  have hkeys : forall key, key ∈ keys registry file -> '$' ∉ key.identifier := by
    intro key hkey
    rcases exists_name_of_mem_keys hkey with ⟨other, hother, rfl⟩
    exact hplain other hother
  rw [names, choose_eq_map (declaredNames file) (pairwise_keys registry file) hkeys] at hname
  rcases List.mem_map.mp hname with ⟨key, _, rfl⟩
  rfl

theorem localName_eq_identifier_iff_not_isTaken {name : ImportName}
    (hname : name ∈ names registry file) :
    name.localName = name.identifier ↔
      ¬ name.key.isTaken (declaredNames file) (keys registry file) = true := by
  rw [localName_of_mem_names hplain hname]
  exact ImportKey.localName_eq_identifier_iff

end Plain

theorem isTaken_key_iff {registry : Registry} {file : File} {name : ImportName} :
    name.key.isTaken (declaredNames file) (keys registry file) = true ↔
      (name.identifier ∈ file.messages.map Message.name ∨
        name.identifier ∈ file.enums.map Enum.name) ∨
      exists other, other ∈ names registry file ∧ other.identifier = name.identifier ∧
        other.fileName < name.fileName := by
  rw [ImportKey.isTaken_iff, declaredNames, List.mem_append]
  apply or_congr_right
  constructor
  · intro hearlier
    rcases hearlier with ⟨key, hkey, hidentifier, hlt⟩
    rcases exists_name_of_mem_keys hkey with ⟨other, hother, rfl⟩
    exact ⟨other, hother, hidentifier, hlt⟩
  · intro hearlier
    rcases hearlier with ⟨other, hother, hidentifier, hlt⟩
    exact ⟨other.key, key_mem_keys hother, hidentifier, hlt⟩

/--
Where no imported identifier has a dollar sign, an import keeps its identifier exactly when
the file declares no type of that name at its top and no earlier file is imported for it; any
other import is named after its file as well.  So two imports share a local name exactly when
they share the identifier, both lost it, and their files look alike.
-/
theorem import_keeps_identifier_iff {registry : Registry} {file : File}
    (hplain : forall name, name ∈ names registry file -> '$' ∉ name.identifier) :
    ((names registry file).map ImportName.key).Nodup ∧
    (forall name, name ∈ names registry file ->
      (name.localName = name.identifier ↔
        name.identifier ∉ file.messages.map Message.name ∧
        name.identifier ∉ file.enums.map Enum.name ∧
        forall other, other ∈ names registry file -> other.identifier = name.identifier ->
          ¬ other.fileName < name.fileName) ∧
      (name.localName ≠ name.identifier ->
        name.localName = name.identifier ++ '$' :: fileAlias name.fileName)) ∧
    (forall left, left ∈ names registry file -> forall right, right ∈ names registry file ->
      left.key ≠ right.key ->
      (left.localName = right.localName ↔
        left.identifier = right.identifier ∧
        left.localName ≠ left.identifier ∧ right.localName ≠ right.identifier ∧
        fileAlias left.fileName = fileAlias right.fileName)) := by
  refine ⟨?_, ?_, ?_⟩
  · rw [map_key_names]
    exact nodup_keys registry file
  · intro name hname
    constructor
    · rw [localName_eq_identifier_iff_not_isTaken hplain hname, isTaken_key_iff]
      simp only [not_or, not_exists, not_and, and_assoc]
    · intro haliased
      have htaken := mt (localName_eq_identifier_iff_not_isTaken hplain hname).mpr haliased
      rw [localName_of_mem_names hplain hname, ImportKey.localName,
        if_pos (Classical.not_not.mp htaken)]
      rfl
  · intro left hleft right hright hne
    rw [Ne, Ne, localName_eq_identifier_iff_not_isTaken hplain hleft,
      localName_eq_identifier_iff_not_isTaken hplain hright, Classical.not_not,
      Classical.not_not, localName_of_mem_names hplain hleft,
      localName_of_mem_names hplain hright]
    exact ImportKey.localName_eq_iff (key_mem_keys hleft) (key_mem_keys hright) hne
      (hplain left hleft) (hplain right hright)

/-- A file that needs a type of its own name and two types of one name. -/
def sameNames : List File := [
  { name := ['f']
    messages := [
      { name := ['A']
        fields := [
          { type := .message, typeName := ['.', 'p', '.', 'A'] },
          { type := .message, typeName := ['.', 'q', '.', 'B'] },
          { type := .message, typeName := ['.', 'p', '.', 'B'] }] }] },
  { name := ['g'], package := ['p'], messages := [{ name := ['A'] }, { name := ['B'] }] },
  { name := ['h'], package := ['q'], messages := [{ name := ['B'] }] }]

theorem imports_of_sameNames :
    exists first second, first ∈ names (Registry.ofFiles sameNames) (sameNames.headD {}) ∧
      second ∈ names (Registry.ofFiles sameNames) (sameNames.headD {}) ∧
      first.key = ⟨['g'], ['B']⟩ ∧ second.key = ⟨['h'], ['B']⟩ ∧
      first.localName = ['B'] ∧ second.localName = ['B', '$', 'h'] := by
  have hplain : forall name, name ∈ names (Registry.ofFiles sameNames) (sameNames.headD {}) ->
      '$' ∉ name.identifier := by decide +kernel
  rcases import_keeps_identifier_iff hplain with ⟨_, hnames, _⟩
  have hkeys : [ImportKey.mk ['g'] ['B'], ImportKey.mk ['h'] ['B']] ⊆
      keys (Registry.ofFiles sameNames) (sameNames.headD {}) := by decide +kernel
  rcases exists_name_of_mem_keys (hkeys List.mem_cons_self) with
    ⟨⟨_, _, keeps⟩, hfirst, hfirstKey⟩
  rcases exists_name_of_mem_keys (hkeys (List.mem_cons_of_mem _ List.mem_cons_self)) with
    ⟨⟨_, _, yields⟩, hsecond, hsecondKey⟩
  cases hfirstKey
  cases hsecondKey
  have hfree : ['B'] ∉ (sameNames.headD {}).messages.map Message.name ∧
      ['B'] ∉ (sameNames.headD {}).enums.map Enum.name ∧
      forall other, other ∈ names (Registry.ofFiles sameNames) (sameNames.headD {}) ->
        other.identifier = ['B'] -> ¬ other.fileName < ['g'] := by decide +kernel
  have hlater : (['g'] : Text) < ['h'] := by decide
  refine ⟨_, _, hfirst, hsecond, rfl, rfl, (hnames _ hfirst).1.mpr hfree, ?_⟩
  apply (hnames _ hsecond).2
  intro hkept
  exact ((hnames _ hsecond).1.mp hkept).2.2 _ hfirst rfl hlater

end Imports
end ProtoModules
