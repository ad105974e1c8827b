import Mathlib.Data.List.Induction
import ProtoModules.Proofs.Registration

/-!
# The registry as a map of first declarations

The registry is filled one entry at a time, and an entry whose full name is known is
dropped.  What remains of a list of entries is said here at once: an entry stays when
no entry before it has its full name.  A type that is declared twice can lose its
second declaration and still contribute what only the second one has in it, since
every entry is judged by its own full name.
-/

namespace ProtoModules

open Schema

namespace TypeName

theorem absolute_eq (typeName : Text) :
    absolute typeName = if typeName.head? = some '.' then typeName else '.' :: typeName := by
  cases typeName with
  | nil => rfl
  | cons c rest =>
      by_cases hdot : c = '.'
      · subst hdot
        rfl
      · simp [absolute, hdot]

end TypeName

namespace Entry

/-- What an entry is exported as ends where the first dot of its path stands. -/
theorem path_cases (entry : Entry) :
    '.' ∉ entry.identifier ∧
      (entry.path = entry.identifier ∨
        exists rest, entry.path = entry.identifier ++ '.' :: rest) := by
  unfold identifier
  cases hcut : Text.cutFirst '.' entry.path with
  | none =>
      have hpath := Text.cutFirst_eq_none.mp hcut
      rw [Text.beforeFirst_of_not_mem hpath]
      constructor
      · exact hpath
      · exact Or.inl rfl
  | some halves =>
      rcases Text.cutFirst_eq_some hcut with ⟨hpath, hbefore⟩
      rw [hpath, Text.beforeFirst_append halves.2 hbefore]
      constructor
      · exact hbefore
      · exact Or.inr ⟨halves.2, rfl⟩

end Entry

namespace Registry

/-- The entries before which no entry has the same full name. -/
def firsts (entries : List Entry) : List Entry :=
  (entries.zipIdx.filter fun numbered =>
    (entries.take numbered.2).all fun earlier =>
      earlier.fullName ≠ numbered.1.fullName).map Prod.fst

theorem mem_of_mem_firsts {entries : List Entry} {entry : Entry}
    (hentry : entry ∈ firsts entries) : entry ∈ entries := by
  rcases List.mem_map.mp hentry with ⟨numbered, hnumbered, rfl⟩
  exact List.fst_mem_of_mem_zipIdx (List.mem_of_mem_filter hnumbered)

/-!
## One more entry
-/

theorem firsts_snoc (front : List Entry) (entry : Entry) :
    firsts (front ++ [entry]) =
      firsts front ++
        if front.all (fun earlier => earlier.fullName ≠ entry.fullName) then [entry]
        else [] := by
  have hfront : forall numbered, numbered ∈ front.zipIdx ->
      (((front ++ [entry]).take numbered.2).all fun earlier =>
        earlier.fullName ≠ numbered.1.fullName) =
      ((front.take numbered.2).all fun earlier =>
        earlier.fullName ≠ numbered.1.fullName) := by
    intro numbered hnumbered
    have hindex : numbered.2 < front.length := List.snd_lt_of_mem_zipIdx hnumbered
    rw [List.take_append_of_le_length (Nat.le_of_lt hindex)]
  have hlast : ((front ++ [entry]).take (0 + front.length)) = front := by simp
  rw [firsts, List.zipIdx_append, List.filter_append, List.filter_congr hfront,
    List.map_append]
  apply congrArg (firsts front ++ ·)
  simp only [List.zipIdx_singleton, List.filter_singleton, hlast]
  cases front.all fun earlier => decide (earlier.fullName ≠ entry.fullName) with
  | true => rfl
  | false => rfl

theorem entries_insert (registry : Registry) (entry : Entry) :
    (registry.insert entry).entries =
      registry.entries ++ if (registry.find? entry.fullName).isNone then [entry] else [] := by
  unfold insert
  cases registry.find? entry.fullName with
  | none => rfl
  | some known => simp

/-- Entries that are added in turn leave those with new full names. -/
theorem entries_insertAll (entries : List Entry) :
    (insertAll {} entries).entries = firsts entries := by
  -- Entries are taken off at the end: those before an entry decide whether it stays.
  induction entries using List.reverseRecOn with
  | nil => rfl
  | append_singleton front entry ih =>
      have hnew : ((insertAll {} front).find? entry.fullName).isNone =
          front.all fun earlier => earlier.fullName ≠ entry.fullName := by
        rw [find?_insertAll, Bool.eq_iff_iff]
        simp [find?]
      rw [insertAll_append, firsts_snoc, ← ih, ← hnew]
      exact entries_insert (insertAll {} front) entry

/-!
## Look-ups
-/

theorem lookup_eq_none_iff (files : List File) (typeName : Text) :
    (ofFiles files).lookup typeName = none ↔
      forall file, file ∈ files -> forall site : Site, site.StandsIn file ->
        site.fullName file.package ≠ TypeName.absolute typeName := by
  simp only [lookup_ofFiles, List.find?_eq_none, decide_eq_true_iff]
  constructor
  · intro hnone file hfile site hsite
    exact hnone (site.entry file) (mem_entriesOf.mpr ⟨file, site, hfile, hsite, rfl⟩)
  · intro hnone entry hentry
    rcases mem_entriesOf.mp hentry with ⟨file, site, hfile, hsite, rfl⟩
    exact hnone file hfile site hsite

theorem foreign?_eq (registry : Registry) (fileName typeName : Text) :
    registry.foreign? fileName typeName =
      if (registry.lookup typeName).map Entry.fileName = some fileName then none
      else registry.lookup typeName := by
  unfold foreign?
  cases registry.lookup typeName with
  | none => rfl
  | some entry =>
      by_cases hfile : entry.fileName = fileName
      · simp [hfile]
      · simp [hfile]

/--
The registry of some files holds the first declaration of every full name, in the order
in which the files declare them: messages, each followed by the messages and then the
enums in it, and then enums.  A look-up finds the first declaration of a full name, and
a look-up for a file finds it unless the file itself declares it.
-/
theorem ofFiles_holds_first_declarations (files : List File) :
    (ofFiles files).entries = firsts (entriesOf files) ∧
    (forall typeName : Text,
      (ofFiles files).lookup typeName =
        (entriesOf files).find? fun entry =>
          entry.fullName =
            if typeName.head? = some '.' then typeName else '.' :: typeName) ∧
    (forall typeName : Text,
      (ofFiles files).lookup typeName = none ↔
        forall file, file ∈ files -> forall site : Site, site.StandsIn file ->
          site.fullName file.package ≠
            if typeName.head? = some '.' then typeName else '.' :: typeName) ∧
    (forall typeName fileName : Text,
      (ofFiles files).foreign? fileName typeName =
        if ((ofFiles files).lookup typeName).map Entry.fileName = some fileName then none
        else (ofFiles files).lookup typeName) ∧
    (forall entry, entry ∈ (ofFiles files).entries ->
      exists (file : File) (site : Site), file ∈ files ∧ site.StandsIn file ∧
        entry.fullName = site.fullName file.package ∧
        entry.fileName = file.name ∧ entry.name = site.declared.name ∧
        entry.path = Text.joined "." (site.around.map Message.name ++ [site.declared.name]) ∧
        entry.declared = site.declared ∧
        '.' ∉ entry.identifier ∧
        (entry.path = entry.identifier ∨
          exists rest, entry.path = entry.identifier ++ '.' :: rest)) := by
  simp only [← TypeName.absolute_eq]
  refine ⟨?_, lookup_ofFiles files, lookup_eq_none_iff files, ?_, ?_⟩
  · rw [ofFiles_eq, entries_insertAll]
  · intro typeName fileName
    exact foreign?_eq (ofFiles files) fileName typeName
  · intro entry hentry
    rw [ofFiles_eq, entries_insertAll] at hentry
    rcases mem_entriesOf.mp (mem_of_mem_firsts hentry) with ⟨file, site, hfile, hsite, rfl⟩
    exact ⟨file, site, hfile, hsite, rfl, rfl, rfl, rfl, rfl, (site.entry file).path_cases⟩

/-- A message that is declared twice, with different types in it. -/
def redeclared : List File := [
  { name := ['f']
    package := ['p']
    messages := [{ name := ['A'], nested := [{ name := ['B'] }], enums := [{ name := ['B'] }] }] },
  { name := ['g']
    package := ['p']
    messages := [{ name := ['A'], enums := [{ name := ['C'] }] }] }]

theorem entries_of_redeclared :
    (ofFiles redeclared).entries.map (fun entry => (entry.path, entry.fileName)) =
      [(['A'], ['f']), (['A', '.', 'B'], ['f']), (['A', '.', 'C'], ['g'])] ∧
    (ofFiles redeclared).foreign? ['f'] ['p', '.', 'A'] = none ∧
    ((ofFiles redeclared).foreign? ['f'] ['p', '.', 'A', '.', 'C']).map Entry.name =
      some ['C'] := by
  rcases ofFiles_holds_first_declarations redeclared with ⟨hentries, _, _, hforeign, _⟩
  rw [hentries, hforeign, hforeign]
  exact ⟨rfl, rfl, rfl⟩

end Registry
end ProtoModules
