import Mathlib.Data.List.TFAE
import Mathlib.Tactic.TFAE
import ProtoModules.Proofs.ImportLists

/-!
# Classes that the imports account for

The imports of a module are found by a scan that goes through the messages of its file from
the root down, and its classes are drafted by another recursion, from the leaves up.  Both
leave out the map entries inside a message with everything in them, but only the scan leaves
out those at the top of the file.  So the classes are those of the scanned messages and,
besides, those of each map entry at the top and of what a scan finds inside it.
-/

namespace ProtoModules

open Schema

namespace Imports

/-- A message, be it a map entry or not, and what a scan of the messages in it finds. -/
def scannedFrom (message : Message) : List Message :=
  message :: scannedAll message.nested

def passedOver (messages : List Message) : List Message :=
  (messages.filter Message.isMapEntry).flatMap scannedFrom

theorem scannedAll_eq_flatMap (messages : List Message) :
    scannedAll messages =
      (messages.filter fun message => !message.isMapEntry).flatMap scannedFrom := by
  induction messages with
  | nil => rw [scannedAll, List.filter_nil, List.flatMap_nil]
  | cons message rest ih =>
      rw [scannedAll, scanned_eq_ite, ih]
      cases hentry : message.isMapEntry with
      | true => simp [hentry]
      | false => simp [hentry, scannedFrom]

theorem scannedAll_append_passedOver_perm (messages : List Message) :
    (scannedAll messages ++ passedOver messages).Perm (messages.flatMap scannedFrom) := by
  have hparts := List.filter_append_perm (fun message : Message => !message.isMapEntry) messages
  simp only [Bool.not_not] at hparts
  rw [scannedAll_eq_flatMap, passedOver, ← List.flatMap_append]
  exact hparts.flatMap_right scannedFrom

theorem passedOver_eq_nil {messages : List Message}
    (htops : forall message, message ∈ messages -> message.isMapEntry = false) :
    passedOver messages = [] := by
  have hentries : messages.filter Message.isMapEntry = [] := by
    rw [List.filter_eq_nil_iff]
    intro message hmessage
    simp [htops message hmessage]
  rw [passedOver, hentries, List.flatMap_nil]

theorem isMapEntry_of_mem_scannedAll {file : File} {message : Message}
    (hmessage : message ∈ scannedAll file.messages) : message.isMapEntry = false := by
  rcases mem_scannedAll.mp hmessage with ⟨site, _, hkept, hdeclared⟩
  have hway : message ∈ site.way := by simp [Site.way, hdeclared]
  simpa using List.all_eq_true.mp hkept message hway

end Imports

namespace Draft

def classed (file : File) : List Message :=
  (emitted file).filterMap Site.message?

-- The recursion below the top is that of the scan, so the induction is on the messages at
-- the top alone.
theorem filterMap_message?_ofMessages (index : Nat) (messages : List Message) :
    ((Traversal.enumsFirst.ofMessages index messages).filter Site.isEmitted).filterMap
        Site.message? =
      messages.flatMap Imports.scannedFrom := by
  induction messages generalizing index with
  | nil => rfl
  | cons message rest ih =>
      rw [Traversal.ofMessages, List.filter_append, List.filterMap_append,
        Imports.filterMap_message?_ofMessage, ← Imports.scannedAll_eq 0 message.nested, ih,
        List.flatMap_cons]
      rfl

/-- Every message at the top gets a class, and so does what a scan finds inside it. -/
theorem classed_perm_flatMap (file : File) :
    (classed file).Perm (file.messages.flatMap Imports.scannedFrom) := by
  have hclaimed : (claimed file).filterMap Site.message? =
      file.messages.flatMap Imports.scannedFrom := by
    rw [claimed_eq, List.filterMap_append, Imports.filterMap_message?_ofEnums,
      filterMap_message?_ofMessages, List.nil_append]
  rw [← hclaimed]
  exact (emitted_perm_claimed file).filterMap Site.message?

theorem mem_classed_of_mem_messages {file : File} {message : Message}
    (hmessage : message ∈ file.messages) : message ∈ classed file := by
  rw [(classed_perm_flatMap file).mem_iff, List.mem_flatMap]
  exact ⟨message, hmessage, List.mem_cons_self⟩

/--
The classes of a module are those of the scanned messages and of the map entries at the top
of the file with what a scan finds inside them.  They are those of the scanned messages alone
exactly when no message at the top is a map entry, and the same condition decides whether
every class has had its fields scanned, and whether no map entry has a class.
-/
theorem classes_agree_with_scan_iff {scope : Scope} {draft : Draft}
    (hok : ofScope scope = .ok draft) :
    draft.declarations = (emitted scope.file).map (unitOf scope) ∧
    (classed scope.file).Perm
      (Imports.scannedAll scope.file.messages ++ Imports.passedOver scope.file.messages) ∧
    List.TFAE [
      (classed scope.file).Perm (Imports.scannedAll scope.file.messages),
      forall message, message ∈ classed scope.file ->
        message ∈ Imports.scannedAll scope.file.messages,
      forall message, message ∈ classed scope.file -> message.isMapEntry = false,
      forall message, message ∈ scope.file.messages -> message.isMapEntry = false] := by
  have hperm := (classed_perm_flatMap scope.file).trans
    (Imports.scannedAll_append_passedOver_perm scope.file.messages).symm
  refine ⟨?_, hperm, ?_⟩
  · rcases ofScope_eq_ok_iff.mp hok with ⟨claims, _, rfl⟩
    rfl
  · tfae_have 1 → 2 := by
      intro hsame message hmessage
      exact hsame.mem_iff.mp hmessage
    tfae_have 2 → 3 := by
      intro hscanned message hmessage
      exact Imports.isMapEntry_of_mem_scannedAll (hscanned message hmessage)
    tfae_have 3 → 4 := by
      intro hplain message hmessage
      exact hplain message (mem_classed_of_mem_messages hmessage)
    tfae_have 4 → 1 := by
      intro htops
      rwa [Imports.passedOver_eq_nil htops, List.append_nil] at hperm
    tfae_finish

/-- A message with another one in it, and with a map entry that has a message in it. -/
def withEntry : Message where
  name := ['M']
  nested := [
    { name := ['E'], nested := [{ name := ['H'] }], isMapEntry := true },
    { name := ['N'] }]

def topLevelEntry : Message where
  name := ['X']
  nested := [{ name := ['Y'] }]
  isMapEntry := true

theorem classes_of_withEntry :
    (exists draft, ofScope { registry := {}, file := { messages := [withEntry] } } = .ok draft ∧
      (classed { messages := [withEntry] }).Perm (Imports.scannedAll [withEntry])) ∧
    (exists draft,
      ofScope { registry := {}, file := { messages := [withEntry, topLevelEntry] } } = .ok draft ∧
        ¬ (classed { messages := [withEntry, topLevelEntry] }).Perm
          (Imports.scannedAll [withEntry, topLevelEntry])) := by
  constructor
  · have hok : exists draft,
        ofScope { registry := {}, file := { messages := [withEntry] } } = .ok draft := ⟨_, rfl⟩
    rcases hok with ⟨draft, hdraft⟩
    have hagree := (classes_agree_with_scan_iff hdraft).2.2.out 0 3
    exact ⟨draft, hdraft, hagree.mpr (by decide)⟩
  · have hok : exists draft,
        ofScope { registry := {}, file := { messages := [withEntry, topLevelEntry] } } =
          .ok draft := ⟨_, rfl⟩
    rcases hok with ⟨draft, hdraft⟩
    have hagree := (classes_agree_with_scan_iff hdraft).2.2.out 0 3
    refine ⟨draft, hdraft, fun hperm => ?_⟩
    exact absurd (hagree.mp hperm) (by decide)

/-- Whatever sites the declarations are for, the class of a map entry has no scanned message. -/
theorem not_forall_classes_agree_with_scan :
    ¬ forall (scope : Scope) (draft : Draft), ofScope scope = .ok draft ->
      exists sites : List Site, draft.declarations = sites.map (unitOf scope) ∧
        (sites.filterMap Site.message?).Perm (Imports.scannedAll scope.file.messages) := by
  intro hall
  rcases hall { registry := {}, file := { messages := [topLevelEntry] } } _ rfl with
    ⟨sites, hsites, hperm⟩
  have hnone : sites.filterMap Site.message? = [] := List.perm_nil.mp hperm
  cases sites with
  | nil => cases hsites
  | cons site rest =>
      cases hdeclared : site.declared with
      | message message =>
          rw [List.filterMap_cons_some (Site.message?_eq_some_iff.mpr hdeclared)] at hnone
          cases hnone
      | enumeration enum =>
          rw [List.map_cons, unitOf, hdeclared] at hsites
          cases (List.cons.inj hsites).1

end Draft
end ProtoModules
