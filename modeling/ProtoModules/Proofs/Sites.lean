import Mathlib.Data.List.Perm.Basic
import ProtoModules.Registry

/-!
# The declarations of a file in their places

A file is a forest: enums and messages stand at its top, and each message holds
further enums and messages.  A site is one declaration together with its place:
the steps that lead to it from the top of the file, and the messages around it.
Two declarations that look alike are still two sites, since their steps differ.

The registry, the claims of a draft and the declarations of a module visit the
same sites in three orders.  The orders are instances of one traversal, so they
are rearrangements of each other, and a site is visited exactly when its steps
lead to it.
-/

namespace ProtoModules

open Schema

def Declared.name : Declared -> Text
  | .message declared => declared.name
  | .enumeration declared => declared.name

/-- A dot, the package if there is any, and some names with dots between them. -/
def TypeName.qualified (package : Text) (names : List Text) : Text :=
  if package = [] then '.' :: Text.joined "." names
  else '.' :: package ++ '.' :: Text.joined "." names

inductive Step where
  | enumeration (index : Nat)
  | message (index : Nat)
deriving DecidableEq, Repr

/-- A declaration, the steps that lead to it and the messages around it. -/
structure Site where
  address : List Step
  around : List Message
  declared : Declared

namespace Site

def names (site : Site) : List Text :=
  site.around.map Message.name ++ [site.declared.name]

def path (site : Site) : Text :=
  Text.joined "." site.names

def fullName (package : Text) (site : Site) : Text :=
  TypeName.qualified package site.names

/--
The identifier that a module should bind for a site: its name at the top of the
file, and elsewhere two underscores and the path with underscores for dots.
-/
def identifier (site : Site) : Text :=
  if site.around = [] then site.declared.name
  else '_' :: '_' :: Text.replaceChar '.' '_' site.path

def way (site : Site) : List Message :=
  match site.declared with
  | .message message => site.around ++ [message]
  | .enumeration _ => site.around

def isKept (site : Site) : Bool :=
  site.way.all fun message => !message.isMapEntry

/-- Whether no map entry lies on the way to a site below the top of the file. -/
def isEmitted (site : Site) : Bool :=
  site.way.tail.all fun message => !message.isMapEntry

/-- A site seen from further out. -/
def under (address : List Step) (around : List Message) (site : Site) : Site where
  address := address ++ site.address
  around := around ++ site.around
  declared := site.declared

def ofEnums (index : Nat) (enums : List Enum) : List Site :=
  (enums.zipIdx index).map fun numbered =>
    ⟨[.enumeration numbered.2], [], .enumeration numbered.1⟩

def ofMessages (index : Nat) (messages : List Message) : List Site :=
  (messages.zipIdx index).map fun numbered =>
    ⟨[.message numbered.2], [], .message numbered.1⟩

/--
The sites right inside a site, but for map entries: first the enums and then the
messages, each in the order of declaration.
-/
def children (site : Site) : List Site :=
  match site.declared with
  | .enumeration _ => []
  | .message message =>
      (ofEnums 0 message.enums ++ (ofMessages 0 message.nested).filter isKept).map
        (under site.address (site.around ++ [message]))

/-- The site that some steps lead to, below the given enums and messages. -/
def at? (enums : List Enum) (messages : List Message) : List Step -> Option Site
  | [] => none
  | [.enumeration index] =>
      enums[index]?.map fun enum => ⟨[.enumeration index], [], .enumeration enum⟩
  | .enumeration _ :: _ :: _ => none
  | [.message index] =>
      messages[index]?.map fun message => ⟨[.message index], [], .message message⟩
  | .message index :: step :: rest =>
      messages[index]?.bind fun message =>
        (at? message.enums message.nested (step :: rest)).map
          (under [.message index] [message])

def StandsIn (file : File) (site : Site) : Prop :=
  at? file.enums file.messages site.address = some site

end Site

inductive Traversal where
  /-- The order of the registry: the message, the messages in it, the enums in it. -/
  | messagesFirst
  /-- The order of the claims: the message, the enums in it, the messages in it. -/
  | enumsFirst
  /-- The order of emission: the enums in it, the messages in it, the message. -/
  | rootLast
deriving DecidableEq, Repr

namespace Traversal

def arrange (root enums nested : List Site) : Traversal -> List Site
  | messagesFirst => root ++ (nested ++ enums)
  | enumsFirst => root ++ (enums ++ nested)
  | rootLast => enums ++ (nested ++ root)

mutual

def ofMessage (order : Traversal) (index : Nat) : Message -> List Site
  | message@⟨_, _, nested, enums, _⟩ =>
      order.arrange [⟨[.message index], [], .message message⟩]
        ((Site.ofEnums 0 enums).map (Site.under [.message index] [message]))
        ((order.ofMessages 0 nested).map (Site.under [.message index] [message]))

def ofMessages (order : Traversal) (index : Nat) : List Message -> List Site
  | [] => []
  | message :: rest => order.ofMessage index message ++ order.ofMessages (index + 1) rest

end

def below (order : Traversal) (enums : List Enum) (messages : List Message) : List Site :=
  order.arrange [] (Site.ofEnums 0 enums) (order.ofMessages 0 messages)

def ofFile (order : Traversal) (file : File) : List Site :=
  order.below file.enums file.messages

end Traversal

/-!
## Sites seen from further out
-/

namespace Site

@[simp] theorem under_address (address : List Step) (around : List Message) (site : Site) :
    (site.under address around).address = address ++ site.address := rfl

@[simp] theorem under_around (address : List Step) (around : List Message) (site : Site) :
    (site.under address around).around = around ++ site.around := rfl

@[simp] theorem under_declared (address : List Step) (around : List Message) (site : Site) :
    (site.under address around).declared = site.declared := rfl

@[simp] theorem under_under (first second : List Step) (outer inner : List Message)
    (site : Site) :
    (site.under second inner).under first outer =
      site.under (first ++ second) (outer ++ inner) := by
  simp [under]

theorem map_under_nil (sites : List Site) : sites.map (under [] []) = sites :=
  List.map_id sites

@[simp] theorem way_under (address : List Step) (around : List Message) (site : Site) :
    (site.under address around).way = around ++ site.way := by
  cases hdeclared : site.declared with
  | message message => simp [way, hdeclared]
  | enumeration enum => simp [way, hdeclared]

theorem isKept_under_one (address : List Step) (message : Message) (site : Site) :
    (site.under address [message]).isKept = (!message.isMapEntry && site.isKept) := by
  simp [isKept]

theorem isEmitted_under_one (address : List Step) (message : Message) (site : Site) :
    (site.under address [message]).isEmitted = site.isKept := by
  simp [isEmitted, isKept]

theorem isEmitted_under_of_isKept {address : List Step} {around : List Message} {site : Site}
    (haround : forall message, message ∈ around.tail -> message.isMapEntry = false)
    (hkept : site.isKept = true) :
    (site.under address around).isEmitted = true := by
  cases around with
  | nil =>
      simp only [isKept, List.all_eq_true] at hkept
      simp only [isEmitted, way_under, List.nil_append, List.all_eq_true]
      intro message hmessage
      exact hkept message (List.mem_of_mem_tail hmessage)
  | cons outermost inner =>
      simp only [isKept, List.all_eq_true] at hkept
      simp only [isEmitted, way_under, List.cons_append, List.tail_cons, List.all_append,
        Bool.and_eq_true, List.all_eq_true]
      constructor
      · intro message hmessage
        simp [haround message hmessage]
      · exact hkept

theorem isEmitted_of_isKept {site : Site} (hkept : site.isKept = true) :
    site.isEmitted = true := by
  simp only [isKept, isEmitted, List.all_eq_true] at hkept ⊢
  intro message hmessage
  exact hkept message (List.mem_of_mem_tail hmessage)

theorem names_ne_nil (site : Site) : site.names ≠ [] := by
  simp [names]

end Site

namespace Traversal

/-!
## Every order visits the same sites
-/

theorem arrange_perm (order : Traversal) {root enums nested visited : List Site}
    (hnested : nested.Perm visited) :
    (order.arrange root enums nested).Perm (root ++ (enums ++ visited)) := by
  cases order with
  | messagesFirst =>
      exact List.Perm.append_left root ((List.perm_append_comm).trans
        (List.Perm.append_left enums hnested))
  | enumsFirst =>
      exact List.Perm.append_left root (List.Perm.append_left enums hnested)
  | rootLast =>
      have houter : (enums ++ (nested ++ root)).Perm (root ++ (enums ++ nested)) := by
        rw [← List.append_assoc]
        exact List.perm_append_comm
      exact houter.trans
        (List.Perm.append_left root (List.Perm.append_left enums hnested))

theorem mem_arrange {order : Traversal} {root enums nested : List Site} {site : Site} :
    site ∈ order.arrange root enums nested ↔
      site ∈ root ∨ site ∈ enums ∨ site ∈ nested := by
  rw [(order.arrange_perm (List.Perm.refl nested)).mem_iff]
  simp

theorem filter_arrange (order : Traversal) (test : Site -> Bool)
    (root enums nested : List Site) :
    (order.arrange root enums nested).filter test =
      order.arrange (root.filter test) (enums.filter test) (nested.filter test) := by
  cases order <;> simp [arrange]

theorem map_arrange (order : Traversal) (f : Site -> Site)
    (root enums nested : List Site) :
    (order.arrange root enums nested).map f =
      order.arrange (root.map f) (enums.map f) (nested.map f) := by
  cases order <;> simp [arrange]

theorem ofMessage_eq (order : Traversal) (index : Nat) (message : Message) :
    order.ofMessage index message =
      order.arrange [⟨[.message index], [], .message message⟩]
        ((Site.ofEnums 0 message.enums).map (Site.under [.message index] [message]))
        ((order.ofMessages 0 message.nested).map
          (Site.under [.message index] [message])) := by
  cases message
  rw [ofMessage]

mutual

theorem ofMessage_perm (order other : Traversal) (index : Nat) :
    forall message : Message,
      (order.ofMessage index message).Perm (other.ofMessage index message)
  | ⟨_, _, nested, _, _⟩ => by
      rw [ofMessage, ofMessage]
      exact (order.arrange_perm ((ofMessages_perm order other 0 nested).map _)).trans
        (other.arrange_perm (List.Perm.refl _)).symm

theorem ofMessages_perm (order other : Traversal) (index : Nat) :
    forall messages : List Message,
      (order.ofMessages index messages).Perm (other.ofMessages index messages)
  | [] => List.Perm.refl _
  | message :: rest => by
      rw [ofMessages, ofMessages]
      exact (ofMessage_perm order other index message).append
        (ofMessages_perm order other (index + 1) rest)

end

theorem ofFile_perm (order other : Traversal) (file : File) :
    (order.ofFile file).Perm (other.ofFile file) :=
  (order.arrange_perm (ofMessages_perm order other 0 file.messages)).trans
    (other.arrange_perm (List.Perm.refl _)).symm

/-!
## A site is visited when its steps lead to it
-/

theorem ofMessages_eq_flatMap (order : Traversal) (index : Nat) (messages : List Message) :
    order.ofMessages index messages =
      (messages.zipIdx index).flatMap fun numbered =>
        order.ofMessage numbered.2 numbered.1 := by
  induction messages generalizing index with
  | nil => rfl
  | cons message rest ih => simp [ofMessages, ih]

theorem mem_ofMessages {order : Traversal} {messages : List Message} {site : Site} :
    site ∈ order.ofMessages 0 messages ↔
      exists index message,
        messages[index]? = some message ∧ site ∈ order.ofMessage index message := by
  simp only [ofMessages_eq_flatMap, List.mem_flatMap, List.mem_zipIdx_iff_getElem?,
    Prod.exists]
  constructor
  · intro hnumbered
    rcases hnumbered with ⟨message, index, hmessage, hsite⟩
    exact ⟨index, message, hmessage, hsite⟩
  · intro hindexed
    rcases hindexed with ⟨index, message, hmessage, hsite⟩
    exact ⟨message, index, hmessage, hsite⟩

theorem mem_ofMessage {order : Traversal} {index : Nat} {message : Message} {site : Site} :
    site ∈ order.ofMessage index message ↔
      site = ⟨[.message index], [], .message message⟩ ∨
        exists inner, inner ∈ order.below message.enums message.nested ∧
          site = inner.under [.message index] [message] := by
  rw [ofMessage_eq, mem_arrange, List.mem_singleton]
  simp only [below, mem_arrange, List.mem_map, List.not_mem_nil, false_or]
  constructor
  · intro hvisited
    rcases hvisited with hroot | ⟨inner, hinner, rfl⟩ | ⟨inner, hinner, rfl⟩
    · exact Or.inl hroot
    · exact Or.inr ⟨inner, Or.inl hinner, rfl⟩
    · exact Or.inr ⟨inner, Or.inr hinner, rfl⟩
  · intro hinside
    rcases hinside with hroot | ⟨inner, hinner | hinner, rfl⟩
    · exact Or.inl hroot
    · exact Or.inr (Or.inl ⟨inner, hinner, rfl⟩)
    · exact Or.inr (Or.inr ⟨inner, hinner, rfl⟩)

theorem address_of_mem_ofMessage {order : Traversal} {index : Nat} {message : Message}
    {site : Site} (hsite : site ∈ order.ofMessage index message) :
    exists rest, site.address = .message index :: rest := by
  rcases mem_ofMessage.mp hsite with rfl | ⟨inner, _, rfl⟩
  · exact ⟨[], rfl⟩
  · exact ⟨inner.address, rfl⟩

theorem mem_below {order : Traversal} {enums : List Enum} {messages : List Message}
    {site : Site} :
    site ∈ order.below enums messages ↔
      (exists index enum, enums[index]? = some enum ∧
        site = ⟨[.enumeration index], [], .enumeration enum⟩) ∨
      (exists index message, messages[index]? = some message ∧
        site ∈ order.ofMessage index message) := by
  simp only [below, mem_arrange, List.not_mem_nil, false_or, mem_ofMessages,
    Site.ofEnums, List.mem_map, List.mem_zipIdx_iff_getElem?, Prod.exists]
  constructor
  · intro hlisted
    rcases hlisted with ⟨enum, index, henum, rfl⟩ | hmessages
    · exact Or.inl ⟨index, enum, henum, rfl⟩
    · exact Or.inr hmessages
  · intro hindexed
    rcases hindexed with ⟨index, enum, henum, rfl⟩ | hmessages
    · exact Or.inl ⟨enum, index, henum, rfl⟩
    · exact Or.inr hmessages

theorem address_ne_nil_of_mem_below {order : Traversal} {enums : List Enum}
    {messages : List Message} {site : Site} (hsite : site ∈ order.below enums messages) :
    site.address ≠ [] := by
  rcases mem_below.mp hsite with ⟨index, enum, _, rfl⟩ | ⟨index, message, _, hsite⟩
  · simp
  · rcases address_of_mem_ofMessage hsite with ⟨rest, hrest⟩
    simp [hrest]

-- The induction is on the steps: what stands one step further down is inside the
-- message that the first step leads to.
theorem mem_below_iff_at? (order : Traversal) (address : List Step) :
    forall (enums : List Enum) (messages : List Message) (site : Site),
      site.address = address ->
        (site ∈ order.below enums messages ↔
          Site.at? enums messages address = some site) := by
  induction address with
  | nil =>
      intro enums messages site haddress
      constructor
      · intro hsite
        exact absurd haddress (address_ne_nil_of_mem_below hsite)
      · intro hat
        simp [Site.at?] at hat
  | cons step rest ih =>
      intro enums messages site haddress
      rw [mem_below]
      cases step with
      | enumeration index =>
          constructor
          · intro hvisited
            rcases hvisited with ⟨place, enum, henum, rfl⟩ | ⟨place, message, _, hsite⟩
            · obtain ⟨hindex, hrest⟩ : place = index ∧ [] = rest := by simpa using haddress
              subst hindex hrest
              simp [Site.at?, henum]
            · rcases address_of_mem_ofMessage hsite with ⟨steps, hsteps⟩
              simp [hsteps] at haddress
          · intro hat
            cases rest with
            | nil =>
                rcases Option.map_eq_some_iff.mp hat with ⟨enum, henum, rfl⟩
                exact Or.inl ⟨index, enum, henum, rfl⟩
            | cons next more => simp [Site.at?] at hat
      | message index =>
          constructor
          · intro hvisited
            rcases hvisited with ⟨place, enum, _, rfl⟩ | ⟨place, message, hmessage, hsite⟩
            · simp at haddress
            · rcases mem_ofMessage.mp hsite with rfl | ⟨inner, hinner, rfl⟩
              · obtain ⟨hindex, hrest⟩ : place = index ∧ [] = rest := by
                  simpa using haddress
                subst hindex hrest
                simp [Site.at?, hmessage]
              · obtain ⟨hindex, hrest⟩ : place = index ∧ inner.address = rest := by
                  simpa using haddress
                subst hindex
                have hat := (ih message.enums message.nested inner hrest).mp hinner
                cases rest with
                | nil => exact absurd hrest (address_ne_nil_of_mem_below hinner)
                | cons next more => simp [Site.at?, hmessage, hat]
          · intro hat
            cases rest with
            | nil =>
                rcases Option.map_eq_some_iff.mp hat with ⟨message, hmessage, rfl⟩
                exact Or.inr ⟨index, message, hmessage, mem_ofMessage.mpr (Or.inl rfl)⟩
            | cons next more =>
                rcases Option.bind_eq_some_iff.mp hat with ⟨message, hmessage, hinner⟩
                rcases Option.map_eq_some_iff.mp hinner with ⟨inner, hdeeper, rfl⟩
                have hrest : inner.address = next :: more := by simpa using haddress
                have hmem := (ih message.enums message.nested inner hrest).mpr hdeeper
                exact Or.inr ⟨index, message, hmessage,
                  mem_ofMessage.mpr (Or.inr ⟨inner, hmem, rfl⟩)⟩

theorem mem_ofFile {order : Traversal} {file : File} {site : Site} :
    site ∈ order.ofFile file ↔ site.StandsIn file :=
  mem_below_iff_at? order site.address file.enums file.messages site rfl

end Traversal

/-- A site of a file is an enum or a message at the top, or lies under such a message. -/
theorem Site.cases_of_standsIn {file : File} {site : Site} (hsite : site.StandsIn file) :
    (exists index enum, file.enums[index]? = some enum ∧
      site = ⟨[.enumeration index], [], .enumeration enum⟩) ∨
    (exists index message, file.messages[index]? = some message ∧
      (site = ⟨[.message index], [], .message message⟩ ∨
        exists inner : Site, site = inner.under [.message index] [message])) := by
  have hvisited : site ∈ Traversal.enumsFirst.ofFile file := Traversal.mem_ofFile.mpr hsite
  rcases Traversal.mem_below.mp hvisited with henum | ⟨index, message, hmessage, hinside⟩
  · exact Or.inl henum
  · rcases Traversal.mem_ofMessage.mp hinside with hroot | ⟨inner, _, hinner⟩
    · exact Or.inr ⟨index, message, hmessage, Or.inl hroot⟩
    · exact Or.inr ⟨index, message, hmessage, Or.inr ⟨inner, hinner⟩⟩

/-- When no message at the top is a map entry, nothing at the top hides a site. -/
theorem Site.isKept_of_isEmitted {file : File} {site : Site}
    (htops : forall message, message ∈ file.messages -> message.isMapEntry = false)
    (hsite : site.StandsIn file) (hemitted : site.isEmitted = true) : site.isKept = true := by
  rcases cases_of_standsIn hsite with ⟨index, enum, _, rfl⟩ | ⟨index, message, hmessage, hplace⟩
  · rfl
  · have htop := htops message (List.mem_of_getElem? hmessage)
    rcases hplace with rfl | ⟨inner, rfl⟩
    · simp [isKept, way, htop]
    · rw [isEmitted_under_one] at hemitted
      rw [isKept_under_one, htop, hemitted]
      rfl

end ProtoModules
