import ProtoModules.Proofs.Registration

/-!
# Files with absolute type names

A type name may be written with or without the dot that makes it a full name.  This module writes
every type name of a file with the dot, at every depth.  Nothing else about the file changes: it
has the same sites with the same names, and the registry has the same entries, whose messages are
those with absolute type names.
-/

namespace ProtoModules

open Schema

/-!
## Files, messages and fields
-/

namespace Schema

def Field.absolute (field : Field) : Field :=
  { field with typeName := TypeName.absolute field.typeName }

theorem Field.typeName_absolute (field : Field) :
    field.absolute.typeName = TypeName.absolute field.typeName := rfl

mutual

def Message.absolute : Message -> Message
  | ⟨name, fields, nested, enums, isMapEntry⟩ =>
      ⟨name, fields.map Field.absolute, Message.absoluteAll nested, enums, isMapEntry⟩

def Message.absoluteAll : List Message -> List Message
  | [] => []
  | message :: rest => message.absolute :: Message.absoluteAll rest

end

def File.absolute (file : File) : File :=
  { file with messages := file.messages.map Message.absolute }

namespace Message

theorem absoluteAll_eq_map (messages : List Message) :
    absoluteAll messages = messages.map absolute := by
  induction messages with
  | nil => rw [absoluteAll, List.map_nil]
  | cons message rest ih => rw [absoluteAll, ih, List.map_cons]

theorem absolute_eq (message : Message) :
    message.absolute =
      ⟨message.name, message.fields.map Field.absolute, message.nested.map absolute,
        message.enums, message.isMapEntry⟩ := by
  cases message
  rw [absolute, absoluteAll_eq_map]

@[simp] theorem name_absolute (message : Message) : message.absolute.name = message.name := by
  rw [absolute_eq]

@[simp] theorem fields_absolute (message : Message) :
    message.absolute.fields = message.fields.map Field.absolute := by
  rw [absolute_eq]

@[simp] theorem nested_absolute (message : Message) :
    message.absolute.nested = message.nested.map absolute := by
  rw [absolute_eq]

@[simp] theorem enums_absolute (message : Message) : message.absolute.enums = message.enums := by
  rw [absolute_eq]

@[simp] theorem isMapEntry_absolute (message : Message) :
    message.absolute.isMapEntry = message.isMapEntry := by
  rw [absolute_eq]

end Message
end Schema

def Declared.absolute : Declared -> Declared
  | .message declared => .message declared.absolute
  | .enumeration declared => .enumeration declared

@[simp] theorem Declared.name_absolute (declared : Declared) :
    declared.absolute.name = declared.name := by
  cases declared with
  | message declared => exact declared.name_absolute
  | enumeration declared => rfl

/-!
## Sites
-/

namespace Site

def absolute (site : Site) : Site where
  address := site.address
  around := site.around.map Message.absolute
  declared := site.declared.absolute

@[simp] theorem names_absolute (site : Site) : site.absolute.names = site.names := by
  simp [names, absolute, Function.comp_def]

@[simp] theorem path_absolute (site : Site) : site.absolute.path = site.path := by
  rw [path, path, names_absolute]

@[simp] theorem fullName_absolute (package : Text) (site : Site) :
    site.absolute.fullName package = site.fullName package := by
  rw [fullName, fullName, names_absolute]

@[simp] theorem label_absolute (package : Text) (site : Site) :
    site.absolute.label package = site.label package := by
  rw [label, label, fullName_absolute]
  simp [absolute]

theorem way_absolute (site : Site) : site.absolute.way = site.way.map Message.absolute := by
  cases hdeclared : site.declared with
  | message message => simp [way, absolute, hdeclared, Declared.absolute]
  | enumeration enum => simp [way, absolute, hdeclared, Declared.absolute]

@[simp] theorem isKept_absolute (site : Site) : site.absolute.isKept = site.isKept := by
  simp [isKept, way_absolute, List.all_map, Function.comp_def]

@[simp] theorem isEmitted_absolute (site : Site) : site.absolute.isEmitted = site.isEmitted := by
  simp [isEmitted, way_absolute, ← List.map_tail, List.all_map, Function.comp_def]

theorem under_absolute (address : List Step) (around : List Message) (site : Site) :
    (site.under address around).absolute =
      site.absolute.under address (around.map Message.absolute) := by
  simp [under, absolute]

theorem map_absolute_under (address : List Step) (message : Message) (sites : List Site) :
    (sites.map (under address [message])).map absolute =
      (sites.map absolute).map (under address [message.absolute]) := by
  rw [List.map_map, List.map_map]
  exact List.map_congr_left fun site _ => under_absolute address [message] site

theorem map_absolute_ofEnums (index : Nat) (enums : List Enum) :
    (ofEnums index enums).map absolute = ofEnums index enums := by
  rw [ofEnums, List.map_map]
  rfl

theorem ofMessages_absolute (index : Nat) (messages : List Message) :
    ofMessages index (messages.map Message.absolute) =
      (ofMessages index messages).map absolute := by
  rw [ofMessages, ofMessages, List.zipIdx_map, List.map_map, List.map_map]
  rfl

theorem filter_absolute {test : Site -> Bool}
    (htest : forall site, test (absolute site) = test site) (sites : List Site) :
    (sites.map absolute).filter test = (sites.filter test).map absolute := by
  rw [List.filter_map]
  congr 2
  funext site
  exact htest site

theorem children_absolute (site : Site) :
    site.absolute.children = site.children.map absolute := by
  cases hdeclared : site.declared with
  | enumeration enum => simp [children, absolute, hdeclared, Declared.absolute]
  | message message =>
      have hinside : site.absolute.declared = .message message.absolute := by
        simp [absolute, hdeclared, Declared.absolute]
      have haround : site.absolute.around ++ [message.absolute] =
          (site.around ++ [message]).map Message.absolute := by simp [absolute]
      have hsites : ofEnums 0 message.absolute.enums ++
            (ofMessages 0 message.absolute.nested).filter isKept =
          (ofEnums 0 message.enums ++ (ofMessages 0 message.nested).filter isKept).map
            absolute := by
        rw [List.map_append, map_absolute_ofEnums, Message.enums_absolute,
          Message.nested_absolute, ofMessages_absolute, filter_absolute isKept_absolute]
      simp only [children, hinside, hdeclared]
      rw [hsites, haround, List.map_map, List.map_map]
      exact List.map_congr_left fun inner _ => (under_absolute _ _ inner).symm

end Site

namespace Traversal

mutual

theorem ofMessage_absolute (order : Traversal) (index : Nat) :
    forall message : Message,
      order.ofMessage index message.absolute = (order.ofMessage index message).map Site.absolute
  | ⟨name, fields, nested, enums, isMapEntry⟩ => by
      rw [Message.absolute, ofMessage, ofMessage, map_arrange, Site.map_absolute_under,
        Site.map_absolute_under, Site.map_absolute_ofEnums, ← ofMessages_absolute order 0 nested,
        Message.absolute]
      rfl

theorem ofMessages_absolute (order : Traversal) (index : Nat) :
    forall messages : List Message,
      order.ofMessages index (Message.absoluteAll messages) =
        (order.ofMessages index messages).map Site.absolute
  | [] => by
      rw [Message.absoluteAll, ofMessages]
      rfl
  | message :: rest => by
      rw [Message.absoluteAll, ofMessages, ofMessages, ofMessage_absolute order index message,
        ofMessages_absolute order (index + 1) rest, List.map_append]

end

theorem ofFile_absolute (order : Traversal) (file : File) :
    order.ofFile file.absolute = (order.ofFile file).map Site.absolute := by
  have hmessages := ofMessages_absolute order 0 file.messages
  rw [Message.absoluteAll_eq_map] at hmessages
  rw [ofFile, ofFile, below, below, map_arrange, Site.map_absolute_ofEnums, ← hmessages]
  rfl

end Traversal

/-!
## The registry
-/

def Entry.absolute (entry : Entry) : Entry :=
  { entry with declared := entry.declared.absolute }

theorem Site.entry_absolute (file : File) (site : Site) :
    site.absolute.entry file.absolute = (site.entry file).absolute := by
  have hname : site.absolute.declared.name = site.declared.name := site.declared.name_absolute
  simp only [entry, Entry.absolute, File.absolute, fullName_absolute, path_absolute, hname]
  rfl

namespace Registry

theorem entriesOf_absolute (files : List File) :
    entriesOf (files.map File.absolute) = (entriesOf files).map Entry.absolute := by
  rw [entriesOf, entriesOf, List.flatMap_map, List.map_flatMap]
  apply List.flatMap_congr
  intro file _
  rw [Traversal.ofFile_absolute, List.map_map, List.map_map]
  exact List.map_congr_left fun site _ => Site.entry_absolute file site

theorem lookup_absolute (files : List File) (typeName : Text) :
    (ofFiles (files.map File.absolute)).lookup typeName =
      ((ofFiles files).lookup typeName).map Entry.absolute := by
  rw [lookup_ofFiles, lookup_ofFiles, entriesOf_absolute, List.find?_map]
  rfl

end Registry
end ProtoModules
