import ProtoModules.Proofs.Readers

/-!
# The lines of a plain module

No line of a plain module has a line break in it.  The text of the module can therefore be cut
at its line breaks, which gives the lines back.
-/

namespace ProtoModules

open Schema Reading

def Text.isLine (text : Text) : Bool :=
  text.all fun c => c ≠ '\n'

theorem Text.isLine_iff {text : Text} : text.isLine = true ↔ '\n' ∉ text := by
  simp only [isLine, List.all_eq_true, decide_eq_true_eq]
  exact ⟨fun hall hc => hall _ hc rfl, fun hnot c hc hsame => hnot (hsame ▸ hc)⟩

theorem Text.isLine_append (front back : Text) :
    Text.isLine (front ++ back) = (front.isLine && back.isLine) :=
  List.all_append

theorem Text.isLine_of_isName {text : Text} (hname : text.isName = true) : text.isLine = true :=
  isLine_iff.mpr (not_mem_of_isName hname rfl)

theorem isLine_indented (level : Nat) (line : Text) :
    (indented level line).isLine = line.isLine := by
  have hspaces : Text.isLine (List.replicate (4 * level) ' ') = true := by
    rw [Text.isLine_iff]
    simp
  rw [indented, Text.isLine_append, hspaces, Bool.true_and]

theorem Text.isLine_ofInt (n : Int) : (Text.ofInt n).isLine = true :=
  isLine_iff.mpr (not_mem_ofInt (by decide) rfl n)

namespace Member

variable {member : Member}

theorem isLine_classPart (hplain : member.Plain) : member.classPart.isLine = true := by
  unfold classPart
  split
  · rfl
  · rfl
  · rename_i name _ hname
    have hline := Text.isLine_iff.mpr (hplain.className name hname)
    simp only [Text.isLine_append, hline]
    rfl

theorem isLine_descriptorLine (hplain : member.Plain) : member.descriptorLine.isLine = true := by
  have htype : Text.isLine member.type.keyword.toList = true := by
    cases member.type <;> decide
  have hlabel : Text.isLine member.label.keyword.toList = true := by
    cases member.label <;> decide
  have hmap : Text.isLine (if member.isMap then ", map: true".toList else []) = true := by
    split <;> rfl
  simp only [descriptorLine, isLine_indented, Text.isLine_append,
    Text.isLine_of_isName hplain.name, Text.isLine_of_isName hplain.propertyName,
    Text.isLine_ofInt, htype, hlabel, hmap, isLine_classPart hplain]
  rfl

theorem isLine_slotLine (hplain : member.Plain) : member.slotLine.isLine = true := by
  simp only [slotLine, isLine_indented, Text.isLine_append,
    Text.isLine_of_isName hplain.propertyName]
  rfl

theorem isLine_jsonLine (hplain : member.Plain) : member.jsonLine.isLine = true := by
  simp only [jsonLine, isLine_indented, Text.isLine_append, Text.isLine_of_isName hplain.name,
    Text.isLine_of_isName hplain.propertyName]
  rfl

theorem all_isLine_accessorLines (hplain : member.Plain) :
    member.accessorLines.all Text.isLine = true := by
  simp only [accessorLines, docType, List.all_cons, List.all_nil, isLine_indented,
    Text.isLine_append, Text.isLine_of_isName hplain.propertyName,
    Text.isLine_of_isName hplain.methodSuffix, Text.isLine_iff.mpr hplain.typeText]
  rfl

end Member

theorem MessageClass.all_isLine_lines {cls : MessageClass} (hplain : cls.Plain) :
    cls.lines.all Text.isLine = true := by
  have hentries : (cls.members.map Member.descriptorLine).all Text.isLine = true := by
    rw [List.all_eq_true, List.forall_mem_map]
    exact fun member hmember => Member.isLine_descriptorLine (hplain.members member hmember)
  have haliases : (spaced (cls.aliases.map Alias.line)).all Text.isLine = true := by
    apply all_spaced rfl
    rw [List.all_eq_true, List.forall_mem_map]
    intro entry hentry
    rcases hplain.aliases entry hentry with ⟨hname, htarget⟩
    simp only [Alias.line, isLine_indented, Text.isLine_append,
      Text.isLine_of_isName hname, Text.isLine_of_isName htarget]
    rfl
  have hslots : (spaced (cls.members.map Member.slotLine)).all Text.isLine = true := by
    apply all_spaced rfl
    rw [List.all_eq_true, List.forall_mem_map]
    exact fun member hmember => Member.isLine_slotLine (hplain.members member hmember)
  have haccessors : (cls.members.flatMap Member.accessorLines).all Text.isLine = true := by
    rw [List.all_flatMap, List.all_eq_true]
    exact fun member hmember => Member.all_isLine_accessorLines (hplain.members member hmember)
  have hprojections : (cls.members.map Member.jsonLine).all Text.isLine = true := by
    rw [List.all_eq_true, List.forall_mem_map]
    exact fun member hmember => Member.isLine_jsonLine (hplain.members member hmember)
  have hexport : (exportMark cls.exported).isLine = true := by cases cls.exported <;> rfl
  simp only [lines, headLines, tailLines, List.all_append, List.all_cons, List.all_nil,
    isLine_indented, Text.isLine_append, hentries, haliases, hslots, haccessors, hprojections,
    hexport, Text.isLine_of_isName hplain.name, Text.isLine_of_isName hplain.identifier,
    Text.isLine_iff.mpr hplain.fullName]
  rfl

theorem EnumTable.all_isLine_lines {table : EnumTable} (hplain : table.Plain) :
    table.lines.all Text.isLine = true := by
  have hvalues : (table.values.map valueLine).all Text.isLine = true := by
    rw [List.all_eq_true, List.forall_mem_map]
    intro value hvalue
    simp only [valueLine, isLine_indented, Text.isLine_append,
      Text.isLine_of_isName (hplain.values value hvalue), Text.isLine_ofInt]
    rfl
  have hexport : (exportMark table.exported).isLine = true := by cases table.exported <;> rfl
  simp only [lines, List.all_append, List.all_cons, List.all_nil, Text.isLine_append, hvalues,
    hexport, Text.isLine_of_isName hplain.identifier, Text.isLine_iff.mpr hplain.fullName]
  rfl

theorem Declaration.all_isLine_lines {declaration : Declaration} (hplain : declaration.Plain) :
    declaration.lines.all Text.isLine = true := by
  cases declaration with
  | enumeration table => exact EnumTable.all_isLine_lines hplain
  | message cls => exact MessageClass.all_isLine_lines hplain

theorem Import.isLine_line {statement : Import} (hplain : statement.Plain) :
    statement.line.isLine = true := by
  have hclauses : Text.isLine (Text.joined ", " (statement.names.map ImportName.clause)) =
      true :=
    Text.isLine_iff.mpr (hplain.not_mem_joined rfl (by decide) (by decide) (by decide))
  unfold line
  simp only [Text.isLine_append]
  rw [hclauses, Text.isLine_iff.mpr hplain.path]
  rfl

namespace EsModule

theorem all_isLine_lines {esModule : EsModule} (hplain : esModule.Plain) :
    esModule.lines.all Text.isLine = true := by
  have himports : (spaced (esModule.imports.map Import.line)).all Text.isLine = true := by
    apply all_spaced rfl
    rw [List.all_eq_true, List.forall_mem_map]
    exact fun statement hstatement => Import.isLine_line (hplain.imports statement hstatement)
  have hdeclarations : (esModule.declarations.flatMap fun declaration =>
      [] :: declaration.lines).all Text.isLine = true := by
    rw [List.all_flatMap, List.all_eq_true]
    intro declaration hdeclaration
    rw [List.all_cons, Declaration.all_isLine_lines (hplain.declarations _ hdeclaration)]
    rfl
  simp only [lines, headerLines, List.all_append, List.all_cons, List.all_nil,
    Text.isLine_append, himports, hdeclarations, Text.isLine_iff.mpr hplain.source]
  rfl

theorem joined_lines (lines : List Text) :
    Text.joined "\n" (lines ++ [[]]) = lines.flatMap fun line => line ++ ['\n'] := by
  induction lines with
  | nil => rfl
  | cons first rest ih =>
      have hrest : rest ++ [[]] ≠ [] := by simp
      rw [Text.joined] at ih ⊢
      rw [List.cons_append, List.intercalate_cons_of_ne_nil hrest, ih]
      rfl

/-- The lines of the text of a plain module are its lines, with nothing after the last. -/
theorem linesOf_text {esModule : EsModule} (hplain : esModule.Plain) :
    linesOf esModule.text = esModule.lines ++ [[]] := by
  have hlines : forall line, line ∈ esModule.lines ++ [[]] -> '\n' ∉ line := by
    rw [List.forall_mem_append, List.forall_mem_singleton]
    refine ⟨fun line hline => ?_, List.not_mem_nil⟩
    exact Text.isLine_iff.mp (List.all_eq_true.mp (all_isLine_lines hplain) line hline)
  rw [linesOf, text, ← joined_lines]
  exact List.splitOn_intercalate '\n' hlines (by simp)

end EsModule

end ProtoModules
