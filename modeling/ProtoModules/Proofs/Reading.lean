import ProtoModules.Proofs.PlainLines

/-!
# Reading a module back from its text

The readers of lines are put together.  A plain module is read back from its text, one line
for each of its imports and one head and body for each of its declarations, and the body of a
class lists the fields of its message in each of its parts.
-/

namespace ProtoModules

open Schema Reading

/-!
## Imports
-/

namespace Import

theorem cons_joined {clauses : List Text} (hsome : clauses ≠ []) :
    ' ' :: Text.joined ", " clauses = Text.joined "," (clauses.map (' ' :: ·)) := by
  induction clauses with
  | nil => exact absurd rfl hsome
  | cons first rest ih =>
      cases rest with
      | nil => rfl
      | cons second others =>
          have hrest := ih (List.cons_ne_nil second others)
          simp only [Text.joined, List.map_cons, List.intercalate_cons_cons] at hrest ⊢
          rw [← hrest]
          simp

theorem mapM_dropPrefix? (clauses : List Text) :
    (clauses.map (' ' :: ·)).mapM (fun clause => clause.dropPrefix? " ".toList) =
      some clauses := by
  induction clauses with
  | nil => rfl
  | cons first rest ih =>
      have hfirst : (' ' :: first).dropPrefix? " ".toList = some first :=
        dropPrefix?_append " ".toList first
      rw [List.map_cons, List.mapM_cons, hfirst, ih]
      rfl

theorem splitOn_clauses {statement : Import} (hplain : statement.Plain) :
    (' ' :: Text.joined ", " (statement.names.map ImportName.clause)).splitOn ',' =
      (statement.names.map ImportName.clause).map (' ' :: ·) := by
  have hsome : statement.names.map ImportName.clause ≠ [] := by simpa using hplain.names
  rw [cons_joined hsome]
  apply List.splitOn_intercalate
  · rw [List.forall_mem_map]
    intro clause hclause
    rw [List.mem_cons, not_or]
    exact ⟨by decide, hplain.not_mem_clause rfl (by decide) (by decide) clause hclause⟩
  · simpa using hsome

theorem importLine?_line {statement : Import} (hplain : statement.Plain) :
    importLine? statement.line =
      some (statement.names.map ImportName.clause, statement.path) := by
  have hline : forall names : Text,
      "import \x7b ".toList ++ names ++ " \x7d from \"".toList ++ statement.path ++
        "\";".toList =
      "import \x7b".toList ++ ((' ' :: names ++ " ".toList) ++
        '\x7d' :: (" from \"".toList ++ (statement.path ++ "\";".toList))) := by
    intro names
    simp only [List.append_assoc, List.cons_append]
    rfl
  have hsplit := splitOn_clauses hplain
  have hclauses : '\x7d' ∉ Text.joined ", " (statement.names.map ImportName.clause) :=
    hplain.not_mem_joined rfl (by decide) (by decide) (by decide)
  unfold line
  rw [hline]
  -- What the clauses are does not matter for taking the line apart.
  generalize Text.joined ", " (statement.names.map ImportName.clause) = names
    at hclauses hsplit ⊢
  have hbrace : '\x7d' ∉ ' ' :: names ++ " ".toList := by
    simpa using hclauses
  simp only [importLine?, dropPrefix?_append, Option.bind_eq_bind, Option.bind_some,
    cut?_append hbrace, dropSuffix?_append, hsplit, mapM_dropPrefix?]
  rfl

end Import

/-!
## Lines at the left edge

A line that begins with a space, or is blank, is neither an import nor does it open or close a
declaration.  Of the others, the first character decides.
-/

namespace Reading

def isInner (line : Text) : Bool :=
  line.head?.all (· = ' ')

theorem head?_ne_of_isInner {line : Text} (hinner : isInner line = true) {c : Char}
    (hc : c ≠ ' ') : line.head? ≠ some c := by
  intro hfirst
  rw [isInner, hfirst] at hinner
  exact hc (of_decide_eq_true hinner)

theorem head?_of_startsWith {word : String} {first : Char} {others line : Text}
    (hword : word.toList = first :: others) (hstarts : startsWith word line = true) :
    line.head? = some first := by
  rw [startsWith, hword, List.isPrefixOf_iff_prefix] at hstarts
  rcases hstarts with ⟨rest, rfl⟩
  rfl

theorem not_import {line : Text} (hfirst : line.head? ≠ some 'i') :
    startsWith "import " line = false := by
  rw [Bool.eq_false_iff]
  intro hstarts
  exact hfirst (head?_of_startsWith rfl hstarts)

theorem head?_of_opensUnit {line : Text} (hopens : opensUnit line = true) :
    line.head? = some 'e' ∨ line.head? = some 'c' := by
  rcases List.any_eq_true.mp hopens with ⟨word, hword, hstarts⟩
  simp only [List.mem_cons, List.not_mem_nil, or_false] at hword
  rcases hword with rfl | rfl | rfl | rfl
  · exact Or.inl (head?_of_startsWith rfl hstarts)
  · exact Or.inr (head?_of_startsWith rfl hstarts)
  · exact Or.inl (head?_of_startsWith rfl hstarts)
  · exact Or.inr (head?_of_startsWith rfl hstarts)

theorem not_opensUnit {line : Text} (hexport : line.head? ≠ some 'e')
    (hplain : line.head? ≠ some 'c') : opensUnit line = false := by
  rw [Bool.eq_false_iff]
  intro hopens
  rcases head?_of_opensUnit hopens with hfirst | hfirst
  · exact hexport hfirst
  · exact hplain hfirst

theorem not_opensUnit_of_isInner {line : Text} (hinner : isInner line = true) :
    opensUnit line = false :=
  not_opensUnit (head?_ne_of_isInner hinner (by decide)) (head?_ne_of_isInner hinner (by decide))

theorem bodies_skip {front : List Text}
    (hfront : forall line, line ∈ front -> opensUnit line = false) (rest : List Text) :
    bodies (front ++ rest) = bodies rest := by
  induction front with
  | nil => rfl
  | cons line more ih =>
      rw [List.forall_mem_cons] at hfront
      simp [bodies, hfront.1, ih hfront.2]

/-- How some lines declare something: a comment, the head, the body and a closing line. -/
structure Declares (lines : List Text) (head : Head) (body : List Text) : Prop where
  inner : forall line, line ∈ body -> isInner line = true
  split : exists comment opening closing, lines = comment :: opening :: (body ++ [closing]) ∧
    comment.head? = some '/' ∧ opensUnit opening = true ∧ head? opening = some head ∧
    closing.head? = some '\x7d'

namespace Declares

variable {lines body : List Text} {head : Head}

theorem filter_import (hlines : Declares lines head body) :
    lines.filter (startsWith "import ") = [] := by
  rcases hlines.split with ⟨comment, opening, closing, rfl, hcomment, hopening, _, hclosing⟩
  have hquiet : forall line, line ∈ body -> startsWith "import " line = false :=
    fun line hline => not_import (head?_ne_of_isInner (hlines.inner line hline) (by decide))
  have hhead : startsWith "import " opening = false := by
    apply not_import
    rcases head?_of_opensUnit hopening with hfirst | hfirst <;> simp [hfirst]
  rw [List.filter_eq_nil_iff]
  simp only [List.forall_mem_cons, List.forall_mem_append, Bool.not_eq_true]
  refine ⟨not_import (by simp [hcomment]), hhead, hquiet, not_import (by simp [hclosing]), ?_⟩
  simp

theorem filter_opensUnit (hlines : Declares lines head body) :
    (lines.filter opensUnit).map head? = [some head] := by
  rcases hlines.split with ⟨comment, opening, closing, rfl, hcomment, hopening, hhead, hclosing⟩
  have hquiet : body.filter opensUnit = [] := by
    rw [List.filter_eq_nil_iff]
    intro line hline
    rw [Bool.not_eq_true]
    exact not_opensUnit_of_isInner (hlines.inner line hline)
  have hfirst : opensUnit comment = false :=
    not_opensUnit (by simp [hcomment]) (by simp [hcomment])
  have hlast : opensUnit closing = false :=
    not_opensUnit (by simp [hclosing]) (by simp [hclosing])
  simp [hfirst, hopening, hquiet, hlast, hhead]

theorem bodies_append (hlines : Declares lines head body) (rest : List Text) :
    bodies (lines ++ rest) = body :: bodies rest := by
  rcases hlines.split with ⟨comment, opening, closing, rfl, hcomment, hopening, _, hclosing⟩
  have hlast : opensUnit closing = false :=
    not_opensUnit (by simp [hclosing]) (by simp [hclosing])
  have hquiet : bodies (body ++ closing :: rest) = bodies rest := by
    rw [bodies_skip fun line hline => not_opensUnit_of_isInner (hlines.inner line hline)]
    simp [bodies, hlast]
  have hopen : forall line, line ∈ body -> (!closesUnit line) = true := by
    intro line hline
    have hfirst : line.head? ≠ some '\x7d' :=
      head?_ne_of_isInner (hlines.inner line hline) (by decide)
    simp [closesUnit, hfirst]
  have hbody : (body ++ closing :: rest).takeWhile (fun line => !closesUnit line) = body := by
    rw [List.takeWhile_append_of_pos hopen]
    simp [closesUnit, hclosing]
  have hfirst : opensUnit comment = false :=
    not_opensUnit (by simp [hcomment]) (by simp [hcomment])
  simp [bodies, hfirst, hopening, hbody, hquiet]

end Declares
end Reading

namespace Declaration

def head : Declaration -> Head
  | enumeration table => ⟨table.exported, false, table.identifier⟩
  | message cls => ⟨cls.exported, true, cls.identifier⟩

def body : Declaration -> List Text
  | enumeration table => table.values.map EnumTable.valueLine
  | message cls => cls.body

theorem all_isInner_map {α : Type} {line : α -> Text}
    (hline : forall item, isInner (line item) = true) (items : List α) :
    (items.map line).all isInner = true := by
  rw [List.all_eq_true, List.forall_mem_map]
  exact fun item _ => hline item

theorem all_isInner_classBody (cls : MessageClass) : cls.body.all isInner = true := by
  have haliases : (spaced (cls.aliases.map Alias.line)).all isInner = true :=
    all_spaced rfl (all_isInner_map (fun _ => rfl) _)
  have hslots : (spaced (cls.members.map Member.slotLine)).all isInner = true :=
    all_spaced rfl (all_isInner_map (fun _ => rfl) _)
  have haccessors : (cls.members.flatMap Member.accessorLines).all isInner = true := by
    rw [List.all_flatMap, List.all_eq_true]
    exact fun _ _ => rfl
  have hentries : (cls.members.map Member.descriptorLine).all isInner = true :=
    all_isInner_map (fun _ => rfl) _
  have hprojections : (cls.members.map Member.jsonLine).all isInner = true :=
    all_isInner_map (fun _ => rfl) _
  rw [MessageClass.body, MessageClass.drop_headLines, MessageClass.dropLast_tailLines]
  simp only [List.all_append, haliases, hslots, haccessors, hentries, hprojections]
  rfl

theorem head?_exportMark (exported : Bool) {line : Text}
    (hline : line.dropPrefix? "export ".toList = none) :
    head? (exportMark exported ++ line) = headAfter? exported line := by
  cases exported with
  | true =>
      have hword : (exportMark true ++ line).dropPrefix? "export ".toList = some line :=
        dropPrefix?_append "export ".toList line
      rw [head?, hword]
  | false =>
      have hsame : exportMark false ++ line = line := rfl
      rw [hsame, head?, hline]

theorem head?_classLine (exported : Bool) (identifier : Text) :
    head? (exportMark exported ++ "class ".toList ++ identifier ++ " \x7b".toList) =
      some ⟨exported, true, identifier⟩ := by
  have hclass := between?_append "class " " \x7b" identifier
  rw [List.append_assoc, List.append_assoc, head?_exportMark exported rfl, headAfter?, hclass]
  rfl

theorem head?_tableLine (exported : Bool) (identifier : Text) :
    head? (exportMark exported ++ "const ".toList ++ identifier ++
        " = Object.freeze(\x7b".toList) =
      some ⟨exported, false, identifier⟩ := by
  have htable := between?_append "const " " = Object.freeze(\x7b" identifier
  rw [List.append_assoc, List.append_assoc, head?_exportMark exported rfl, headAfter?, htable]
  rfl

theorem declares_lines (declaration : Declaration) :
    Declares declaration.lines declaration.head declaration.body := by
  cases declaration with
  | enumeration table =>
      refine ⟨?_, "/** ".toList ++ table.fullName ++ " */".toList,
        exportMark table.exported ++ "const ".toList ++ table.identifier ++
          " = Object.freeze(\x7b".toList, "\x7d);".toList, rfl, rfl, ?_,
        head?_tableLine table.exported table.identifier, rfl⟩
      · exact List.all_eq_true.mp (all_isInner_map (fun _ => rfl) _)
      · cases table.exported <;> rfl
  | message cls =>
      refine ⟨List.all_eq_true.mp (all_isInner_classBody cls),
        "/** ".toList ++ cls.fullName ++ " */".toList,
        exportMark cls.exported ++ "class ".toList ++ cls.identifier ++ " \x7b".toList,
        "\x7d".toList, ?_, rfl, ?_, head?_classLine cls.exported cls.identifier, rfl⟩
      · have htail : cls.tailLines = cls.tailLines.dropLast ++ ["\x7d".toList] := by
          rw [MessageClass.tailLines, List.dropLast_append_of_ne_nil (List.cons_ne_nil _ _)]
          exact (List.append_assoc _ [_, _] [_]).symm
        have hlines : cls.lines = cls.headLines.take 2 ++ (cls.body ++ ["\x7d".toList]) := by
          rw [MessageClass.body, List.append_assoc _ _ ["\x7d".toList], ← htail,
            MessageClass.lines]
          rfl
        exact hlines
      · cases cls.exported <;> rfl

end Declaration

/-!
## Imports, heads and bodies of a whole module
-/

namespace EsModule

def frontLines (esModule : EsModule) : List Text :=
  headerLines esModule.source ++ spaced (esModule.imports.map Import.line)

theorem filter_import_frontLines (esModule : EsModule) :
    esModule.frontLines.filter (startsWith "import ") = esModule.imports.map Import.line := by
  have hheader : (headerLines esModule.source).filter (startsWith "import ") = [] := rfl
  have himports : (esModule.imports.map Import.line).filter (startsWith "import ") =
      esModule.imports.map Import.line := by
    rw [List.filter_eq_self, List.forall_mem_map]
    exact fun _ _ => rfl
  have hspaced : (spaced (esModule.imports.map Import.line)).filter (startsWith "import ") =
      (esModule.imports.map Import.line).filter (startsWith "import ") := by
    unfold spaced
    split
    · rename_i hnone
      rw [List.isEmpty_iff.mp hnone]
    · rfl
  rw [frontLines, List.filter_append, hheader, hspaced, himports, List.nil_append]

theorem not_opensUnit_frontLines (esModule : EsModule) :
    forall line, line ∈ esModule.frontLines -> opensUnit line = false := by
  have himports : (esModule.imports.map Import.line).all (fun line => !opensUnit line) = true := by
    rw [List.all_eq_true, List.forall_mem_map]
    exact fun _ _ => rfl
  have hfront : esModule.frontLines.all (fun line => !opensUnit line) = true := by
    rw [frontLines, List.all_append, all_spaced rfl himports]
    rfl
  intro line hline
  simpa using List.all_eq_true.mp hfront line hline

/-- The lines of the declarations of a module, and the blank text after the last line. -/
def unitLines (declarations : List Declaration) : List Text :=
  (declarations.flatMap fun declaration => [] :: declaration.lines) ++ [[]]

theorem lines_eq (esModule : EsModule) :
    esModule.lines ++ [[]] = esModule.frontLines ++ unitLines esModule.declarations :=
  List.append_assoc _ _ _

theorem unitLines_cons (declaration : Declaration) (rest : List Declaration) :
    unitLines (declaration :: rest) = [] :: (declaration.lines ++ unitLines rest) := by
  simp [unitLines]

theorem filter_import_unitLines (declarations : List Declaration) :
    (unitLines declarations).filter (startsWith "import ") = [] := by
  induction declarations with
  | nil => rfl
  | cons declaration rest ih =>
      have hblank : startsWith "import " [] = false := rfl
      rw [unitLines_cons, List.filter_cons_of_neg (by simp [hblank]), List.filter_append,
        declaration.declares_lines.filter_import, ih, List.nil_append]

theorem map_head?_unitLines (declarations : List Declaration) :
    ((unitLines declarations).filter opensUnit).map head? =
      declarations.map fun declaration => some declaration.head := by
  induction declarations with
  | nil => rfl
  | cons declaration rest ih =>
      have hblank : opensUnit [] = false := rfl
      rw [unitLines_cons, List.filter_cons_of_neg (by simp [hblank]), List.filter_append,
        List.map_append, declaration.declares_lines.filter_opensUnit, ih, List.map_cons,
        List.singleton_append]

theorem bodies_unitLines (declarations : List Declaration) :
    bodies (unitLines declarations) = declarations.map Declaration.body := by
  induction declarations with
  | nil => rfl
  | cons declaration rest ih =>
      have hblank : bodies ([] :: (declaration.lines ++ unitLines rest)) =
          bodies (declaration.lines ++ unitLines rest) := rfl
      rw [unitLines_cons, hblank, declaration.declares_lines.bodies_append, ih, List.map_cons]

variable {esModule : EsModule}

theorem map_importLine?_text (hplain : esModule.Plain) :
    ((linesOf esModule.text).filter (startsWith "import ")).map importLine? =
      esModule.imports.map fun statement =>
        some (statement.names.map ImportName.clause, statement.path) := by
  rw [linesOf_text hplain, lines_eq, List.filter_append, filter_import_frontLines,
    filter_import_unitLines, List.append_nil, List.map_map]
  apply List.map_congr_left
  intro statement hstatement
  exact Import.importLine?_line (hplain.imports statement hstatement)

theorem map_head?_text (hplain : esModule.Plain) :
    ((linesOf esModule.text).filter opensUnit).map head? =
      esModule.declarations.map fun declaration => some declaration.head := by
  have hfront : esModule.frontLines.filter opensUnit = [] := by
    rw [List.filter_eq_nil_iff]
    intro line hline
    rw [not_opensUnit_frontLines esModule line hline]
    exact Bool.false_ne_true
  rw [linesOf_text hplain, lines_eq, List.filter_append, hfront, List.nil_append,
    map_head?_unitLines]

theorem bodies_text (hplain : esModule.Plain) :
    bodies (linesOf esModule.text) = esModule.declarations.map Declaration.body := by
  rw [linesOf_text hplain, lines_eq, bodies_skip (not_opensUnit_frontLines esModule),
    bodies_unitLines]

end EsModule

/-!
## What the text tells
-/

/-- How the lines of a class list the fields of a message, in each of the parts of the class. -/
structure ListsFields (fields : List Field) (body : List Text) : Prop where
  descriptors : body.filterMap descriptor? = fields.map fun field =>
    { property := CamelCase.lower field.name
      name := field.name
      number := Text.ofInt field.number.toInt
      type := field.type.keyword.toList
      label := field.label.keyword.toList }
  slots : body.filterMap slot? = fields.map fun field => CamelCase.lower field.name
  getters : body.filterMap getter? = fields.map fun field => CamelCase.lower field.name
  setters : body.filterMap setter? = fields.map fun field => CamelCase.lower field.name
  getMethods : body.filterMap getMethod? = fields.map fun field => CamelCase.upper field.name
  setMethods : body.filterMap setMethod? = fields.map fun field => CamelCase.upper field.name
  projections : body.filterMap projection? = fields.map fun field =>
    (field.name, CamelCase.lower field.name)

/--
What is to be read of a declaration, given the site that it stands for: an export exactly at
the top of the file, the constants of an enum, and the fields and aliases of a message.
-/
def Tells (site : Site) (declaration : Declaration) (body : List Text) : Prop :=
  (declaration.exported = true ↔ site.around = []) ∧
  match site.declared, declaration with
  | .enumeration enum, .enumeration _ =>
      body.filterMap constant? =
        enum.values.map fun value => (value.name, Text.ofInt value.number.toInt)
  | .message message, .message cls =>
      ListsFields message.fields body ∧
        body.filterMap static? = cls.aliases.map fun entry => (entry.name, entry.target)
  | _, _ => False

theorem Draft.tells_unitOf {scope : Scope} {site : Site} (hplain : (unitOf scope site).Plain) :
    Tells site (unitOf scope site) (unitOf scope site).body := by
  refine ⟨?_, ?_⟩
  · rw [exported_unitOf]
    exact List.isEmpty_iff
  · cases hdeclared : site.declared with
    | enumeration enum =>
        simp only [unitOf, hdeclared, Declaration.body] at hplain ⊢
        rw [List.filterMap_map]
        exact List.filterMap_eq_map_iff_forall_eq_some.mpr fun value hvalue =>
          EnumTable.constant?_valueLine (hplain.values value hvalue)
    | message message =>
        simp only [unitOf, hdeclared, Declaration.body] at hplain ⊢
        refine ⟨?_, MessageClass.filterMap_static?_body hplain⟩
        constructor
        · rw [MessageClass.filterMap_descriptor?_body hplain, List.map_map]
          rfl
        · rw [MessageClass.filterMap_slot?_body, List.map_map]
          rfl
        · rw [MessageClass.filterMap_getter?_body hplain, List.map_map]
          rfl
        · rw [MessageClass.filterMap_setter?_body hplain, List.map_map]
          rfl
        · rw [MessageClass.filterMap_getMethod?_body hplain, List.map_map]
          rfl
        · rw [MessageClass.filterMap_setMethod?_body hplain, List.map_map]
          rfl
        · rw [MessageClass.filterMap_projection?_body hplain, List.map_map]
          rfl

namespace EsModule

/--
The text of a module carries the module.  When the names of the files are names and nothing
else in them or around them has a line break in it, the lines that begin with an import are
the imports of the module, the lines that open a declaration are the heads of its
declarations, and what stands inside them lists the constants, fields and aliases of the file.
-/
theorem text_carries_module {files : List File}
    (hfiles : forall file, file ∈ files -> PlainFile file) {file : File}
    (hfile : PlainFile file) {workDir : Path.Place}
    (hworkDir : forall part, part ∈ workDir -> '\n' ∉ part) {extension : Text}
    (hextension : '\n' ∉ extension) {esModule : EsModule}
    (hmodule : ofFile workDir (Registry.ofFiles files) extension file = .ok esModule) :
    ((linesOf esModule.text).filter (startsWith "import ")).map importLine? =
      esModule.imports.map (fun statement =>
        some (statement.names.map ImportName.clause, statement.path)) ∧
    ((linesOf esModule.text).filter opensUnit).map head? =
      esModule.declarations.map (fun declaration => some declaration.head) ∧
    esModule.declarations.length = (Draft.emitted file).length ∧
    (bodies (linesOf esModule.text)).length = (Draft.emitted file).length ∧
    forall (index : Nat) (site : Site), (Draft.emitted file)[index]? = some site ->
      exists declaration body, esModule.declarations[index]? = some declaration ∧
        (bodies (linesOf esModule.text))[index]? = some body ∧ Tells site declaration body := by
  have hplain := plain_of_ofFile hfiles hfile hworkDir hextension hmodule
  have hdeclarations : esModule.declarations = (Draft.emitted file).map
      (Draft.unitOf (Scope.ofFile (Registry.ofFiles files) file)) := by
    rcases ofFile_eq_ok_iff.mp hmodule with ⟨imports, draft, _, hdraft, rfl⟩
    rcases Draft.ofScope_eq_ok_iff.mp hdraft with ⟨claims, _, rfl⟩
    rfl
  have hbodies := bodies_text hplain
  refine ⟨map_importLine?_text hplain, map_head?_text hplain, ?_, ?_, ?_⟩
  · rw [hdeclarations, List.length_map]
  · rw [hbodies, hdeclarations, List.length_map, List.length_map]
  · intro index site hsite
    have hunit : esModule.declarations[index]? =
        some (Draft.unitOf (Scope.ofFile (Registry.ofFiles files) file) site) := by
      rw [hdeclarations, List.getElem?_map, hsite]
      rfl
    have hbody : (bodies (linesOf esModule.text))[index]? =
        some (Draft.unitOf (Scope.ofFile (Registry.ofFiles files) file) site).body := by
      rw [hbodies, List.getElem?_map, hunit]
      rfl
    have hunitPlain := hplain.declarations _ (List.mem_of_getElem? hunit)
    exact ⟨_, _, hunit, hbody, Draft.tells_unitOf hunitPlain⟩

def enumFile : File where
  name := "j.p".toList
  package := ['p']
  messages := [
    { name := ['J']
      fields := [
        { name := "a_b".toList, number := 1, type := .string },
        { name := ['l'], number := 2, type := .message, typeName := ".q.L".toList }]
      enums := [{ name := ['K'], values := [{ name := ['Z'] }] }] }]

def foreignFile : File where
  name := "l.p".toList
  package := ['q']
  messages := [{ name := ['L'] }]

theorem plainFile_enumFile : PlainFile enumFile :=
  ⟨by decide, by decide, by decide +kernel⟩

theorem plainFile_foreignFile : PlainFile foreignFile :=
  ⟨by decide, by decide, by decide +kernel⟩

theorem text_of_enumFile :
    exists (esModule : EsModule) (body : List Text),
      ofFile [] (Registry.ofFiles [enumFile, foreignFile]) ['.', 'm'] enumFile = .ok esModule ∧
      ((linesOf esModule.text).filter (startsWith "import ")).map importLine? =
        [some ([['L']], "./l.m".toList)] ∧
      ((linesOf esModule.text).filter opensUnit).map head? =
        [some ⟨false, false, "__J_K".toList⟩, some ⟨true, true, ['J']⟩] ∧
      (bodies (linesOf esModule.text))[1]? = some body ∧
      body.filterMap projection? = [("a_b".toList, "aB".toList), (['l'], ['l'])] ∧
      body.filterMap static? = [(['K'], "__J_K".toList)] := by
  have hfiles : forall file, file ∈ [enumFile, foreignFile] -> PlainFile file := by
    rw [List.forall_mem_cons, List.forall_mem_singleton]
    exact ⟨plainFile_enumFile, plainFile_foreignFile⟩
  have hworkDir : forall part, part ∈ ([] : Path.Place) -> '\n' ∉ part := by
    intro part hpart
    cases hpart
  have himports :
      (ofFile [] (Registry.ofFiles [enumFile, foreignFile]) ['.', 'm'] enumFile).toOption.map
        (fun esModule => esModule.imports.map fun statement =>
          some (statement.names.map ImportName.clause, statement.path)) =
      some [some ([['L']], "./l.m".toList)] := by decide +kernel
  have hheads :
      (ofFile [] (Registry.ofFiles [enumFile, foreignFile]) ['.', 'm'] enumFile).toOption.map
        (fun esModule => esModule.declarations.map fun declaration => some declaration.head) =
      some [some ⟨false, false, "__J_K".toList⟩, some ⟨true, true, ['J']⟩] := by decide +kernel
  have haliases :
      (ofFile [] (Registry.ofFiles [enumFile, foreignFile]) ['.', 'm'] enumFile).toOption.map
        (fun esModule => esModule.declarations[1]?.map Declaration.aliases) =
      some (some [⟨['K'], "__J_K".toList⟩]) := by decide +kernel
  have hsite : (Draft.emitted enumFile)[1]? =
      some ⟨[.message 0], [], .message (enumFile.messages.headD {})⟩ := rfl
  cases hmodule : ofFile [] (Registry.ofFiles [enumFile, foreignFile]) ['.', 'm'] enumFile with
  | error failure =>
      rw [hmodule] at himports
      cases himports
  | ok esModule =>
      rw [hmodule] at himports hheads haliases
      rcases text_carries_module hfiles plainFile_enumFile hworkDir (by decide) hmodule with
        ⟨himported, hopened, _, _, htold⟩
      rcases htold 1 _ hsite with ⟨declaration, body, hdeclaration, hbody, _, htells⟩
      cases declaration with
      | enumeration table => exact htells.elim
      | message cls =>
          rcases htells with ⟨hfields, hstatics⟩
          have halias : cls.aliases = [⟨['K'], "__J_K".toList⟩] := by
            simpa [Except.toOption, hdeclaration, Declaration.aliases] using haliases
          refine ⟨esModule, body, rfl, himported.trans (Option.some.inj himports),
            hopened.trans (Option.some.inj hheads), hbody, hfields.projections, ?_⟩
          rw [hstatics, halias]
          rfl

end EsModule
end ProtoModules
