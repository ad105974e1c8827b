import ProtoModules.Proofs.PlainModules

/-!
# Readers of lines

The text of a module is read line by line, with no knowledge of how it was written.  A line
at the left edge that begins with one of a few words is an import or opens a declaration, and
a declaration ends at the next line that begins with a closing brace.  Within a class a line
is a descriptor entry, a private slot, an accessor and so on by its form alone.

Each reader is then tried on each kind of line of a class.  It finds what was written there
on its own kind when the names are plain, and nothing on the others.
-/

namespace ProtoModules

open Schema

/-!
## Readers
-/

namespace Reading

def linesOf (text : Text) : List Text :=
  text.splitOn '\n'

def startsWith (word : String) (line : Text) : Bool :=
  word.toList.isPrefixOf line

def between? (front back : String) (line : Text) : Option Text := do
  let rest <- line.dropPrefix? front.toList
  rest.dropSuffix? back.toList

/-- The same, when what follows the beginning is not a space. -/
def wordBetween? (front back : String) (line : Text) : Option Text := do
  let rest <- line.dropPrefix? front.toList
  if rest.head? = some ' ' then none else rest.dropSuffix? back.toList

/-- Cut a text at the first of a mark, after which a given text has to follow. -/
def cut? (mark : Char) (next : String) (text : Text) : Option (Text × Text) := do
  let (before, after) <- Text.cutFirst mark text
  let rest <- after.dropPrefix? next.toList
  return (before, rest)

def importLine? (line : Text) : Option (List Text × Text) := do
  let rest <- line.dropPrefix? "import \x7b".toList
  let (names, rest) <- cut? '\x7d' " from \"" rest
  let names <- names.dropSuffix? " ".toList
  let clauses <- (names.splitOn ',').mapM fun clause => clause.dropPrefix? " ".toList
  let path <- rest.dropSuffix? "\";".toList
  return (clauses, path)

structure Head where
  exported : Bool
  isClass : Bool
  identifier : Text
deriving DecidableEq, Repr

def opensUnit (line : Text) : Bool :=
  ["export class ", "class ", "export const ", "const "].any fun word => startsWith word line

def headAfter? (exported : Bool) (line : Text) : Option Head :=
  ((between? "class " " \x7b" line).map fun identifier => ⟨exported, true, identifier⟩) <|>
    (between? "const " " = Object.freeze(\x7b" line).map fun identifier =>
      ⟨exported, false, identifier⟩

def head? (line : Text) : Option Head :=
  match line.dropPrefix? "export ".toList with
  | some rest => headAfter? true rest
  | none => headAfter? false line

def closesUnit (line : Text) : Bool :=
  line.head? = some '\x7d'

/-- The lines inside the declarations of a module, one list for each declaration. -/
def bodies : List Text -> List (List Text)
  | [] => []
  | line :: rest =>
      if opensUnit line then (rest.takeWhile fun line => !closesUnit line) :: bodies rest
      else bodies rest

structure DescriptorEntry where
  property : Text
  name : Text
  number : Text
  type : Text
  label : Text
deriving DecidableEq, Repr

def descriptor? (line : Text) : Option DescriptorEntry := do
  let rest <- line.dropPrefix? "                \x7b name: \"".toList
  let (property, rest) <- cut? '"' ", jsonName: \"" rest
  let (name, rest) <- cut? '"' ", number: " rest
  let (number, rest) <- cut? ',' " type: \"" rest
  let (type, rest) <- cut? '"' ", label: \"" rest
  let (label, _) <- cut? '"' "" rest
  return ⟨property, name, number, type, label⟩

def slot? : Text -> Option Text := between? "    #" ";"

def getter? : Text -> Option Text := between? "    get " "() \x7b"

def setter? : Text -> Option Text := between? "    set " "(value) \x7b"

def getMethod? : Text -> Option Text := wordBetween? "    get" "() \x7b"

def setMethod? : Text -> Option Text := wordBetween? "    set" "(value) \x7b"

def projection? (line : Text) : Option (Text × Text) := do
  let rest <- line.dropPrefix? "            ".toList
  let (name, rest) <- cut? ':' " this." rest
  let property <- rest.dropSuffix? ",".toList
  return (name, property)

def static? (line : Text) : Option (Text × Text) := do
  let rest <- line.dropPrefix? "    static ".toList
  let (name, rest) <- cut? ' ' "= " rest
  let target <- rest.dropSuffix? ";".toList
  return (name, target)

def constant? (line : Text) : Option (Text × Text) := do
  let rest <- line.dropPrefix? "    ".toList
  let (name, rest) <- cut? ':' " " rest
  let number <- rest.dropSuffix? ",".toList
  return (name, number)

/-!
## What readers find
-/

theorem dropPrefix?_append (front rest : Text) :
    (front ++ rest).dropPrefix? front = some rest :=
  List.dropPrefix?_eq_some_iff.mpr ⟨front, rfl, beq_self_eq_true front⟩

theorem dropSuffix?_append (rest back : Text) :
    (rest ++ back).dropSuffix? back = some rest :=
  List.dropSuffix?_eq_some_iff.mpr ⟨back, rfl, beq_self_eq_true back⟩

theorem between?_append (front back : String) (text : Text) :
    between? front back (front.toList ++ (text ++ back.toList)) = some text := by
  simp only [between?, dropPrefix?_append, Option.bind_eq_bind, Option.bind_some,
    dropSuffix?_append]

theorem wordBetween?_append (front back : String) {text : Text}
    (htext : (text ++ back.toList).head? ≠ some ' ') :
    wordBetween? front back (front.toList ++ (text ++ back.toList)) = some text := by
  simp only [wordBetween?, dropPrefix?_append, Option.bind_eq_bind, Option.bind_some,
    if_neg htext, dropSuffix?_append]

theorem dropPrefix?_eq_none {c : Char} (front : Text) {rest : Text}
    (hrest : rest.head? ≠ some c) (more : Text) :
    (front ++ rest).dropPrefix? (front ++ c :: more) = none := by
  induction front with
  | nil =>
      cases rest with
      | nil => rfl
      | cons first others =>
          have hfirst : first ≠ c := by simpa using hrest
          simp [List.dropPrefix?, hfirst]
  | cons first others ih => simpa [List.dropPrefix?] using ih

theorem between?_eq_none {front back : String} (word : Text) {rest : Text}
    (hfront : front.toList = word ++ [' ']) (hrest : rest.head? ≠ some ' ') :
    between? front back (word ++ rest) = none := by
  simp only [between?, hfront, dropPrefix?_eq_none word hrest]
  rfl

theorem cut?_append {mark : Char} {before : Text} (hmark : mark ∉ before) (next : String)
    (after : Text) :
    cut? mark next (before ++ mark :: (next.toList ++ after)) = some (before, after) := by
  simp [cut?, Text.cutFirst_append hmark, dropPrefix?_append]

theorem cut?_eq_none {mark : Char} {before : Text} (hmark : mark ∉ before) {next : String}
    {after : Text} (hafter : after.dropPrefix? next.toList = none) :
    cut? mark next (before ++ mark :: after) = none := by
  simp [cut?, Text.cutFirst_append hmark, hafter]

theorem flatMap_eq_map {α β : Type} {find : α -> List β} {items : List α} {found : α -> β}
    (hfind : forall item, item ∈ items -> find item = [found item]) :
    items.flatMap find = items.map found := by
  rw [List.flatMap_congr hfind]
  exact List.flatMap_pure_eq_map found items

end Reading

theorem all_spaced {test : Text -> Bool} (hblank : test [] = true) {lines : List Text}
    (hlines : lines.all test = true) : (spaced lines).all test = true := by
  unfold spaced
  split
  · rfl
  · rw [List.all_cons, hblank, hlines]
    rfl

/-!
## Lines inside a class
-/

open Reading

theorem Text.isDigit_of_mem_ofInt {n : Int} {c : Char} (hc : c ∈ Text.ofInt n) :
    c = '-' ∨ c.isDigit = true := by
  unfold ofInt at hc
  split at hc
  · rcases List.mem_cons.mp hc with hsign | hc
    · exact Or.inl hsign
    · exact Or.inr (Nat.isDigit_of_mem_toDigits (by decide) (by decide) hc)
  · exact Or.inr (Nat.isDigit_of_mem_toDigits (by decide) (by decide) hc)

theorem Text.not_mem_ofInt {c : Char} (hsign : c ≠ '-') (hdigit : c.isDigit = false) (n : Int) :
    c ∉ Text.ofInt n := by
  intro hc
  rcases isDigit_of_mem_ofInt hc with hsame | hsame
  · exact hsign hsame
  · rw [hdigit] at hsame
    cases hsame

namespace Member

variable {member : Member}

theorem descriptor?_descriptorLine (hplain : member.Plain) :
    descriptor? member.descriptorLine =
      some ⟨member.propertyName, member.name, Text.ofInt member.number.toInt,
        member.type.keyword.toList, member.label.keyword.toList⟩ := by
  have hline : member.descriptorLine = "                \x7b name: \"".toList ++
      (member.propertyName ++ '"' :: (", jsonName: \"".toList ++
      (member.name ++ '"' :: (", number: ".toList ++
      (Text.ofInt member.number.toInt ++ ',' :: (" type: \"".toList ++
      (member.type.keyword.toList ++ '"' :: (", label: \"".toList ++
      (member.label.keyword.toList ++ '"' :: ("".toList ++
      (member.classPart ++ ((if member.isMap then ", map: true".toList else []) ++
        " \x7d,".toList)))))))))))) := by
    simp only [descriptorLine, indented, List.append_assoc]
    rfl
  have hproperty : '"' ∉ member.propertyName := Text.not_mem_of_isName hplain.propertyName rfl
  have hname : '"' ∉ member.name := Text.not_mem_of_isName hplain.name rfl
  have hnumber : ',' ∉ Text.ofInt member.number.toInt := Text.not_mem_ofInt (by decide) rfl _
  have htype : '"' ∉ member.type.keyword.toList := by cases member.type <;> decide
  have hlabel : '"' ∉ member.label.keyword.toList := by cases member.label <;> decide
  simp only [descriptor?, hline, dropPrefix?_append, Option.bind_eq_bind, Option.bind_some,
    cut?_append hproperty, cut?_append hname, cut?_append hnumber, cut?_append htype,
    cut?_append hlabel]
  rfl

theorem descriptor?_jsonLine (hplain : member.Plain) : descriptor? member.jsonLine = none := by
  have hspace : ' ' ∉ member.name := Text.not_mem_of_isName hplain.name rfl
  have hrest : (member.name ++ ": this.".toList ++ member.propertyName ++ ",".toList).head? ≠
      some ' ' := by
    cases hname : member.name with
    | nil => simp
    | cons first others =>
        rw [hname, List.mem_cons, not_or] at hspace
        simpa using Ne.symm hspace.1
  have hline : member.jsonLine.dropPrefix? "                \x7b name: \"".toList = none :=
    dropPrefix?_eq_none "            ".toList hrest "   \x7b name: \"".toList
  simp only [descriptor?, hline]
  rfl

theorem projection?_descriptorLine (member : Member) :
    projection? member.descriptorLine = none := by
  have hline : exists rest, member.descriptorLine =
      "            ".toList ++ ("    \x7b name".toList ++ ':' :: (" \"".toList ++ rest)) := by
    simp only [descriptorLine, indented, List.append_assoc]
    exact ⟨_, rfl⟩
  rcases hline with ⟨rest, hline⟩
  have hcut : cut? ':' " this." ("    \x7b name".toList ++ ':' :: (" \"".toList ++ rest)) =
      none := cut?_eq_none (by decide) rfl
  simp only [projection?, hline, dropPrefix?_append, Option.bind_eq_bind, Option.bind_some, hcut]
  rfl

theorem slot?_slotLine (member : Member) : slot? member.slotLine = some member.propertyName :=
  between?_append "    #" ";" member.propertyName

theorem projection?_jsonLine (hplain : member.Plain) :
    projection? member.jsonLine = some (member.name, member.propertyName) := by
  have hline : member.jsonLine = "            ".toList ++
      (member.name ++ ':' :: (" this.".toList ++ (member.propertyName ++ ",".toList))) := by
    simp [jsonLine, indented]
  have hcolon : ':' ∉ member.name := Text.not_mem_of_isName hplain.name rfl
  simp only [projection?, hline, dropPrefix?_append, Option.bind_eq_bind, Option.bind_some,
    cut?_append hcolon, dropSuffix?_append]
  rfl

/-- A suffix is no space, so a method is not taken for a property. -/
theorem head?_methodSuffix_append (hplain : member.Plain) {back : Text}
    (hback : back.head? ≠ some ' ') : (member.methodSuffix ++ back).head? ≠ some ' ' := by
  have hspace : ' ' ∉ member.methodSuffix := Text.not_mem_of_isName hplain.methodSuffix rfl
  cases hsuffix : member.methodSuffix with
  | nil => exact hback
  | cons first rest =>
      rw [hsuffix, List.mem_cons, not_or] at hspace
      simpa using Ne.symm hspace.1

def getterLine (member : Member) : Text :=
  indented 1 ("get ".toList ++ member.propertyName ++ "() \x7b".toList)

def setterLine (member : Member) : Text :=
  indented 1 ("set ".toList ++ member.propertyName ++ "(value) \x7b".toList)

def getMethodLine (member : Member) : Text :=
  indented 1 ("get".toList ++ member.methodSuffix ++ "() \x7b".toList)

def setMethodLine (member : Member) : Text :=
  indented 1 ("set".toList ++ member.methodSuffix ++ "(value) \x7b".toList)

/-- The lines of the accessors of a field but for those that name an accessor. -/
def quietLines (member : Member) : List Text :=
  member.accessorLines.take 2 ++ (member.accessorLines.drop 3).take 4 ++
    (member.accessorLines.drop 8).take 4 ++ (member.accessorLines.drop 13).take 7 ++
    member.accessorLines.drop 21

theorem filterMap_accessorLines {α : Type} {read : Text -> Option α}
    (hquiet : member.quietLines.filterMap read = []) :
    member.accessorLines.filterMap read =
      [member.getterLine, member.setterLine, member.getMethodLine,
        member.setMethodLine].filterMap read := by
  have hsplit : member.accessorLines =
      member.accessorLines.take 2 ++ ([member.getterLine] ++
      ((member.accessorLines.drop 3).take 4 ++ ([member.setterLine] ++
      ((member.accessorLines.drop 8).take 4 ++ ([member.getMethodLine] ++
      ((member.accessorLines.drop 13).take 7 ++ ([member.setMethodLine] ++
      member.accessorLines.drop 21))))))) := rfl
  simp only [quietLines, List.filterMap_append, List.append_eq_nil_iff] at hquiet
  rcases hquiet with ⟨⟨⟨⟨hfirst, hsecond⟩, hthird⟩, hfourth⟩, hfifth⟩
  rw [hsplit]
  simp only [List.filterMap_append, hfirst, hsecond, hthird, hfourth, hfifth, List.nil_append,
    List.append_nil]
  simp only [← List.filterMap_append, List.singleton_append]

theorem getter?_accessorLines (hplain : member.Plain) :
    member.accessorLines.filterMap getter? = [member.propertyName] := by
  have hgetter : getter? member.getterLine = some member.propertyName :=
    between?_append "    get " "() \x7b" member.propertyName
  have hsetter : getter? member.setterLine = none := rfl
  have hgetMethod : getter? member.getMethodLine = none :=
    between?_eq_none "    get".toList rfl (head?_methodSuffix_append hplain (by decide))
  have hsetMethod : getter? member.setMethodLine = none := rfl
  rw [filterMap_accessorLines rfl]
  simp only [List.filterMap_cons, hgetter, hsetter, hgetMethod, hsetMethod, List.filterMap_nil]

theorem setter?_accessorLines (hplain : member.Plain) :
    member.accessorLines.filterMap setter? = [member.propertyName] := by
  have hgetter : setter? member.getterLine = none := rfl
  have hsetter : setter? member.setterLine = some member.propertyName :=
    between?_append "    set " "(value) \x7b" member.propertyName
  have hgetMethod : setter? member.getMethodLine = none := rfl
  have hsetMethod : setter? member.setMethodLine = none :=
    between?_eq_none "    set".toList rfl (head?_methodSuffix_append hplain (by decide))
  rw [filterMap_accessorLines rfl]
  simp only [List.filterMap_cons, hgetter, hsetter, hgetMethod, hsetMethod, List.filterMap_nil]

theorem getMethod?_accessorLines (hplain : member.Plain) :
    member.accessorLines.filterMap getMethod? = [member.methodSuffix] := by
  have hgetter : getMethod? member.getterLine = none := rfl
  have hsetter : getMethod? member.setterLine = none := rfl
  have hgetMethod : getMethod? member.getMethodLine = some member.methodSuffix :=
    wordBetween?_append "    get" "() \x7b" (head?_methodSuffix_append hplain (by decide))
  have hsetMethod : getMethod? member.setMethodLine = none := rfl
  rw [filterMap_accessorLines rfl]
  simp only [List.filterMap_cons, hgetter, hsetter, hgetMethod, hsetMethod, List.filterMap_nil]

theorem setMethod?_accessorLines (hplain : member.Plain) :
    member.accessorLines.filterMap setMethod? = [member.methodSuffix] := by
  have hgetter : setMethod? member.getterLine = none := rfl
  have hsetter : setMethod? member.setterLine = none := rfl
  have hgetMethod : setMethod? member.getMethodLine = none := rfl
  have hsetMethod : setMethod? member.setMethodLine = some member.methodSuffix :=
    wordBetween?_append "    set" "(value) \x7b" (head?_methodSuffix_append hplain (by decide))
  rw [filterMap_accessorLines rfl]
  simp only [List.filterMap_cons, hgetter, hsetter, hgetMethod, hsetMethod, List.filterMap_nil]

end Member

theorem Alias.static?_line {entry : Alias} (hname : Text.isName entry.name = true) :
    static? entry.line = some (entry.name, entry.target) := by
  have hline : entry.line = "    static ".toList ++
      (entry.name ++ ' ' :: ("= ".toList ++ (entry.target ++ ";".toList))) := by
    simp only [line, indented, List.append_assoc]
    rfl
  have hspace : ' ' ∉ entry.name := Text.not_mem_of_isName hname rfl
  simp only [static?, hline, dropPrefix?_append, Option.bind_eq_bind, Option.bind_some,
    cut?_append hspace, dropSuffix?_append]
  rfl

theorem EnumTable.constant?_valueLine {value : EnumValue} (hname : Text.isName value.name = true) :
    constant? (valueLine value) = some (value.name, Text.ofInt value.number.toInt) := by
  have hline : valueLine value = "    ".toList ++
      (value.name ++ ':' :: (" ".toList ++ (Text.ofInt value.number.toInt ++ ",".toList))) := by
    simp only [valueLine, indented, List.append_assoc]
    rfl
  have hcolon : ':' ∉ value.name := Text.not_mem_of_isName hname rfl
  simp only [constant?, hline, dropPrefix?_append, Option.bind_eq_bind, Option.bind_some,
    cut?_append hcolon, dropSuffix?_append]
  rfl

namespace MessageClass

def body (cls : MessageClass) : List Text :=
  cls.headLines.drop 2 ++
  spaced (cls.aliases.map Alias.line) ++
  spaced (cls.members.map Member.slotLine) ++
  cls.members.flatMap Member.accessorLines ++
  cls.tailLines.dropLast

/-- A class without its members and aliases, which has the lines that all classes have. -/
def bare (cls : MessageClass) : MessageClass :=
  { cls with members := [], aliases := [] }

theorem drop_headLines (cls : MessageClass) :
    cls.headLines.drop 2 = (cls.bare.headLines.drop 2).take 5 ++
      cls.members.map Member.descriptorLine ++ cls.bare.headLines.drop 7 := rfl

theorem dropLast_tailLines (cls : MessageClass) :
    cls.tailLines.dropLast = cls.bare.tailLines.take 3 ++
      cls.members.map Member.jsonLine ++ (cls.bare.tailLines.drop 3).take 2 := by
  rw [tailLines, List.dropLast_append_of_ne_nil (List.cons_ne_nil _ _)]
  rfl

theorem filterMap_spaced {α : Type} {read : Text -> Option α} (hblank : read [] = none)
    (lines : List Text) : (spaced lines).filterMap read = lines.filterMap read := by
  cases lines with
  | nil => rfl
  | cons first rest => simp [spaced, List.filterMap_cons, hblank]

/--
What a reader finds in a class, kind by kind, when it finds nothing in the lines that all
classes have.
-/
theorem filterMap_body {α : Type} (cls : MessageClass) (read : Text -> Option α)
    {entries statics slots accessors projections : List α}
    (hbare : cls.bare.body.filterMap read = [])
    (hentries : cls.members.filterMap (fun member => read member.descriptorLine) = entries)
    (hstatics : cls.aliases.filterMap (fun entry => read entry.line) = statics)
    (hslots : cls.members.filterMap (fun member => read member.slotLine) = slots)
    (haccessors : cls.members.flatMap (fun member => member.accessorLines.filterMap read) =
      accessors)
    (hprojections : cls.members.filterMap (fun member => read member.jsonLine) = projections) :
    cls.body.filterMap read = entries ++ statics ++ slots ++ accessors ++ projections := by
  subst hentries hstatics hslots haccessors hprojections
  have hbody : cls.bare.body = (cls.bare.headLines.drop 2).take 5 ++ cls.bare.headLines.drop 7 ++
      (cls.bare.tailLines.take 3 ++ (cls.bare.tailLines.drop 3).take 2) := rfl
  -- A blank line stands before the projection of every class.
  have hblank : read [] = none := by
    have hmem : [] ∈ cls.bare.body := by
      rw [hbody]
      exact List.mem_append_right _ (List.mem_append_left _ List.mem_cons_self)
    exact List.filterMap_eq_nil_iff.mp hbare [] hmem
  simp only [hbody, List.filterMap_append, List.append_eq_nil_iff] at hbare
  rcases hbare with ⟨⟨hfirst, hsecond⟩, hthird, hfourth⟩
  rw [body, drop_headLines, dropLast_tailLines]
  simp only [List.filterMap_append, filterMap_spaced hblank,
    List.filterMap_flatMap, List.filterMap_map, hfirst, hsecond, hthird, hfourth,
    List.nil_append, List.append_nil]
  rfl

theorem filterMap_descriptor?_body {cls : MessageClass} (hplain : cls.Plain) :
    cls.body.filterMap descriptor? =
      cls.members.map fun member =>
        ⟨member.propertyName, member.name, Text.ofInt member.number.toInt,
          member.type.keyword.toList, member.label.keyword.toList⟩ := by
  have hbody := cls.filterMap_body descriptor? rfl
    (List.filterMap_eq_map_iff_forall_eq_some.mpr fun member hmember =>
      Member.descriptor?_descriptorLine (hplain.members member hmember))
    (List.filterMap_eq_nil_iff.mpr fun _ _ => rfl) (List.filterMap_eq_nil_iff.mpr fun _ _ => rfl)
    (List.flatMap_eq_nil_iff.mpr fun _ _ => rfl)
    (List.filterMap_eq_nil_iff.mpr fun member hmember =>
      Member.descriptor?_jsonLine (hplain.members member hmember))
  simpa using hbody

theorem filterMap_static?_body {cls : MessageClass} (hplain : cls.Plain) :
    cls.body.filterMap static? = cls.aliases.map fun entry => (entry.name, entry.target) := by
  have hbody := cls.filterMap_body static? rfl (List.filterMap_eq_nil_iff.mpr fun _ _ => rfl)
    (List.filterMap_eq_map_iff_forall_eq_some.mpr fun entry hentry =>
      Alias.static?_line (hplain.aliases entry hentry).1)
    (List.filterMap_eq_nil_iff.mpr fun _ _ => rfl) (List.flatMap_eq_nil_iff.mpr fun _ _ => rfl)
    (List.filterMap_eq_nil_iff.mpr fun _ _ => rfl)
  simpa using hbody

theorem filterMap_slot?_body (cls : MessageClass) :
    cls.body.filterMap slot? = cls.members.map Member.propertyName := by
  have hbody := cls.filterMap_body slot? rfl (List.filterMap_eq_nil_iff.mpr fun _ _ => rfl)
    (List.filterMap_eq_nil_iff.mpr fun _ _ => rfl)
    (List.filterMap_eq_map_iff_forall_eq_some.mpr fun member _ => Member.slot?_slotLine member)
    (List.flatMap_eq_nil_iff.mpr fun _ _ => rfl) (List.filterMap_eq_nil_iff.mpr fun _ _ => rfl)
  simpa using hbody

/-- A reader of accessors finds one in the lines of each field and none elsewhere. -/
theorem filterMap_body_of_accessorLines {cls : MessageClass} {read : Text -> Option Text}
    {found : Member -> Text} (hbare : cls.bare.body.filterMap read = [])
    (hentries : forall member : Member, read member.descriptorLine = none)
    (hstatics : forall entry : Alias, read entry.line = none)
    (hslots : forall member : Member, read member.slotLine = none)
    (hprojections : forall member : Member, read member.jsonLine = none)
    (haccessors : forall member, member ∈ cls.members ->
      member.accessorLines.filterMap read = [found member]) :
    cls.body.filterMap read = cls.members.map found := by
  have hbody := cls.filterMap_body read hbare
    (List.filterMap_eq_nil_iff.mpr fun member _ => hentries member)
    (List.filterMap_eq_nil_iff.mpr fun entry _ => hstatics entry)
    (List.filterMap_eq_nil_iff.mpr fun member _ => hslots member) (flatMap_eq_map haccessors)
    (List.filterMap_eq_nil_iff.mpr fun member _ => hprojections member)
  simpa using hbody

theorem filterMap_getter?_body {cls : MessageClass} (hplain : cls.Plain) :
    cls.body.filterMap getter? = cls.members.map Member.propertyName :=
  filterMap_body_of_accessorLines rfl (fun _ => rfl) (fun _ => rfl) (fun _ => rfl) (fun _ => rfl)
    fun member hmember => Member.getter?_accessorLines (hplain.members member hmember)

theorem filterMap_setter?_body {cls : MessageClass} (hplain : cls.Plain) :
    cls.body.filterMap setter? = cls.members.map Member.propertyName :=
  filterMap_body_of_accessorLines rfl (fun _ => rfl) (fun _ => rfl) (fun _ => rfl) (fun _ => rfl)
    fun member hmember => Member.setter?_accessorLines (hplain.members member hmember)

theorem filterMap_getMethod?_body {cls : MessageClass} (hplain : cls.Plain) :
    cls.body.filterMap getMethod? = cls.members.map Member.methodSuffix :=
  filterMap_body_of_accessorLines rfl (fun _ => rfl) (fun _ => rfl) (fun _ => rfl) (fun _ => rfl)
    fun member hmember => Member.getMethod?_accessorLines (hplain.members member hmember)

theorem filterMap_setMethod?_body {cls : MessageClass} (hplain : cls.Plain) :
    cls.body.filterMap setMethod? = cls.members.map Member.methodSuffix :=
  filterMap_body_of_accessorLines rfl (fun _ => rfl) (fun _ => rfl) (fun _ => rfl) (fun _ => rfl)
    fun member hmember => Member.setMethod?_accessorLines (hplain.members member hmember)

theorem filterMap_projection?_body {cls : MessageClass} (hplain : cls.Plain) :
    cls.body.filterMap projection? =
      cls.members.map fun member => (member.name, member.propertyName) := by
  have hbody := cls.filterMap_body projection? rfl
    (List.filterMap_eq_nil_iff.mpr fun member _ => Member.projection?_descriptorLine member)
    (List.filterMap_eq_nil_iff.mpr fun _ _ => rfl) (List.filterMap_eq_nil_iff.mpr fun _ _ => rfl)
    (List.flatMap_eq_nil_iff.mpr fun _ _ => rfl)
    (List.filterMap_eq_map_iff_forall_eq_some.mpr fun member hmember =>
      Member.projection?_jsonLine (hplain.members member hmember))
  simpa using hbody

end MessageClass
end ProtoModules
