import ProtoModules.Proofs.GivenValues

/-!
# How choices are written on a command line

A choice is a flag with the values that it is meant to have.  A single value may stand behind its
flag, or be attached to a long flag with an equals sign, and the search directory may be attached
to its short flag as it is.  The sources stand behind their flag.  As long as no value begins with
a dash, whatever way is taken is read back: the written choices fall into one group each, with the
flag and the values of the choice.
-/

namespace ProtoModules
namespace CommandLine

/-- A flag with the values that it is meant to have. -/
inductive Choice where
  | descriptorSet (path : Text)
  | sources (paths : List Text)
  | includeDir (path : Text)
  | out (path : Text)
  | file (name : Text)
  | extension (value : Text)
deriving DecidableEq, Repr

namespace Choice

def flag : Choice -> Flag
  | descriptorSet _ => .descriptorSet
  | sources _ => .proto
  | includeDir _ => .includeDir
  | out _ => .out
  | file _ => .file
  | extension _ => .extension

def values : Choice -> List Text
  | sources paths => paths
  | descriptorSet value | includeDir value | out value | file value | extension value => [value]

def IsPlain (choice : Choice) : Prop :=
  forall value, value ∈ choice.values -> value.head? ≠ some '-'

inductive WrittenAs (choice : Choice) : List Text -> Prop where
  | apart {spelling value : Text} :
      (spelling, choice.flag) ∈ Flag.spellings -> choice.flag.arity = .one ->
      choice.values = [value] -> WrittenAs choice [spelling, value]
  | attached {spelling value : Text} :
      (spelling, choice.flag) ∈ Flag.spellings -> choice.flag.arity = .one ->
      separator <+: spelling -> choice.values = [value] ->
      WrittenAs choice [spelling ++ '=' :: value]
  | joined {value : Text} :
      choice = .includeDir value -> value ≠ [] -> value.head? ≠ some '=' ->
      WrittenAs choice ['-' :: 'I' :: value]
  | several :
      choice.flag = .proto -> choice.values ≠ [] ->
      WrittenAs choice ("--proto".toList :: choice.values)

end Choice

/-!
## Reading an argument
-/

namespace Token

theorem ofArgument_of_not_dash {value : Text} (hvalue : value.head? ≠ some '-') :
    ofArgument value = .ok (.bare value) := by
  rw [ofArgument, if_pos (Or.inl hvalue)]

theorem mapM_ofArgument_of_not_dash {values : List Text}
    (hvalues : forall value, value ∈ values -> value.head? ≠ some '-') :
    values.mapM ofArgument = .ok (values.map Token.bare) := by
  rw [mapM_eq_ok_iff, List.forall₂_map_right_iff, List.forall₂_same]
  intro value hvalue
  exact ofArgument_of_not_dash (hvalues value hvalue)

/-- A spelling begins with a dash, has no equals sign, and is read as its flag alone. -/
theorem spelling_cases : forall entry, entry ∈ Flag.spellings ->
    entry.1.head? = some '-' ∧ '=' ∉ entry.1 ∧
      Flag.ofSpelling? entry.1 = some entry.2 ∧
      ofArgument entry.1 = .ok (.flagged ⟨entry.2, .nothing⟩) := by
  decide

theorem ofSpelling?_eq_none {argument : Text}
    (hother : forall entry, entry ∈ Flag.spellings -> argument ≠ entry.1) :
    Flag.ofSpelling? argument = none := by
  rw [Flag.ofSpelling?, List.lookup_eq_none_iff]
  intro entry hentry
  exact bne_iff_ne.mpr (hother entry hentry)

theorem ofSpelling?_of_equals_mem {argument : Text} (hequals : '=' ∈ argument) :
    Flag.ofSpelling? argument = none := by
  apply ofSpelling?_eq_none
  rintro entry hentry rfl
  exact (spelling_cases entry hentry).2.1 hequals

/-- The short flag of a search directory has one letter, so nothing longer is a spelling. -/
theorem ofSpelling?_of_short {value : Text} (hsome : value ≠ []) :
    Flag.ofSpelling? ('-' :: 'I' :: value) = none := by
  have hshort : forall entry, entry ∈ Flag.spellings -> entry.1[1]? = some 'I' ->
      entry.1.drop 2 = [] := by decide
  apply ofSpelling?_eq_none
  intro entry hentry hsame
  have hrest := hshort entry hentry (by rw [← hsame]; rfl)
  rw [← hsame] at hrest
  exact hsome hrest

theorem ofArgument_of_spelledOut? {argument : Text} {found : FlagUse}
    (hdash : argument.head? = some '-') (hlong : argument ≠ ['-'])
    (hfound : spelledOut? argument = some found) :
    ofArgument argument = .ok (.flagged found) := by
  have hflag : ¬ (argument.head? ≠ some '-' ∨ argument = ['-']) := by
    rw [not_or, not_not]
    exact ⟨hdash, hlong⟩
  rw [ofArgument, if_neg hflag, hfound]

theorem ofArgument_attached {spelling : Text} {flag : Flag}
    (hspelling : (spelling, flag) ∈ Flag.spellings) (hlong : separator <+: spelling)
    (value : Text) :
    ofArgument (spelling ++ '=' :: value) = .ok (.flagged ⟨flag, .long value⟩) := by
  rcases spelling_cases _ hspelling with ⟨hdash, hequals, hflag, _⟩
  have hmem : '=' ∈ spelling ++ '=' :: value := by simp
  apply ofArgument_of_spelledOut?
  · rw [List.head?_append, hdash]
    rfl
  · intro hsame
    rw [hsame] at hmem
    exact absurd hmem (by decide)
  · rw [spelledOut?, ofSpelling?_of_equals_mem hmem, splitValue, Text.cutFirst_append hequals]
    simp only [hflag, Option.map_some, use, Attachment.ofSpelling,
      List.isPrefixOf_iff_prefix.mpr hlong, if_true]

theorem spelledOut?_joined {value : Text} (hsome : value ≠ [])
    (hequals : value.head? ≠ some '=') : spelledOut? ('-' :: 'I' :: value) = none := by
  have hcons : Text.cutFirst '=' ('-' :: 'I' :: value) =
      (Text.cutFirst '=' value).map fun halves => ('-' :: 'I' :: halves.1, halves.2) := by
    simp [Text.cutFirst, Function.comp_def]
  simp only [spelledOut?, ofSpelling?_of_short hsome, splitValue, hcons]
  cases hcut : Text.cutFirst '=' value with
  | none => simp only [Option.map_none, ofSpelling?_of_short hsome]
  | some halves =>
      have hbefore : halves.1 ≠ [] := by
        intro hnil
        rw [(Text.cutFirst_eq_some hcut).1, hnil] at hequals
        exact hequals rfl
      simp only [Option.map_some, ofSpelling?_of_short hbefore, Option.map_none]

theorem ofArgument_joined {value : Text} (hsome : value ≠ []) (hequals : value.head? ≠ some '=') :
    ofArgument ('-' :: 'I' :: value) = .ok (.flagged ⟨.includeDir, .short value⟩) := by
  have hflag : ¬ (('-' :: 'I' :: value).head? ≠ some '-' ∨ '-' :: 'I' :: value = ['-']) := by
    simp
  have hcandidates : candidates ('-' :: 'I' :: value) =
      [("-I".toList, ⟨.includeDir, .short value⟩)] := rfl
  rw [ofArgument, if_neg hflag, spelledOut?_joined hsome hequals, hcandidates]

end Token

/-!
## Groups of arguments
-/

/-- Whether a group has the flag and the values of a choice, attached to the flag or behind it. -/
def Group.Carries (group : Group) (choice : Choice) : Prop :=
  exists use, group.head = .flag use ∧ use.flag = choice.flag ∧ choice.values ≠ [] ∧
    ((use.attachment.values? = none ∧ group.values = choice.values) ∨
      (use.attachment.values? = some choice.values ∧ group.values = []))

theorem groups_bare (values : List Text) (rest : List Token) :
    groups (values.map Token.bare ++ rest) = (values ++ (groups rest).1, (groups rest).2) := by
  induction values with
  | nil => rfl
  | cons value others ih =>
      simp only [List.map_cons, List.cons_append, groups, ih]

theorem groups_flagged {rest : List Token} {others : List Group}
    (hrest : groups rest = ([], others)) (use : FlagUse) (values : List Text) :
    groups (.flagged use :: values.map Token.bare ++ rest) =
      ([], ⟨.flag use, values⟩ :: others) := by
  simp only [List.cons_append, groups, groups_bare, hrest, List.append_nil]

theorem values?_of_not_dash {attachment : Attachment} {value : Text}
    (hvalue : value.head? ≠ some '-')
    (hattached : attachment = .long value ∨ attachment = .short value) :
    attachment.values? = some [value] := by
  have hseparator : value ≠ separator := by
    rintro rfl
    exact hvalue rfl
  rcases hattached with rfl | rfl
  · exact congrArg some (if_neg hseparator)
  · exact congrArg some (if_neg hseparator)

/-- Whatever way a choice is written in, its arguments are a flag and bare values. -/
theorem exists_group_of_writtenAs {choice : Choice} {part : List Text}
    (hplain : choice.IsPlain) (hwritten : choice.WrittenAs part) :
    exists use values, Group.Carries ⟨.flag use, values⟩ choice ∧
      part.mapM Token.ofArgument = .ok (.flagged use :: values.map Token.bare) := by
  cases hwritten with
  | @apart spelling value hspelling _ hvalues =>
      have hflag := (Token.spelling_cases _ hspelling).2.2.2
      have hdash : value.head? ≠ some '-' := hplain value (by simp [hvalues])
      refine ⟨⟨choice.flag, .nothing⟩, [value], ?_, ?_⟩
      · exact ⟨_, rfl, rfl, by simp [hvalues], Or.inl ⟨rfl, hvalues.symm⟩⟩
      · rw [mapM_eq_ok_iff]
        exact .cons hflag (.cons (Token.ofArgument_of_not_dash hdash) .nil)
  | @attached spelling value hspelling _ hlong hvalues =>
      have hdash : value.head? ≠ some '-' := hplain value (by simp [hvalues])
      have hattached := values?_of_not_dash hdash (Or.inl rfl)
      refine ⟨⟨choice.flag, .long value⟩, [], ?_, ?_⟩
      · exact ⟨_, rfl, rfl, by simp [hvalues], Or.inr ⟨hvalues ▸ hattached, rfl⟩⟩
      · rw [mapM_eq_ok_iff]
        exact .cons (Token.ofArgument_attached hspelling hlong value) .nil
  | @joined value hchoice hsome hequals =>
      subst hchoice
      have hdash : value.head? ≠ some '-' := hplain value List.mem_cons_self
      have hattached := values?_of_not_dash hdash (Or.inr rfl)
      refine ⟨⟨.includeDir, .short value⟩, [], ?_, ?_⟩
      · exact ⟨_, rfl, rfl, List.cons_ne_nil _ _, Or.inr ⟨hattached, rfl⟩⟩
      · rw [mapM_eq_ok_iff]
        exact .cons (Token.ofArgument_joined hsome hequals) .nil
  | several hflag hsome =>
      have hproto : Token.ofArgument "--proto".toList = .ok (.flagged ⟨.proto, .nothing⟩) := rfl
      refine ⟨⟨.proto, .nothing⟩, choice.values, ?_, ?_⟩
      · exact ⟨_, rfl, hflag.symm, hsome, Or.inl ⟨rfl, rfl⟩⟩
      · rw [List.mapM_cons, hproto, Token.mapM_ofArgument_of_not_dash hplain]
        rfl

/-- Choices that are written one after the other fall into one group each. -/
theorem exists_groups_of_writtenAs {choices : List Choice} {parts : List (List Text)}
    (hplain : forall choice, choice ∈ choices -> choice.IsPlain)
    (hwritten : List.Forall₂ Choice.WrittenAs choices parts) :
    exists tokens found, parts.flatten.mapM Token.ofArgument = .ok tokens ∧
      groups tokens = ([], found) ∧ List.Forall₂ Group.Carries found choices := by
  induction hwritten with
  | nil => exact ⟨[], [], rfl, rfl, .nil⟩
  | @cons choice part choices parts hfirst _ ih =>
      rcases exists_group_of_writtenAs (hplain choice List.mem_cons_self) hfirst with
        ⟨use, values, hcarries, htokens⟩
      rcases ih fun other hother => hplain other (List.mem_cons_of_mem choice hother) with
        ⟨tokens, found, hrest, hgroups, hfound⟩
      refine ⟨.flagged use :: values.map Token.bare ++ tokens, ⟨.flag use, values⟩ :: found,
        ?_, groups_flagged hgroups use values, .cons hcarries hfound⟩
      rw [List.flatten_cons, List.mapM_append, htokens, hrest]
      rfl

theorem separator_not_mem_of_mapM {arguments : List Text} {tokens : List Token}
    (htokens : arguments.mapM Token.ofArgument = .ok tokens) : separator ∉ arguments := by
  intro hmem
  rcases exists_mem_of_mapM htokens hmem with ⟨token, _, htoken⟩
  cases htoken

end CommandLine
end ProtoModules
