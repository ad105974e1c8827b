import Mathlib.Data.List.TakeWhile
import ProtoModules.Command
import ProtoModules.Proofs.WrittenChoices

/-!
# Choices in any order

A command line says which job to run by its choices: one output directory, one extension, one
source, and any number of search directories and file names.  The choices may be written in any
way and put in any order that keeps the search directories among themselves and the file names
among themselves.  Every command line made this way describes the same job, so all of them have
the same outcome.
-/

namespace ProtoModules
namespace CommandLine

/-!
## What a choice names
-/

namespace Choice

def descriptorSet? : Choice -> Option Text
  | descriptorSet path => some path
  | _ => none

def sources? : Choice -> Option (List Text)
  | sources paths => some paths
  | _ => none

def includeDir? : Choice -> Option Text
  | includeDir path => some path
  | _ => none

def out? : Choice -> Option Text
  | out path => some path
  | _ => none

def file? : Choice -> Option Text
  | file name => some name
  | _ => none

def extension? : Choice -> Option Text
  | extension value => some value
  | _ => none

end Choice

/-!
## What choices leave in the settings
-/

namespace Settings

def give (settings : Settings) : Choice -> Settings
  | .descriptorSet path => { settings with descriptorSet := some path }
  | .sources paths => { settings with sources := some paths }
  | .includeDir path => { settings with includeDirs := settings.includeDirs ++ [path] }
  | .out path => { settings with out := some (some path) }
  | .file name => { settings with files := settings.files ++ [some name] }
  | .extension value => { settings with extension := value }

theorem sources_give (settings : Settings) (choice : Choice) :
    (settings.give choice).sources = choice.sources?.or settings.sources := by
  cases choice <;> rfl

theorem descriptorSet_give (settings : Settings) (choice : Choice) :
    (settings.give choice).descriptorSet = choice.descriptorSet?.or settings.descriptorSet := by
  cases choice <;> rfl

/-- Whether a choice does not exclude a source that was given already. -/
def Allows (settings : Settings) (choice : Choice) : Prop :=
  (choice.sources? = none ∨ settings.descriptorSet = none) ∧
    (choice.descriptorSet? = none ∨ settings.sources = none)

theorem leave_nil (settings : Settings) : settings.leave [] = settings := by
  simp [leave]

theorem bind_leave_nil (stored : Except Misuse Settings) :
    (do return (<- stored).leave []) = stored := by
  cases stored with
  | error misuse => rfl
  | ok settings => exact congrArg Except.ok settings.leave_nil

theorem takeOne_of_carries {settings : Settings} {use : FlagUse} {values : List Text}
    {value : Text}
    (hvalue : (use.attachment.values? = none ∧ values = [value]) ∨
      (use.attachment.values? = some [value] ∧ values = [])) :
    settings.takeOne use values = settings.store use.flag (some value) := by
  unfold takeOne
  rcases hvalue with ⟨hnothing, rfl⟩ | ⟨hattached, rfl⟩
  · rw [hnothing]
    exact bind_leave_nil _
  · rw [hattached]
    exact bind_leave_nil _

theorem takeSources_of_carries {settings : Settings} {use : FlagUse} {values paths : List Text}
    (hsome : paths ≠ [])
    (hpaths : (use.attachment.values? = none ∧ values = paths) ∨
      (use.attachment.values? = some paths ∧ values = [])) :
    settings.takeSources use values = settings.storeSources paths := by
  unfold takeSources
  rcases hpaths with ⟨hnothing, rfl⟩ | ⟨hattached, rfl⟩
  · rw [hnothing]
    cases values with
    | nil => exact absurd rfl hsome
    | cons first rest => rfl
  · rw [hattached]
    exact bind_leave_nil _

/-- A group puts the values that it carries where they belong. -/
theorem take_of_carries {settings : Settings} {group : Group} {choice : Choice}
    (hallows : settings.Allows choice) (hcarries : group.Carries choice) :
    settings.take group = .ok (settings.give choice) := by
  rcases hcarries with ⟨use, hhead, hflag, hsome, hvalues⟩
  unfold take
  cases choice with
  | sources paths =>
      have hset : settings.descriptorSet.isSome = false := by
        rw [hallows.1.resolve_left (Option.some_ne_none paths)]
        rfl
      simp only [hhead, hflag, Choice.flag, Flag.arity, takeSources_of_carries hsome hvalues,
        storeSources, hset]
      rfl
  | descriptorSet path =>
      have hsources : settings.sources.isSome = false := by
        rw [hallows.2.resolve_left (Option.some_ne_none path)]
        rfl
      simp only [hhead, takeOne_of_carries hvalues, hflag, Choice.flag, Flag.arity, store,
        hsources]
      rfl
  | includeDir value | out value | file value | extension value =>
      simp only [hhead, takeOne_of_carries hvalues, hflag, Choice.flag, Flag.arity]
      rfl

def AllowsAll (settings : Settings) (choices : List Choice) : Prop :=
  (settings.sources = none ∧ choices.filterMap Choice.sources? = []) ∨
    (settings.descriptorSet = none ∧ choices.filterMap Choice.descriptorSet? = [])

theorem AllowsAll.tail {settings : Settings} {choice : Choice} {choices : List Choice}
    (hallows : settings.AllowsAll (choice :: choices)) :
    settings.Allows choice ∧ (settings.give choice).AllowsAll choices := by
  -- One kind of source is missing from the settings and from all choices, and it stays missing.
  rcases hallows with ⟨hnone, hall⟩ | ⟨hnone, hall⟩
  · rw [List.filterMap_eq_nil_iff, List.forall_mem_cons] at hall
    refine ⟨⟨Or.inl hall.1, Or.inr hnone⟩, Or.inl ⟨?_, List.filterMap_eq_nil_iff.mpr hall.2⟩⟩
    rw [sources_give, hall.1, hnone]
    rfl
  · rw [List.filterMap_eq_nil_iff, List.forall_mem_cons] at hall
    refine ⟨⟨Or.inr hnone, Or.inl hall.1⟩, Or.inr ⟨?_, List.filterMap_eq_nil_iff.mpr hall.2⟩⟩
    rw [descriptorSet_give, hall.1, hnone]
    rfl

theorem foldlM_take_of_carries {settings : Settings} {found : List Group}
    {choices : List Choice} (hallows : settings.AllowsAll choices)
    (hfound : List.Forall₂ Group.Carries found choices) :
    found.foldlM take settings = .ok (choices.foldl give settings) := by
  induction hfound generalizing settings with
  | nil => rfl
  | @cons group choice found choices hcarries _ ih =>
      rw [List.foldlM_cons, take_of_carries hallows.tail.1 hcarries, List.foldl_cons]
      exact ih hallows.tail.2

end Settings

/--
A value that may be given once is the last one that was given, and values that may be given
again and again are kept in their order.
-/
theorem Settings.foldl_give (choices : List Choice) (settings : Settings) :
    choices.foldl give settings =
      { descriptorSet :=
          (choices.filterMap Choice.descriptorSet?).getLast?.or settings.descriptorSet
        sources := (choices.filterMap Choice.sources?).getLast?.or settings.sources
        includeDirs := settings.includeDirs ++ choices.filterMap Choice.includeDir?
        out := ((choices.filterMap Choice.out?).getLast?.map some).or settings.out
        files := settings.files ++ (choices.filterMap Choice.file?).map some
        extension := (choices.filterMap Choice.extension?).getLast?.getD settings.extension
        leftOver := settings.leftOver } := by
  induction choices generalizing settings with
  | nil => simp
  | cons choice choices ih =>
      rw [List.foldl_cons, ih]
      cases choice <;>
        simp only [give, List.filterMap_cons, Choice.descriptorSet?, Choice.sources?,
          Choice.includeDir?, Choice.out?, Choice.file?, Choice.extension?, List.getLast?_cons,
          Option.or_some, Option.some_or, Option.map_some, Option.getD_some, Option.getD_map,
          List.map_cons, List.append_assoc, List.singleton_append]

/-!
## Commissions
-/

inductive Source where
  | descriptorSet (path : Text)
  | sources (first : Text) (others : List Text)
deriving DecidableEq, Repr

def Source.choice : Source -> Choice
  | descriptorSet path => .descriptorSet path
  | sources first others => .sources (first :: others)

structure Commission where
  source : Source
  out : Text
  extension : Text
  includeDirs : List Text
  files : List Text
deriving DecidableEq, Repr

namespace Commission

def choices (commission : Commission) : List Choice :=
  [commission.source.choice, .out commission.out, .extension commission.extension] ++
    commission.includeDirs.map Choice.includeDir ++ commission.files.map Choice.file

def job (commission : Commission) : Job where
  out := some commission.out
  descriptorSet := (commission.source.choice.descriptorSet?).getD []
  sources := (commission.source.choice.sources?).getD []
  includeDirs := commission.includeDirs
  files := commission.files.map some
  extension := commission.extension

def IsPlain (commission : Commission) : Prop :=
  forall choice, choice ∈ commission.choices -> choice.IsPlain

/--
The command lines of a commission: all its choices in some order, each written in some way.
The search directories keep their order, and so do the file names.
-/
def WrittenAs (commission : Commission) (arguments : List Text) : Prop :=
  exists choices parts,
    choices.Perm commission.choices ∧
      choices.filterMap Choice.includeDir? = commission.includeDirs ∧
      choices.filterMap Choice.file? = commission.files ∧
      List.Forall₂ Choice.WrittenAs choices parts ∧ arguments = parts.flatten

/-- What is not repeated comes out the same in every order of the choices. -/
theorem filterMap_of_perm {α : Type} {commission : Commission} {choices : List Choice}
    (hperm : choices.Perm commission.choices) (pick : Choice -> Option α) (value? : Option α)
    (hrepeated : forall value, pick (.includeDir value) = none ∧ pick (.file value) = none)
    (honce : [commission.source.choice, .out commission.out,
      .extension commission.extension].filterMap pick = value?.toList) :
    choices.filterMap pick = value?.toList := by
  have hnone (make : Text -> Choice) (values : List Text)
      (hmake : forall value, pick (make value) = none) :
      (values.map make).filterMap pick = [] := by
    rw [List.filterMap_map, List.filterMap_eq_nil_iff]
    exact fun value _ => hmake value
  have hpicked := hperm.filterMap pick
  rw [Commission.choices, List.filterMap_append, List.filterMap_append,
    hnone _ _ fun value => (hrepeated value).1, hnone _ _ fun value => (hrepeated value).2,
    List.append_nil, List.append_nil, honce] at hpicked
  cases value? with
  | none => exact List.perm_nil.mp hpicked
  | some value => exact List.perm_singleton.mp hpicked

/-- The choices of a commission do not exclude each other. -/
theorem allowsAll_of_perm {commission : Commission} {choices : List Choice}
    (hperm : choices.Perm commission.choices) : Settings.AllowsAll {} choices := by
  cases hsource : commission.source with
  | descriptorSet path =>
      exact Or.inl ⟨rfl, filterMap_of_perm hperm Choice.sources? none (fun _ => ⟨rfl, rfl⟩)
        (by rw [hsource]; rfl)⟩
  | sources first others =>
      exact Or.inr ⟨rfl, filterMap_of_perm hperm Choice.descriptorSet? none (fun _ => ⟨rfl, rfl⟩)
        (by rw [hsource]; rfl)⟩

/-- All orders of the choices come to the job of the commission. -/
theorem job_of_perm {commission : Commission} {choices : List Choice}
    (hperm : choices.Perm commission.choices)
    (hdirs : choices.filterMap Choice.includeDir? = commission.includeDirs)
    (hfiles : choices.filterMap Choice.file? = commission.files) :
    (choices.foldl Settings.give {}).job = .ok commission.job := by
  have honce {α : Type} (pick : Choice -> Option α) := filterMap_of_perm hperm pick
  rcases commission with ⟨source, out, extension, includeDirs, files⟩
  have hout := honce Choice.out? (some out) (fun _ => ⟨rfl, rfl⟩) (by cases source <;> rfl)
  have hextension := honce Choice.extension? (some extension) (fun _ => ⟨rfl, rfl⟩)
    (by cases source <;> rfl)
  have hset := honce Choice.descriptorSet? source.choice.descriptorSet? (fun _ => ⟨rfl, rfl⟩)
    (by cases source <;> rfl)
  have hsources := honce Choice.sources? source.choice.sources? (fun _ => ⟨rfl, rfl⟩)
    (by cases source <;> rfl)
  rw [Settings.foldl_give, hout, hextension, hset, hsources, hdirs, hfiles]
  cases source <;> rfl

theorem parse_of_writtenAs {commission : Commission} {arguments : List Text}
    (hplain : commission.IsPlain) (hwritten : commission.WrittenAs arguments) :
    parse arguments = .ok commission.job := by
  rcases hwritten with ⟨choices, parts, hperm, hdirs, hfiles, hparts, rfl⟩
  rcases exists_groups_of_writtenAs (fun choice hmem => hplain choice (hperm.mem_iff.mp hmem))
    hparts with ⟨tokens, found, htokens, hgroups, hfound⟩
  have hfold := Settings.foldlM_take_of_carries (allowsAll_of_perm hperm) hfound
  have hfront : parts.flatten.span (fun argument => argument ≠ separator) =
      (parts.flatten, []) := by
    have hseparator := separator_not_mem_of_mapM htokens
    have hall : forall argument, argument ∈ parts.flatten -> decide (argument ≠ separator) := by
      intro argument hmem
      exact decide_eq_true (ne_of_mem_of_not_mem hmem hseparator)
    rw [List.span_eq_takeWhile_dropWhile, List.takeWhile_eq_self_iff.mpr hall,
      List.dropWhile_eq_nil_iff.mpr hall]
  unfold parse
  rw [hfront]
  refine bind_eq_ok_iff.mpr ⟨tokens, mapError_eq_ok_iff.mpr htokens, ?_⟩
  rw [hgroups]
  refine bind_eq_ok_iff.mpr ⟨_, hfold, mapError_eq_ok_iff.mpr ?_⟩
  rw [Settings.leave_nil]
  exact job_of_perm hperm hdirs hfiles

/--
Whatever the order of its choices and whatever way they are written in, a command line of a
commission runs the job of the commission, so all its command lines have one outcome.
-/
theorem run_eq_of_writtenAs {commission : Commission} {arguments : List Text}
    (hplain : commission.IsPlain) (hwritten : commission.WrittenAs arguments) :
    arguments ≠ [] ∧ parse arguments = .ok commission.job ∧
      forall around,
        Command.run arguments around = Command.ofJobRun (commission.job.run around) ∧
          forall others, commission.WrittenAs others ->
            Command.run others around = Command.run arguments around := by
  have hrun {written : List Text} (hcommission : commission.WrittenAs written)
      (around : Surroundings) :
      Command.run written around = Command.ofJobRun (commission.job.run around) := by
    rw [Command.run, parse_of_writtenAs hplain hcommission]
  have hparse := parse_of_writtenAs hplain hwritten
  refine ⟨?_, hparse, fun around => ⟨hrun hwritten around, fun others hothers => ?_⟩⟩
  · rintro rfl
    cases hparse
  · rw [hrun hothers, hrun hwritten]

def twoSources : Commission where
  source := .sources "pier.proto".toList ["ship.proto".toList]
  out := "build".toList
  extension := ".js".toList
  includeDirs := ["shared".toList, "=local".toList]
  files := ["ship.proto".toList]

theorem twoSources_isPlain : twoSources.IsPlain := by
  have hvalues : forall choice, choice ∈ twoSources.choices ->
      forall value, value ∈ choice.values -> value.head? ≠ some '-' := by decide
  exact hvalues

theorem twoSources_writtenAs_sources_first : twoSources.WrittenAs
    (["--proto", "pier.proto", "ship.proto", "-Ishared", "-I", "=local", "--out=build",
      "--file", "ship.proto", "--extension=.js"].map String.toList) := by
  refine ⟨[.sources ["pier.proto".toList, "ship.proto".toList],
      .includeDir "shared".toList, .includeDir "=local".toList, .out "build".toList,
      .file "ship.proto".toList, .extension ".js".toList],
    [["--proto".toList, "pier.proto".toList, "ship.proto".toList],
      ['-' :: 'I' :: "shared".toList],
      ["-I".toList, "=local".toList],
      ["--out".toList ++ '=' :: "build".toList],
      ["--file".toList, "ship.proto".toList],
      ["--extension".toList ++ '=' :: ".js".toList]],
    by decide, rfl, rfl, ?_, rfl⟩
  refine .cons ?_ (.cons ?_ (.cons ?_ (.cons ?_ (.cons ?_ (.cons ?_ .nil)))))
  · exact .several rfl (List.cons_ne_nil _ _)
  · exact .joined rfl (List.cons_ne_nil _ _) (by decide)
  · exact .apart (by decide) rfl rfl
  · exact .attached (by decide) rfl (by decide) rfl
  · exact .apart (by decide) rfl rfl
  · exact .attached (by decide) rfl (by decide) rfl

theorem twoSources_writtenAs_sources_last : twoSources.WrittenAs
    (["--extension", ".js", "--proto-path=shared", "--file=ship.proto", "--proto-path==local",
      "--out", "build", "--proto", "pier.proto", "ship.proto"].map String.toList) := by
  refine ⟨[.extension ".js".toList, .includeDir "shared".toList, .file "ship.proto".toList,
      .includeDir "=local".toList, .out "build".toList,
      .sources ["pier.proto".toList, "ship.proto".toList]],
    [["--extension".toList, ".js".toList],
      ["--proto-path".toList ++ '=' :: "shared".toList],
      ["--file".toList ++ '=' :: "ship.proto".toList],
      ["--proto-path".toList ++ '=' :: "=local".toList],
      ["--out".toList, "build".toList],
      ["--proto".toList, "pier.proto".toList, "ship.proto".toList]],
    by decide, rfl, rfl, ?_, rfl⟩
  refine .cons ?_ (.cons ?_ (.cons ?_ (.cons ?_ (.cons ?_ (.cons ?_ .nil)))))
  · exact .apart (by decide) rfl rfl
  · exact .attached (by decide) rfl (by decide) rfl
  · exact .attached (by decide) rfl (by decide) rfl
  · exact .attached (by decide) rfl (by decide) rfl
  · exact .apart (by decide) rfl rfl
  · exact .several rfl (List.cons_ne_nil _ _)

theorem run_of_twoSources :
    twoSources.IsPlain ∧
      forall around,
        Command.run (["--extension", ".js", "--proto-path=shared", "--file=ship.proto",
            "--proto-path==local", "--out", "build", "--proto", "pier.proto",
            "ship.proto"].map String.toList) around =
          Command.run (["--proto", "pier.proto", "ship.proto", "-Ishared", "-I", "=local",
            "--out=build", "--file", "ship.proto", "--extension=.js"].map String.toList)
            around := by
  refine ⟨twoSources_isPlain, fun around => ?_⟩
  have hall := run_eq_of_writtenAs twoSources_isPlain twoSources_writtenAs_sources_first
  exact (hall.2.2 around).2 _ twoSources_writtenAs_sources_last

end Commission

end CommandLine
end ProtoModules
