import ProtoModules.Exchange
import ProtoModules.Proofs.Importing

/-!
# Answers to requests

A response delivers the modules of all wanted files or reports one failure and delivers
nothing.  A parameter that can be read sets an extension that is not empty, so every
imported module has a name, and a file fails to have a module only where two of its
declarations collide.  The failure that is reported is the one of the first wanted file
that has no module.
-/

namespace ProtoModules

open Schema

/-!
## Working through a list

A step that may fail is done for one item after the other.  Either it succeeds for all of
them, or there is a first item that it fails for.
-/

section Steps

variable {α β ε : Type} {step : α -> Except ε β}

theorem mapM_eq_ok_iff {items : List α} {results : List β} :
    items.mapM step = .ok results ↔
      List.Forall₂ (fun item result => step item = .ok result) items results := by
  induction items generalizing results with
  | nil =>
      rw [List.mapM_nil, List.forall₂_nil_left_iff]
      exact ⟨fun hok => (Except.ok.inj hok).symm, fun hnil => hnil ▸ rfl⟩
  | cons item rest ih =>
      rw [List.mapM_cons, List.forall₂_cons_left_iff]
      constructor
      · intro hok
        cases hitem : step item with
        | error failure =>
            rw [hitem] at hok
            cases hok
        | ok result =>
            cases hrest : rest.mapM step with
            | error failure =>
                rw [hitem, hrest] at hok
                cases hok
            | ok more =>
                rw [hitem, hrest] at hok
                cases hok
                exact ⟨result, more, rfl, ih.mp hrest, rfl⟩
      · intro hall
        rcases hall with ⟨result, more, hitem, hmore, rfl⟩
        rw [hitem, ih.mpr hmore]
        rfl

theorem mapM_eq_error_iff {items : List α} {failure : ε} :
    items.mapM step = .error failure ↔
      exists front item back, items = front ++ item :: back ∧
        (forall other, other ∈ front -> exists result, step other = .ok result) ∧
        step item = .error failure := by
  induction items with
  | nil =>
      constructor
      · intro herror
        cases herror
      · intro hsplit
        rcases hsplit with ⟨front, item, back, hnil, _⟩
        exact absurd hnil.symm
          (List.append_ne_nil_of_right_ne_nil front (List.cons_ne_nil item back))
  | cons item rest ih =>
      rw [List.mapM_cons]
      constructor
      · intro herror
        cases hitem : step item with
        | error first =>
            rw [hitem] at herror
            cases herror
            exact ⟨[], item, rest, rfl, fun _ hnone => absurd hnone List.not_mem_nil, hitem⟩
        | ok result =>
            cases hrest : rest.mapM step with
            | ok more =>
                rw [hitem, hrest] at herror
                cases herror
            | error later =>
                rw [hitem, hrest] at herror
                cases herror
                rcases ih.mp hrest with ⟨front, failed, back, rfl, hfront, hfailed⟩
                refine ⟨item :: front, failed, back, rfl, ?_, hfailed⟩
                intro other hother
                rcases List.mem_cons.mp hother with rfl | hother
                · exact ⟨result, hitem⟩
                · exact hfront other hother
      · intro hsplit
        rcases hsplit with ⟨front, failed, back, hitems, hfront, hfailed⟩
        cases front with
        | nil =>
            cases hitems
            rw [hfailed]
            rfl
        | cons first others =>
            rcases List.cons.inj hitems with ⟨rfl, hrest⟩
            rcases hfront item List.mem_cons_self with ⟨result, hfirst⟩
            have hrest := ih.mpr ⟨others, failed, back, hrest,
              fun other hother => hfront other (List.mem_cons_of_mem item hother), hfailed⟩
            rw [hfirst, hrest]
            rfl

theorem exists_mem_of_mapM {items : List α} {results : List β} {item : α}
    (hok : items.mapM step = .ok results) (hitem : item ∈ items) :
    exists result, result ∈ results ∧ step item = .ok result := by
  induction mapM_eq_ok_iff.mp hok with
  | nil => cases hitem
  | @cons first result rest others hfirst hrest ih =>
      rcases List.mem_cons.mp hitem with rfl | hlater
      · exact ⟨result, List.mem_cons_self, hfirst⟩
      · rcases ih (mapM_eq_ok_iff.mpr hrest) hlater with ⟨other, hother, hstep⟩
        exact ⟨other, List.mem_cons_of_mem result hother, hstep⟩

theorem bind_eq_ok_iff {attempt : Except ε α} {next : α -> Except ε β} {result : β} :
    attempt >>= next = .ok result ↔
      exists found, attempt = .ok found ∧ next found = .ok result := by
  cases attempt with
  | error failure => simp [Bind.bind, Except.bind]
  | ok found => simp [Bind.bind, Except.bind]

theorem bind_eq_error_iff {attempt : Except ε α} {next : α -> Except ε β} {failure : ε} :
    attempt >>= next = .error failure ↔
      attempt = .error failure ∨
        exists found, attempt = .ok found ∧ next found = .error failure := by
  cases attempt with
  | error other => simp [Bind.bind, Except.bind]
  | ok found => simp [Bind.bind, Except.bind]

theorem mapError_eq_ok_iff {δ : Type} {attempt : Except ε α} {wrap : ε -> δ} {result : α} :
    attempt.mapError wrap = .ok result ↔ attempt = .ok result := by
  cases attempt with
  | error failure => simp [Except.mapError]
  | ok found => simp [Except.mapError]

end Steps

/-!
## The extension that a parameter sets
-/

namespace Options

theorem isExtension_of_readEntry {parameter item : Text} {options next : Options}
    (hread : readEntry parameter options item = .ok next) :
    isExtension next.extension = true := by
  unfold readEntry at hread
  cases hcut : Text.cutFirst '=' item with
  | none =>
      simp only [hcut] at hread
      by_cases hkey : Text.trim item = extensionKey
      · rw [if_pos hkey] at hread
        cases hread
      · rw [if_neg hkey] at hread
        cases hread
  | some halves =>
      simp only [hcut] at hread
      by_cases hkey : Text.trim halves.1 = extensionKey
      · rw [if_pos hkey] at hread
        by_cases hvalue : isExtension (Text.trim halves.2) = true
        · rw [if_pos hvalue] at hread
          cases hread
          exact hvalue
        · rw [if_neg hvalue] at hread
          cases hread
      · rw [if_neg hkey] at hread
        cases hread

theorem isExtension_of_readItem {parameter item : Text} {options next : Options}
    (hoptions : isExtension options.extension = true)
    (hread : readItem parameter options item = .ok next) :
    isExtension next.extension = true := by
  unfold readItem at hread
  split at hread
  · cases hread
    exact hoptions
  · exact isExtension_of_readEntry hread

theorem isExtension_of_foldlM {parameter : Text} {items : List Text} {options last : Options}
    (hoptions : isExtension options.extension = true)
    (hread : items.foldlM (readItem parameter) options = .ok last) :
    isExtension last.extension = true := by
  induction items generalizing options with
  | nil =>
      cases hread
      exact hoptions
  | cons item rest ih =>
      rw [List.foldlM_cons] at hread
      cases hitem : readItem parameter options item with
      | error failure =>
          rw [hitem] at hread
          cases hread
      | ok next =>
          rw [hitem] at hread
          exact ih (isExtension_of_readItem hoptions hitem) hread

theorem isExtension_of_ofParameter {parameter : Text} {options : Options}
    (hread : ofParameter parameter = .ok options) : isExtension options.extension = true :=
  isExtension_of_foldlM (by decide) hread

theorem message_ne_nil (error : Error) : error.message ≠ [] := by
  cases error with
  | invalidExtension value => exact List.cons_ne_nil _ _
  | unknownOption key parameter => exact List.cons_ne_nil _ _

end Options

theorem Path.withExtension_ne_nil (path : Text) {extension : Text}
    (hextension : Options.isExtension extension = true) : withExtension path extension ≠ [] := by
  apply List.append_ne_nil_of_right_ne_nil
  intro hnil
  rw [hnil] at hextension
  cases hextension

/-!
## Why a file has no module
-/

namespace EsModule

variable {workDir : Path.Place} {registry : Registry} {extension : Text} {file : File}

theorem exists_importOf_eq_ok (hextension : Options.isExtension extension = true)
    (group : ImportGroup) :
    exists statement, importOf workDir file extension group = .ok statement := by
  have hname := Path.withExtension_ne_nil group.fileName hextension
  simp only [importOf, Path.specifier?, if_neg hname]
  exact ⟨_, rfl⟩

/-- Every import has a specifier, so only the declarations of a file can be at fault. -/
theorem ofFile_eq_error_iff (hextension : Options.isExtension extension = true)
    {failure : BuildError} :
    ofFile workDir registry extension file = .error failure ↔
      exists collision, failure = .collision collision ∧
        Draft.ofScope (Scope.ofFile registry file) = .error collision := by
  have himports : exists imports, (Imports.grouped (Imports.names registry file)).mapM
      (importOf workDir file extension) = .ok imports := by
    cases hmap : (Imports.grouped (Imports.names registry file)).mapM
        (importOf workDir file extension) with
    | ok imports => exact ⟨imports, rfl⟩
    | error failure =>
        rcases mapM_eq_error_iff.mp hmap with ⟨_, group, _, _, _, hfailed⟩
        rcases exists_importOf_eq_ok hextension group with ⟨statement, hok⟩
        rw [hfailed] at hok
        cases hok
  rcases himports with ⟨imports, himports⟩
  have hscope : Scope.ofFile registry file =
      { registry, file, names := Imports.names registry file } := rfl
  simp only [ofFile, himports, ← hscope]
  cases Draft.ofScope (Scope.ofFile registry file) with
  | error collision => simp [Bind.bind, Except.bind, Except.mapError, eq_comm]
  | ok draft => simp [Bind.bind, Except.bind, Except.mapError, Pure.pure, Except.pure]

end EsModule

theorem BuildError.message_ne_nil (failure : BuildError) : failure.message ≠ [] := by
  cases failure with
  | emptyModuleName => exact List.cons_ne_nil _ _
  | collision collision => exact List.cons_ne_nil _ _

/-!
## Compiling the wanted files
-/

theorem compileFile_eq_ok_iff {workDir : Path.Place} {registry : Registry} {extension : Text}
    {file : File} {output : OutputFile} :
    compileFile workDir registry extension file = .ok output ↔
      exists esModule, EsModule.ofFile workDir registry extension file = .ok esModule ∧
        output = ⟨Path.withExtension file.name extension, esModule.text⟩ := by
  unfold compileFile
  cases EsModule.ofFile workDir registry extension file with
  | error failure => simp [Bind.bind, Except.bind]
  | ok esModule => simp [Bind.bind, Except.bind, Pure.pure, Except.pure, eq_comm]

theorem compileFile_eq_error_iff {workDir : Path.Place} {registry : Registry}
    {extension : Text} {file : File} {failure : BuildError} :
    compileFile workDir registry extension file = .error failure ↔
      EsModule.ofFile workDir registry extension file = .error failure := by
  unfold compileFile
  cases EsModule.ofFile workDir registry extension file with
  | error other => simp [Bind.bind, Except.bind]
  | ok esModule => simp [Bind.bind, Except.bind, Pure.pure, Except.pure]

/-- With an extension at hand, only a collision stops the files of a set. -/
theorem exists_collision_of_compile {workDir : Path.Place} {files : List File}
    {requested : List Text} {extension : Text} {failure : BuildError}
    (hextension : Options.isExtension extension = true)
    (hfailed : compile workDir files requested extension = .error failure) :
    exists collision, failure = .collision collision := by
  rcases mapM_eq_error_iff.mp hfailed with ⟨_, file, _, _, _, hfile⟩
  rw [compileFile_eq_error_iff, EsModule.ofFile_eq_error_iff hextension] at hfile
  rcases hfile with ⟨collision, hfailure, _⟩
  exact ⟨collision, hfailure⟩

namespace Request

def wanted (request : Request) : List File :=
  request.files.filter fun file => file.name ∈ request.requested

/--
How a request is answered: with the mistake in its parameter, with the collision in the
first wanted file that has no module, or with the modules of all wanted files.
-/
inductive AnsweredBy (workDir : Path.Place) (request : Request) : Response -> Prop where
  | misread {error : Options.Error} :
      Options.ofParameter request.parameter = .error error ->
      AnsweredBy workDir request ⟨some error.message, 1, []⟩
  | collided {options : Options} {front back : List File} {file : File}
      {collision : Collision} :
      Options.ofParameter request.parameter = .ok options ->
      request.wanted = front ++ file :: back ->
      (forall other, other ∈ front -> exists esModule,
        EsModule.ofFile workDir (Registry.ofFiles request.files) options.extension other =
          .ok esModule) ->
      EsModule.ofFile workDir (Registry.ofFiles request.files) options.extension file =
        .error (.collision collision) ->
      AnsweredBy workDir request ⟨some (BuildError.collision collision).message, 1, []⟩
  | delivered {options : Options} {outputs : List OutputFile} :
      Options.ofParameter request.parameter = .ok options ->
      List.Forall₂ (fun file output => exists esModule,
        EsModule.ofFile workDir (Registry.ofFiles request.files) options.extension file =
          .ok esModule ∧
        output = ⟨Path.withExtension file.name options.extension, esModule.text⟩)
        request.wanted outputs ->
      AnsweredBy workDir request ⟨none, 1, outputs⟩

theorem compile_eq_mapM_wanted (workDir : Path.Place) (request : Request) (extension : Text) :
    compile workDir request.files request.requested extension =
      request.wanted.mapM
        (compileFile workDir (Registry.ofFiles request.files) extension) := by
  simp only [compile, wanted, List.contains_eq_mem]

theorem answer_eq_of_answeredBy {workDir : Path.Place} {request : Request}
    {response : Response} (hanswered : AnsweredBy workDir request response) :
    response = request.answer workDir := by
  cases hanswered with
  | misread hread =>
      rw [answer, hread]
      rfl
  | @collided options front back file collision hread hwanted hfront hfile =>
      have hcompile : compile workDir request.files request.requested options.extension =
          .error (.collision collision) := by
        rw [compile_eq_mapM_wanted, mapM_eq_error_iff]
        refine ⟨front, file, back, hwanted, ?_, compileFile_eq_error_iff.mpr hfile⟩
        intro other hother
        rcases hfront other hother with ⟨esModule, hmodule⟩
        exact ⟨_, compileFile_eq_ok_iff.mpr ⟨esModule, hmodule, rfl⟩⟩
      simp only [answer, hread, hcompile]
      rfl
  | @delivered options outputs hread houtputs =>
      have hcompile : compile workDir request.files request.requested options.extension =
          .ok outputs := by
        rw [compile_eq_mapM_wanted, mapM_eq_ok_iff]
        exact houtputs.imp fun _ _ hmodule => compileFile_eq_ok_iff.mpr hmodule
      simp only [answer, hread, hcompile]
      rfl

theorem answeredBy_answer (workDir : Path.Place) (request : Request) :
    AnsweredBy workDir request (request.answer workDir) := by
  cases hread : Options.ofParameter request.parameter with
  | error error =>
      have hmisread : AnsweredBy workDir request _ := AnsweredBy.misread hread
      rw [← answer_eq_of_answeredBy hmisread]
      exact hmisread
  | ok options =>
      have hextension := Options.isExtension_of_ofParameter hread
      cases hcompile : compile workDir request.files request.requested options.extension with
      | error failure =>
          rw [compile_eq_mapM_wanted, mapM_eq_error_iff] at hcompile
          rcases hcompile with ⟨front, file, back, hwanted, hfront, hfile⟩
          rw [compileFile_eq_error_iff] at hfile
          rcases (EsModule.ofFile_eq_error_iff hextension).mp hfile with ⟨collision, rfl, _⟩
          have hcollided : AnsweredBy workDir request _ :=
            AnsweredBy.collided hread hwanted (fun other hother => by
              rcases hfront other hother with ⟨output, houtput⟩
              rcases compileFile_eq_ok_iff.mp houtput with ⟨esModule, hmodule, _⟩
              exact ⟨esModule, hmodule⟩) hfile
          rw [← answer_eq_of_answeredBy hcollided]
          exact hcollided
      | ok outputs =>
          rw [compile_eq_mapM_wanted, mapM_eq_ok_iff] at hcompile
          have hdelivered : AnsweredBy workDir request _ :=
            AnsweredBy.delivered hread
              (hcompile.imp fun _ _ houtput => compileFile_eq_ok_iff.mp houtput)
          rw [← answer_eq_of_answeredBy hdelivered]
          exact hdelivered

theorem features_of_answeredBy {workDir : Path.Place} {request : Request}
    {response : Response} (hanswered : AnsweredBy workDir request response) :
    response.features = 1 := by
  cases hanswered <;> rfl

/-- An error has words, and nothing is delivered with it. -/
theorem files_of_answeredBy {workDir : Path.Place} {request : Request} {response : Response}
    (hanswered : AnsweredBy workDir request response) {message : Text}
    (hmessage : response.error = some message) : message ≠ [] ∧ response.files = [] := by
  cases hanswered with
  | misread hread =>
      cases hmessage
      exact ⟨Options.message_ne_nil _, rfl⟩
  | collided hread hwanted hfront hfile =>
      cases hmessage
      exact ⟨BuildError.message_ne_nil _, rfl⟩
  | delivered hread houtputs => cases hmessage

/-- The names that are requested matter only as a set, and only as far as files have them. -/
theorem answer_congr (workDir : Path.Place) (request : Request) {requested : List Text}
    (hsame : forall file, file ∈ request.files ->
      (file.name ∈ requested ↔ file.name ∈ request.requested)) :
    ({ request with requested } : Request).answer workDir = request.answer workDir := by
  have hfilter : request.files.filter (fun file => requested.contains file.name) =
      request.files.filter fun file => request.requested.contains file.name := by
    apply List.filter_congr
    intro file hfile
    rw [Bool.eq_iff_iff, List.contains_iff_mem, List.contains_iff_mem]
    exact hsame file hfile
  simp only [answer, compile, hfilter]

/--
A request has exactly one answer: all the modules it wants, or no module and the first
failure.  A failure is never without words and never about the name of a module, and the
requested names count only as a set.
-/
theorem answer_is_all_or_nothing (workDir : Path.Place) (request : Request) :
    (forall response, AnsweredBy workDir request response ↔
      response = request.answer workDir) ∧
    (request.answer workDir).features = 1 ∧
    (forall message, (request.answer workDir).error = some message ->
      message ≠ [] ∧ (request.answer workDir).files = []) ∧
    (forall options, Options.ofParameter request.parameter = .ok options ->
      forall file, EsModule.ofFile workDir (Registry.ofFiles request.files)
        options.extension file ≠ .error .emptyModuleName) ∧
    (forall requested : List Text,
      (forall file, file ∈ request.files ->
        (file.name ∈ requested ↔ file.name ∈ request.requested)) ->
      ({ request with requested } : Request).answer workDir = request.answer workDir) := by
  have hanswered := answeredBy_answer workDir request
  refine ⟨?_, features_of_answeredBy hanswered,
    fun _ hmessage => files_of_answeredBy hanswered hmessage, ?_,
    fun _ hsame => answer_congr workDir request hsame⟩
  · intro response
    constructor
    · exact answer_eq_of_answeredBy
    · intro hresponse
      rw [hresponse]
      exact hanswered
  · intro options hread file hfailed
    rcases (EsModule.ofFile_eq_error_iff (Options.isExtension_of_ofParameter hread)).mp hfailed with
      ⟨collision, hcollision, _⟩
    cases hcollision

/-- The second file that is wanted has two declarations for one identifier. -/
def mixed : Request where
  requested := [['f'], ['x'], ['g'], ['f']]
  parameter := "extension=.m".toList
  files := [
    { name := ['g'], messages := [{ name := ['A'] }] },
    { name := ['f']
      messages := [
        { name := ['A'], enums := [{ name := ['B'] }] },
        { name := ['_', '_', 'A', '_', 'B'] }] }]

theorem answer_of_mixed :
    mixed.answer [] =
      ⟨some "'A.B' and '__A_B' in f both flatten to '__A_B'".toList, 1, []⟩ ∧
    ({ mixed with requested := [['g'], ['f']] } : Request).answer [] = mixed.answer [] := by
  rcases answer_is_all_or_nothing [] mixed with ⟨hanswered, _, _, _, hcongr⟩
  have hread : Options.ofParameter mixed.parameter = .ok ⟨['.', 'm']⟩ := by decide +kernel
  have hwanted : mixed.wanted = [mixed.files.headD {}] ++ mixed.files.getLastD {} :: [] := rfl
  have hfile : EsModule.ofFile [] (Registry.ofFiles mixed.files) ['.', 'm']
      (mixed.files.getLastD {}) =
        .error (.collision ⟨".A.B".toList, ".__A_B".toList, ['f'], "__A_B".toList⟩) := by
    decide +kernel
  constructor
  · refine ((hanswered _).mp (AnsweredBy.collided hread hwanted ?_ hfile)).symm
    intro other hother
    rw [List.mem_singleton.mp hother]
    exact ⟨_, rfl⟩
  · exact hcongr _ (by decide)

end Request
end ProtoModules
