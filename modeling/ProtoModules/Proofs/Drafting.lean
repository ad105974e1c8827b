import ProtoModules.Proofs.SiteNames

/-!
# What a draft comes to

A draft claims identifiers on the way down and emits declarations on the way up,
in one recursion that may stop at a collision.  This module takes the two apart.
Claiming is a fold over the sites of the file, in the order of the claims, and it
alone can fail.  What is emitted is a list of pictures of the same sites, in the
order of emission, and depends on no claim.
-/

namespace ProtoModules

open Schema

namespace Site

def label (package : Text) (site : Site) : Text :=
  Draft.identifierFor package (site.fullName package) (!site.around.isEmpty)

end Site

namespace Draft

def register (file : File) (claims : List (Text × Text)) (site : Site) :
    Except Collision (List (Text × Text)) :=
  let identifier := site.label file.package
  let fullName := site.fullName file.package
  match claims.lookup identifier with
  | none => .ok ((identifier, fullName) :: claims)
  | some other =>
      if other = fullName then .ok claims
      else .error ⟨other, fullName, file.name, identifier⟩

def registerAll (file : File) (claims : List (Text × Text)) (sites : List Site) :
    Except Collision (List (Text × Text)) :=
  sites.foldlM (register file) claims

def aliasOf (package : Text) (site : Site) : Alias where
  name := site.declared.name
  target := site.label package

/-- The declaration of a module that stands for a site. -/
def unitOf (scope : Scope) (site : Site) : Declaration :=
  match site.declared with
  | .enumeration enum =>
      .enumeration {
        identifier := site.label scope.file.package
        name := enum.name
        fullName := TypeName.shown (site.fullName scope.file.package)
        values := enum.values
        exported := site.around.isEmpty }
  | .message message =>
      .message {
        identifier := site.label scope.file.package
        name := message.name
        fullName := TypeName.shown (site.fullName scope.file.package)
        members := message.fields.map (memberOf scope)
        aliases := site.children.map (aliasOf scope.file.package)
        exported := site.around.isEmpty }

/-- The sites of a file that get an identifier, in the order of the claims. -/
def claimed (file : File) : List Site :=
  (Traversal.enumsFirst.ofFile file).filter Site.isEmitted

/-- The sites of a file that get an identifier, in the order of emission. -/
def emitted (file : File) : List Site :=
  (Traversal.rootLast.ofFile file).filter Site.isEmitted

@[simp] theorem identifier_unitOf (scope : Scope) (site : Site) :
    (unitOf scope site).identifier = site.label scope.file.package := by
  unfold unitOf
  cases site.declared <;> rfl

theorem registerAll_nil (file : File) (claims : List (Text × Text)) :
    registerAll file claims [] = .ok claims := rfl

theorem registerAll_cons (file : File) (claims : List (Text × Text)) (site : Site)
    (rest : List Site) :
    registerAll file claims (site :: rest) =
      (register file claims site).bind fun claims => registerAll file claims rest := rfl

theorem registerAll_append (file : File) (claims : List (Text × Text))
    (front back : List Site) :
    registerAll file claims (front ++ back) =
      (registerAll file claims front).bind fun claims => registerAll file claims back :=
  List.foldlM_append

end Draft

/-!
## Which sites get an identifier
-/

namespace Site

theorem filter_isKept_ofEnums (index : Nat) (enums : List Enum) :
    (ofEnums index enums).filter isKept = ofEnums index enums := by
  rw [List.filter_eq_self]
  intro site hsite
  rcases List.mem_map.mp hsite with ⟨numbered, _, rfl⟩
  rfl

theorem filter_isEmitted_ofEnums (index : Nat) (enums : List Enum) :
    (ofEnums index enums).filter isEmitted = ofEnums index enums := by
  rw [List.filter_eq_self]
  intro site hsite
  rcases List.mem_map.mp hsite with ⟨numbered, _, rfl⟩
  rfl

end Site

namespace Traversal

theorem filter_isEmitted_ofMessage (order : Traversal) (index : Nat) (message : Message) :
    (order.ofMessage index message).filter Site.isEmitted =
      order.arrange [⟨[.message index], [], .message message⟩]
        ((Site.ofEnums 0 message.enums).map (Site.under [.message index] [message]))
        (((order.ofMessages 0 message.nested).filter Site.isKept).map
          (Site.under [.message index] [message])) := by
  have hinside : forall sites : List Site,
      (sites.map (Site.under [.message index] [message])).filter Site.isEmitted =
        (sites.filter Site.isKept).map (Site.under [.message index] [message]) := by
    intro sites
    rw [List.filter_map]
    congr 2
    funext site
    exact Site.isEmitted_under_one _ message site
  rw [ofMessage_eq, filter_arrange, hinside, hinside, Site.filter_isKept_ofEnums]
  rfl

/-- Below the top of a file, a map entry is left out with everything in it. -/
theorem filter_isKept_ofMessage (order : Traversal) (index : Nat) (message : Message) :
    (order.ofMessage index message).filter Site.isKept =
      if message.isMapEntry then []
      else (order.ofMessage index message).filter Site.isEmitted := by
  have hsplit : forall site, site ∈ order.ofMessage index message ->
      site.isKept = (!message.isMapEntry && site.isEmitted) := by
    intro site hsite
    rcases mem_ofMessage.mp hsite with rfl | ⟨inner, _, rfl⟩
    · simp [Site.isKept, Site.isEmitted, Site.way]
    · rw [Site.isKept_under_one, Site.isEmitted_under_one]
  rw [List.filter_congr hsplit]
  cases message.isMapEntry with
  | true => simp
  | false => simp

end Traversal

/-!
## Claims and declarations apart

The recursion below a message has to be followed with the messages around it and
the draft so far as variables, since both grow on the way.
-/

namespace Draft

def extend {α : Type} (scope : Scope) (draft : Draft) (value : α)
    (claiming emitting : List Site) : Except Collision (α × Draft) :=
  (registerAll scope.file draft.claims claiming).map fun claims =>
    (value, ⟨claims, draft.declarations ++ emitting.map (unitOf scope)⟩)

theorem extend_bind {α β : Type} {scope : Scope} {draft : Draft} {first : α} {second : β}
    {front back early late : List Site}
    {continuation : α × Draft -> Except Collision (β × Draft)}
    (hcontinuation : forall next,
      continuation (first, next) = extend scope next second back late) :
    extend scope draft first front early >>= continuation =
      extend scope draft second (front ++ back) (early ++ late) := by
  simp only [extend, registerAll_append]
  cases registerAll scope.file draft.claims front with
  | error collision => rfl
  | ok claims =>
      simp only [Except.map, Bind.bind, Except.bind]
      rw [hcontinuation]
      simp [extend, Except.map]

theorem pure_eq_extend {α : Type} (scope : Scope) (draft : Draft) (value : α) :
    Except.ok (value, draft) = extend scope draft value [] [] := by
  simp [extend, registerAll_nil, Except.map]

theorem emit_eq_extend {α : Type} (scope : Scope) (draft : Draft) (value : α) (site : Site) :
    Except.ok (value, draft.emit (unitOf scope site)) =
      extend scope draft value [] [site] := by
  simp [extend, registerAll_nil, Except.map, emit]

theorem extend_bind_value {α β : Type} {scope : Scope} {draft : Draft} {first : α}
    {second : β} {claiming emitting : List Site}
    {continuation : α × Draft -> Except Collision (β × Draft)}
    (hcontinuation : forall next, continuation (first, next) = .ok (second, next)) :
    extend scope draft first claiming emitting >>= continuation =
      extend scope draft second claiming emitting := by
  have hbind : extend scope draft first claiming emitting >>= continuation =
      extend scope draft second (claiming ++ []) (emitting ++ []) :=
    extend_bind fun next => (hcontinuation next).trans (pure_eq_extend scope next second)
  simpa using hbind

theorem extend_bind_emit {α β : Type} {scope : Scope} {draft : Draft} {first : α}
    {second : β} {claiming emitting : List Site} {site : Site}
    {continuation : α × Draft -> Except Collision (β × Draft)}
    (hcontinuation : forall next,
      continuation (first, next) = .ok (second, next.emit (unitOf scope site))) :
    extend scope draft first claiming emitting >>= continuation =
      extend scope draft second claiming (emitting ++ [site]) := by
  have hbind : extend scope draft first claiming emitting >>= continuation =
      extend scope draft second (claiming ++ []) (emitting ++ [site]) :=
    extend_bind fun next => (hcontinuation next).trans (emit_eq_extend scope next second site)
  simpa using hbind

theorem claim_eq_extend (scope : Scope) (draft : Draft) (site : Site) {name : Text}
    {around : List Message} (hname : site.declared.name = name)
    (haround : site.around = around) :
    draft.claim scope.file
        (TypeName.full scope.file.package (parentName scope.file.package around) name)
        (!(parentName scope.file.package around).isEmpty) =
      extend scope draft (site.label scope.file.package) [site] [] := by
  rw [← hname, ← haround, Site.full_parentName_around, isEmpty_parentName, claim, extend,
    registerAll_cons, register]
  change (match draft.claims.lookup (site.label scope.file.package) with
    | none => _
    | some _ => _) = _
  cases draft.claims.lookup (site.label scope.file.package) with
  | none => simp [Except.bind, Except.map, registerAll_nil, Site.label]
  | some other =>
      by_cases hother : other = site.fullName scope.file.package
      · simp [hother, Except.bind, Except.map, registerAll_nil, Site.label]
      · simp [hother, Except.bind, Except.map, Site.label]

theorem addEnum_eq_extend (scope : Scope) (draft : Draft) (site : Site) {enum : Enum}
    {around : List Message} (hdeclared : site.declared = .enumeration enum)
    (haround : site.around = around) :
    addEnum scope (parentName scope.file.package around) draft enum =
      extend scope draft (site.label scope.file.package) [site] [site] := by
  have hname : site.declared.name = enum.name := by rw [hdeclared]; rfl
  have hunit : unitOf scope site = .enumeration {
      identifier := site.label scope.file.package
      name := enum.name
      fullName := TypeName.shown (TypeName.full scope.file.package
        (parentName scope.file.package around) enum.name)
      values := enum.values
      exported := !!(parentName scope.file.package around).isEmpty } := by
    rw [← hname, ← haround, Site.full_parentName_around, unitOf, hdeclared]
    simp [Declared.name]
  rw [addEnum, claim_eq_extend scope draft site hname haround]
  refine extend_bind_emit fun next => ?_
  rw [hunit]
  rfl

theorem addEnums_eq_extend (scope : Scope) (address : List Step) (around : List Message)
    (draft : Draft) (index : Nat) (enums : List Enum) :
    addEnums scope (parentName scope.file.package around) draft enums =
      extend scope draft
        (((Site.ofEnums index enums).map (Site.under address around)).map
          (aliasOf scope.file.package))
        ((Site.ofEnums index enums).map (Site.under address around))
        ((Site.ofEnums index enums).map (Site.under address around)) := by
  induction enums generalizing draft index with
  | nil => exact pure_eq_extend scope draft []
  | cons enum rest ih =>
      have hsites : (Site.ofEnums index (enum :: rest)).map (Site.under address around) =
          [Site.under address around ⟨[.enumeration index], [], .enumeration enum⟩] ++
            (Site.ofEnums (index + 1) rest).map (Site.under address around) := rfl
      rw [hsites, addEnums, addEnum_eq_extend scope draft
        (Site.under address around ⟨[.enumeration index], [], .enumeration enum⟩) rfl
        (List.append_nil around)]
      refine extend_bind fun next => ?_
      simp only [ih next (index + 1)]
      exact extend_bind_value fun last => rfl

-- A message claims before its enums and the messages in it, and emits after them, so
-- the four parts come together in the order of the claims and in that of emission.
theorem addMessage_eq_extend_of_addNested (scope : Scope) (draft : Draft) (site : Site)
    {message : Message} {around : List Message} {claiming emitting : List Site}
    (hdeclared : site.declared = .message message) (haround : site.around = around)
    (hnested : forall next,
      addNested scope (parentName scope.file.package (around ++ [message])) next
          message.nested =
        extend scope next
          ((((Site.ofMessages 0 message.nested).filter Site.isKept).map
            (Site.under site.address (around ++ [message]))).map (aliasOf scope.file.package))
          claiming emitting) :
    addMessage scope (parentName scope.file.package around) draft message =
      extend scope draft (site.label scope.file.package)
        (Traversal.enumsFirst.arrange [site]
          ((Site.ofEnums 0 message.enums).map (Site.under site.address (around ++ [message])))
          claiming)
        (Traversal.rootLast.arrange [site]
          ((Site.ofEnums 0 message.enums).map (Site.under site.address (around ++ [message])))
          emitting) := by
  have hname : site.declared.name = message.name := by rw [hdeclared]; rfl
  have hunit : unitOf scope site = .message {
      identifier := site.label scope.file.package
      name := message.name
      fullName := TypeName.shown (TypeName.full scope.file.package
        (parentName scope.file.package around) message.name)
      members := message.fields.map (memberOf scope)
      aliases :=
        ((Site.ofEnums 0 message.enums).map
          (Site.under site.address (around ++ [message]))).map (aliasOf scope.file.package) ++
        (((Site.ofMessages 0 message.nested).filter Site.isKept).map
          (Site.under site.address (around ++ [message]))).map (aliasOf scope.file.package)
      exported := !!(parentName scope.file.package around).isEmpty } := by
    rw [← hname, ← haround, Site.full_parentName_around, unitOf, hdeclared]
    simp [Declared.name, Site.children, hdeclared]
  have henums := fun next => addEnums_eq_extend scope site.address (around ++ [message]) next 0
    message.enums
  rw [parentName_snoc] at hnested henums
  cases message with
  | mk name fields nested enums isMapEntry =>
      rw [addMessage, claim_eq_extend scope draft site hname haround]
      refine extend_bind fun claimed => ?_
      simp only [henums]
      refine extend_bind fun enumerated => ?_
      simp only [hnested]
      refine extend_bind_emit fun last => ?_
      rw [hunit]
      rfl

mutual

theorem addMessage_eq_extend (scope : Scope) (address : List Step) (around : List Message)
    (draft : Draft) (index : Nat) :
    forall message : Message,
      addMessage scope (parentName scope.file.package around) draft message =
        extend scope draft
          (Site.label scope.file.package
            (Site.under address around ⟨[.message index], [], .message message⟩))
          (((Traversal.enumsFirst.ofMessage index message).filter Site.isEmitted).map
            (Site.under address around))
          (((Traversal.rootLast.ofMessage index message).filter Site.isEmitted).map
            (Site.under address around))
  | ⟨name, fields, nested, enums, isMapEntry⟩ => by
      have hstep := addMessage_eq_extend_of_addNested scope draft
        (Site.under address around
          ⟨[.message index], [], .message ⟨name, fields, nested, enums, isMapEntry⟩⟩)
        rfl (List.append_nil around)
        (fun next => addNested_eq_extend scope _ _ next 0 nested)
      rw [hstep, Traversal.filter_isEmitted_ofMessage, Traversal.filter_isEmitted_ofMessage,
        Traversal.map_arrange, Traversal.map_arrange]
      simp [Function.comp_def]

theorem addNested_eq_extend (scope : Scope) (address : List Step) (around : List Message)
    (draft : Draft) (index : Nat) :
    forall messages : List Message,
      addNested scope (parentName scope.file.package around) draft messages =
        extend scope draft
          ((((Site.ofMessages index messages).filter Site.isKept).map
            (Site.under address around)).map (aliasOf scope.file.package))
          (((Traversal.enumsFirst.ofMessages index messages).filter Site.isKept).map
            (Site.under address around))
          (((Traversal.rootLast.ofMessages index messages).filter Site.isKept).map
            (Site.under address around))
  | [] => by
      rw [addNested]
      exact pure_eq_extend scope draft []
  | message :: rest => by
      have hroot : Site.isKept ⟨[.message index], [], .message message⟩ =
          !message.isMapEntry := by simp [Site.isKept, Site.way]
      have hrest := fun next => addNested_eq_extend scope address around next (index + 1) rest
      simp only [Traversal.ofMessages, List.filter_append, Traversal.filter_isKept_ofMessage,
        List.map_append]
      rw [addNested]
      cases hentry : message.isMapEntry with
      | true =>
          have haliases : (Site.ofMessages index (message :: rest)).filter Site.isKept =
              (Site.ofMessages (index + 1) rest).filter Site.isKept := by
            simp [Site.ofMessages, hroot, hentry]
          simp only [if_true, hrest, haliases, List.map_nil, List.nil_append]
      | false =>
          have haliases : (Site.ofMessages index (message :: rest)).filter Site.isKept =
              ⟨[.message index], [], .message message⟩ ::
                (Site.ofMessages (index + 1) rest).filter Site.isKept := by
            simp [Site.ofMessages, hroot, hentry]
          simp only [Bool.false_eq_true, if_false, haliases]
          rw [addMessage_eq_extend scope address around draft index message]
          refine extend_bind fun next => ?_
          simp only [hrest]
          exact extend_bind_value fun last => rfl

end

theorem addMessages_eq (scope : Scope) (draft : Draft) (index : Nat)
    (messages : List Message) :
    addMessages scope draft messages =
      (registerAll scope.file draft.claims
        ((Traversal.enumsFirst.ofMessages index messages).filter Site.isEmitted)).map
          fun claims => ⟨claims, draft.declarations ++
            ((Traversal.rootLast.ofMessages index messages).filter Site.isEmitted).map
              (unitOf scope)⟩ := by
  induction messages generalizing draft index with
  | nil => simp [addMessages, Traversal.ofMessages, registerAll_nil, Except.map]
  | cons message rest ih =>
      have hmessage := addMessage_eq_extend scope [] [] draft index message
      rw [parentName_nil, Site.map_under_nil, Site.map_under_nil] at hmessage
      simp only [Traversal.ofMessages, List.filter_append, registerAll_append]
      rw [addMessages, hmessage, extend]
      cases registerAll scope.file draft.claims
          ((Traversal.enumsFirst.ofMessage index message).filter Site.isEmitted) with
      | error collision => rfl
      | ok claims =>
          simp only [Except.map, Bind.bind, Except.bind]
          rw [ih _ (index + 1)]
          simp [Except.map]

theorem claimed_eq (file : File) :
    claimed file = Site.ofEnums 0 file.enums ++
      (Traversal.enumsFirst.ofMessages 0 file.messages).filter Site.isEmitted := by
  rw [claimed, Traversal.ofFile, Traversal.below, Traversal.filter_arrange,
    Site.filter_isEmitted_ofEnums]
  rfl

theorem emitted_eq (file : File) :
    emitted file = Site.ofEnums 0 file.enums ++
      (Traversal.rootLast.ofMessages 0 file.messages).filter Site.isEmitted := by
  rw [emitted, Traversal.ofFile, Traversal.below, Traversal.filter_arrange,
    Site.filter_isEmitted_ofEnums]
  simp [Traversal.arrange]

/-- A draft is what claiming comes to, and pictures of the sites it was made for. -/
theorem ofScope_eq (scope : Scope) :
    ofScope scope =
      (registerAll scope.file [] (claimed scope.file)).map fun claims =>
        ⟨claims, (emitted scope.file).map (unitOf scope)⟩ := by
  have henums := addEnums_eq_extend scope [] [] {} 0 scope.file.enums
  rw [parentName_nil, Site.map_under_nil] at henums
  rw [ofScope, henums, claimed_eq, emitted_eq, extend, registerAll_append]
  cases registerAll scope.file [] (Site.ofEnums 0 scope.file.enums) with
  | error collision => rfl
  | ok claims =>
      simp only [Except.map, Bind.bind, Except.bind]
      rw [addMessages_eq scope _ 0]
      simp [Except.map]

theorem ofScope_eq_error_iff {scope : Scope} {collision : Collision} :
    ofScope scope = .error collision ↔
      registerAll scope.file [] (claimed scope.file) = .error collision := by
  rw [ofScope_eq]
  cases registerAll scope.file [] (claimed scope.file) with
  | error found => simp [Except.map]
  | ok claims => simp [Except.map]

theorem ofScope_eq_ok_iff {scope : Scope} {draft : Draft} :
    ofScope scope = .ok draft ↔
      exists claims, registerAll scope.file [] (claimed scope.file) = .ok claims ∧
        draft = ⟨claims, (emitted scope.file).map (unitOf scope)⟩ := by
  rw [ofScope_eq]
  cases registerAll scope.file [] (claimed scope.file) with
  | error found => simp [Except.map]
  | ok claims => simp [Except.map, eq_comm]

theorem map_identifier_of_ofScope {scope : Scope} {draft : Draft}
    (hok : ofScope scope = .ok draft) :
    draft.declarations.map Declaration.identifier =
      (emitted scope.file).map (Site.label scope.file.package) := by
  rcases ofScope_eq_ok_iff.mp hok with ⟨claims, _, rfl⟩
  rw [List.map_map]
  exact List.map_congr_left fun site _ => identifier_unitOf scope site

theorem emitted_perm_claimed (file : File) : (emitted file).Perm (claimed file) :=
  (Traversal.ofFile_perm .rootLast .enumsFirst file).filter Site.isEmitted

theorem mem_emitted {file : File} {site : Site} :
    site ∈ emitted file ↔ site.StandsIn file ∧ site.isEmitted = true := by
  rw [emitted, List.mem_filter, Traversal.mem_ofFile]

end Draft
end ProtoModules
