import ProtoModules.Proofs.Drafting

/-!
# From a site to the sites in it

The sites right inside a message are one step further down.  A site that no map entry
hides is reached from the top of its file by such steps, through sites that no map
entry hides either.
-/

namespace ProtoModules

open Schema

namespace Site

/-!
## One step down
-/

theorem at?_append {enums : List Enum} {messages : List Message} {address : List Step}
    {site : Site} {message : Message} (hat : at? enums messages address = some site)
    (hdeclared : site.declared = .message message) (step : Step) :
    at? enums messages (address ++ [step]) =
      (at? message.enums message.nested [step]).map
        (under site.address (site.around ++ [message])) := by
  induction address generalizing enums messages site with
  | nil => simp [at?] at hat
  | cons first rest ih =>
      cases first with
      | enumeration index =>
          cases rest with
          | nil =>
              rcases Option.map_eq_some_iff.mp hat with ⟨enum, _, rfl⟩
              cases hdeclared
          | cons next more => simp [at?] at hat
      | message index =>
          cases rest with
          | nil =>
              rcases Option.map_eq_some_iff.mp hat with ⟨outer, houter, rfl⟩
              cases hdeclared
              simp [at?, houter]
          | cons next more =>
              rcases Option.bind_eq_some_iff.mp hat with ⟨outer, houter, hinner⟩
              rcases Option.map_eq_some_iff.mp hinner with ⟨inner, hdeeper, rfl⟩
              have hrest := ih hdeeper hdeclared
              simp only [List.cons_append] at hrest ⊢
              rw [at?, houter]
              simp [hrest, Function.comp_def]

theorem at?_of_mem_ofEnums {enums : List Enum} {messages : List Message} {site : Site}
    (hsite : site ∈ ofEnums 0 enums) :
    exists step, site.address = [step] ∧ at? enums messages [step] = some site := by
  rcases List.mem_map.mp hsite with ⟨⟨enum, index⟩, hnumbered, rfl⟩
  have henum := List.mk_mem_zipIdx_iff_getElem?.mp hnumbered
  exact ⟨.enumeration index, rfl, by simp [at?, henum]⟩

theorem at?_of_mem_ofMessages {enums : List Enum} {messages : List Message} {site : Site}
    (hsite : site ∈ ofMessages 0 messages) :
    exists step, site.address = [step] ∧ at? enums messages [step] = some site := by
  rcases List.mem_map.mp hsite with ⟨⟨message, index⟩, hnumbered, rfl⟩
  have hmessage := List.mk_mem_zipIdx_iff_getElem?.mp hnumbered
  exact ⟨.message index, rfl, by simp [at?, hmessage]⟩

/-- A child is one step further down than the site it is in, and gets an identifier too. -/
theorem standsIn_of_mem_children {file : File} {site child : Site} (hsite : site.StandsIn file)
    (hemitted : site.isEmitted = true) (hchild : child ∈ site.children) :
    child.StandsIn file ∧ child.isEmitted = true ∧
      exists step, child.address = site.address ++ [step] := by
  cases hdeclared : site.declared with
  | enumeration enum => simp [children, hdeclared] at hchild
  | message message =>
      simp only [children, hdeclared] at hchild
      rcases List.mem_map.mp hchild with ⟨inner, hinner, rfl⟩
      have hway : site.way = site.around ++ [message] := by simp [way, hdeclared]
      have houter : forall outer, outer ∈ (site.around ++ [message]).tail ->
          outer.isMapEntry = false := by
        rw [← hway]
        simpa [isEmitted] using hemitted
      have hplace : inner.isKept = true ∧ exists step, inner.address = [step] ∧
          at? message.enums message.nested [step] = some inner := by
        rcases List.mem_append.mp hinner with henum | hmessage
        · have hkept := henum
          rw [← filter_isKept_ofEnums] at hkept
          exact ⟨(List.mem_filter.mp hkept).2, at?_of_mem_ofEnums henum⟩
        · rcases List.mem_filter.mp hmessage with ⟨hmessage, hkept⟩
          exact ⟨hkept, at?_of_mem_ofMessages hmessage⟩
      rcases hplace with ⟨hkept, step, haddress, hat⟩
      refine ⟨?_, isEmitted_under_of_isKept houter hkept, step, by simp [haddress]⟩
      have hstep := at?_append hsite hdeclared step
      rw [hat] at hstep
      simpa [StandsIn, haddress] using hstep

/-!
## One step up
-/

theorem around_of_mem_children {site child : Site} (hchild : child ∈ site.children) :
    exists message, site.declared = .message message ∧
      child.around = site.around ++ [message] := by
  cases hdeclared : site.declared with
  | enumeration enum => simp [children, hdeclared] at hchild
  | message message =>
      simp only [children, hdeclared] at hchild
      rcases List.mem_map.mp hchild with ⟨inner, hinner, rfl⟩
      have haround : inner.around = [] := by
        rcases List.mem_append.mp hinner with henum | hmessage
        · rcases List.mem_map.mp henum with ⟨numbered, _, rfl⟩
          rfl
        · rcases List.mem_map.mp (List.mem_of_mem_filter hmessage) with ⟨numbered, _, rfl⟩
          rfl
      exact ⟨message, rfl, by simp [haround]⟩

theorem names_of_mem_children {site child : Site} (hchild : child ∈ site.children) :
    child.names = site.names ++ [child.declared.name] := by
  rcases around_of_mem_children hchild with ⟨message, hdeclared, haround⟩
  simp [names, haround, hdeclared, Declared.name]

theorem mem_children_under {site child : Site} (address : List Step) (around : List Message)
    (hchild : child ∈ site.children) :
    child.under address around ∈ (site.under address around).children := by
  cases hdeclared : site.declared with
  | enumeration enum => simp [children, hdeclared] at hchild
  | message message =>
      simp only [children, hdeclared] at hchild
      rcases List.mem_map.mp hchild with ⟨inner, hinner, rfl⟩
      simp only [children, under_declared, hdeclared]
      exact List.mem_map.mpr ⟨inner, hinner, by simp⟩

theorem mem_children_of_at? {enums : List Enum} {messages : List Message}
    {address : List Step} {site : Site} (hat : at? enums messages address = some site)
    (haround : site.around = []) (hkept : site.isKept = true) :
    site ∈ ofEnums 0 enums ++ (ofMessages 0 messages).filter isKept := by
  cases address with
  | nil => simp [at?] at hat
  | cons first rest =>
      cases rest with
      | nil =>
          cases first with
          | enumeration index =>
              rcases Option.map_eq_some_iff.mp hat with ⟨enum, henum, rfl⟩
              refine List.mem_append_left _ (List.mem_map.mpr ⟨(enum, index), ?_, rfl⟩)
              exact List.mk_mem_zipIdx_iff_getElem?.mpr henum
          | message index =>
              rcases Option.map_eq_some_iff.mp hat with ⟨message, hmessage, rfl⟩
              refine List.mem_append_right _ (List.mem_filter.mpr ⟨?_, hkept⟩)
              exact List.mem_map.mpr
                ⟨(message, index), List.mk_mem_zipIdx_iff_getElem?.mpr hmessage, rfl⟩
      | cons next more =>
          cases first with
          | enumeration index => simp [at?] at hat
          | message index =>
              rcases Option.bind_eq_some_iff.mp hat with ⟨message, _, hinner⟩
              rcases Option.map_eq_some_iff.mp hinner with ⟨inner, _, rfl⟩
              simp at haround

/-- A site inside a message is one of the sites right inside another site. -/
theorem exists_parent_of_at? {enums : List Enum} {messages : List Message}
    {address : List Step} {site : Site} (hat : at? enums messages address = some site)
    (haround : site.around ≠ []) (hkept : site.isKept = true) :
    exists parent : Site, at? enums messages parent.address = some parent ∧
      parent.isKept = true ∧ site ∈ parent.children := by
  induction address generalizing enums messages site with
  | nil => simp [at?] at hat
  | cons first rest ih =>
      cases rest with
      | nil =>
          cases first with
          | enumeration index =>
              rcases Option.map_eq_some_iff.mp hat with ⟨enum, _, rfl⟩
              exact absurd rfl haround
          | message index =>
              rcases Option.map_eq_some_iff.mp hat with ⟨message, _, rfl⟩
              exact absurd rfl haround
      | cons next more =>
          cases first with
          | enumeration index => simp [at?] at hat
          | message index =>
              rcases Option.bind_eq_some_iff.mp hat with ⟨message, hmessage, hinner⟩
              rcases Option.map_eq_some_iff.mp hinner with ⟨inner, hdeeper, rfl⟩
              rw [isKept_under_one, Bool.and_eq_true] at hkept
              by_cases htop : inner.around = []
              · refine ⟨⟨[.message index], [], .message message⟩, ?_, ?_, ?_⟩
                · simp [at?, hmessage]
                · simpa [isKept, way] using hkept.1
                · exact List.mem_map_of_mem (mem_children_of_at? hdeeper htop hkept.2)
              · rcases ih hdeeper htop hkept.2 with ⟨parent, hparent, hkeeps, hchild⟩
                refine ⟨parent.under [.message index] [message], ?_, ?_,
                  mem_children_under _ _ hchild⟩
                · cases haddress : parent.address with
                  | nil => simp [at?, haddress] at hparent
                  | cons step steps =>
                      rw [haddress] at hparent
                      simp [at?, haddress, hmessage, hparent]
                · rw [isKept_under_one, hkept.1, hkeeps]
                  rfl

end Site
end ProtoModules
