import ProtoModules.Proofs.Sites

/-!
# The order of a traversal

A traversal visits the sites of a file in an order that can be read off the steps
which lead to them.  Of two sites that part at some point, the steps at that point
decide; of a message and a site in it, the traversal decides.  The order is strict,
so no site is visited twice.
-/

namespace ProtoModules

open Schema

namespace Traversal

def StepBefore (order : Traversal) : Step -> Step -> Prop
  | .enumeration left, .enumeration right => left < right
  | .message left, .message right => left < right
  | .enumeration _, .message _ => order ≠ messagesFirst
  | .message _, .enumeration _ => order = messagesFirst

/-- Which of two sites is visited first, given the steps that lead to them. -/
def Before (order : Traversal) : List Step -> List Step -> Prop
  | [], [] => False
  | [], _ :: _ => order ≠ rootLast
  | _ :: _, [] => order = rootLast
  | left :: front, right :: back =>
      order.StepBefore left right ∨ (left = right ∧ order.Before front back)

theorem not_stepBefore_self (order : Traversal) (step : Step) : ¬ order.StepBefore step step := by
  cases step with
  | enumeration index => exact Nat.lt_irrefl index
  | message index => exact Nat.lt_irrefl index

theorem not_stepBefore_of_stepBefore {order : Traversal} {left right : Step}
    (hbefore : order.StepBefore left right) : ¬ order.StepBefore right left := by
  cases left with
  | enumeration first =>
      cases right with
      | enumeration second => exact Nat.not_lt_of_gt hbefore
      | message second => exact hbefore
  | message first =>
      cases right with
      | enumeration second => exact fun hne => hne hbefore
      | message second => exact Nat.not_lt_of_gt hbefore

theorem before_cons {order : Traversal} {step : Step} {front back : List Step} :
    order.Before (step :: front) (step :: back) ↔ order.Before front back := by
  simp [Before, not_stepBefore_self]

theorem before_append {order : Traversal} (shared : List Step) {front back : List Step} :
    order.Before (shared ++ front) (shared ++ back) ↔ order.Before front back := by
  induction shared with
  | nil => rfl
  | cons step rest ih => exact before_cons.trans ih

theorem not_before_self (order : Traversal) (address : List Step) :
    ¬ order.Before address address := by
  induction address with
  | nil => exact id
  | cons step rest ih => exact fun hbefore => ih (before_cons.mp hbefore)

theorem not_before_of_before {order : Traversal} {front back : List Step}
    (hbefore : order.Before front back) : ¬ order.Before back front := by
  induction front generalizing back with
  | nil =>
      cases back with
      | nil => exact absurd hbefore id
      | cons step rest => exact hbefore
  | cons left front ih =>
      cases back with
      | nil => exact fun hne => hne hbefore
      | cons right back =>
          rcases hbefore with hstep | ⟨rfl, hrest⟩
          · intro hother
            rcases hother with hback | ⟨rfl, _⟩
            · exact not_stepBefore_of_stepBefore hstep hback
            · exact not_stepBefore_self order right hstep
          · exact fun hback => ih hrest (before_cons.mp hback)

/-!
## Traversals keep to their order
-/

def Visits (order : Traversal) (first second : Site) : Prop :=
  order.Before first.address second.address

theorem visits_under {order : Traversal} {address : List Step} {around : List Message}
    {first second : Site} :
    order.Visits (first.under address around) (second.under address around) ↔
      order.Visits first second :=
  before_append address

theorem pairwise_map_under {order : Traversal} {address : List Step} {around : List Message}
    {sites : List Site} (hsites : sites.Pairwise order.Visits) :
    (sites.map (Site.under address around)).Pairwise order.Visits := by
  rw [List.pairwise_map]
  exact hsites.imp visits_under.mpr

theorem pairwise_zipIdx {α : Type} (index : Nat) (items : List α) :
    (items.zipIdx index).Pairwise fun first second => first.2 < second.2 := by
  rw [← List.pairwise_map, List.zipIdx_map_snd]
  exact List.pairwise_lt_range'

theorem pairwise_ofEnums (order : Traversal) (index : Nat) (enums : List Enum) :
    (Site.ofEnums index enums).Pairwise order.Visits := by
  rw [Site.ofEnums, List.pairwise_map]
  exact (pairwise_zipIdx index enums).imp fun hlt => Or.inl hlt

theorem pairwise_arrange {order : Traversal} {root enums nested : List Site}
    (hself : root.Pairwise order.Visits) (henums : enums.Pairwise order.Visits)
    (hnested : nested.Pairwise order.Visits)
    (hroot : forall outer inner, outer ∈ root -> inner ∈ enums ∨ inner ∈ nested ->
      if order = rootLast then order.Visits inner outer else order.Visits outer inner)
    (hparts : forall enum inner, enum ∈ enums -> inner ∈ nested ->
      if order = messagesFirst then order.Visits inner enum else order.Visits enum inner) :
    (order.arrange root enums nested).Pairwise order.Visits := by
  cases order with
  | messagesFirst =>
      simp only [reduceCtorEq, if_true, if_false] at hroot hparts
      refine List.pairwise_append.mpr ⟨hself, ?_, ?_⟩
      · exact List.pairwise_append.mpr
          ⟨hnested, henums, fun inner hinner enum henum => hparts enum inner henum hinner⟩
      · intro outer houter inner hinner
        exact hroot outer inner houter (List.mem_append.mp hinner).symm
  | enumsFirst =>
      simp only [reduceCtorEq, if_false] at hroot hparts
      refine List.pairwise_append.mpr ⟨hself, ?_, ?_⟩
      · exact List.pairwise_append.mpr
          ⟨henums, hnested, fun enum henum inner hinner => hparts enum inner henum hinner⟩
      · intro outer houter inner hinner
        exact hroot outer inner houter (List.mem_append.mp hinner)
  | rootLast =>
      simp only [reduceCtorEq, if_true, if_false] at hroot hparts
      refine List.pairwise_append.mpr ⟨henums, ?_, ?_⟩
      · exact List.pairwise_append.mpr
          ⟨hnested, hself, fun inner hinner outer houter =>
            hroot outer inner houter (Or.inr hinner)⟩
      · intro enum henum later hlater
        rcases List.mem_append.mp hlater with hinner | houter
        · exact hparts enum later henum hinner
        · exact hroot later enum houter (Or.inl henum)

theorem address_of_mem_ofEnums {index : Nat} {enums : List Enum} {site : Site}
    (hsite : site ∈ Site.ofEnums index enums) :
    exists place, site.address = [.enumeration place] := by
  rcases List.mem_map.mp hsite with ⟨numbered, _, rfl⟩
  exact ⟨numbered.2, rfl⟩

theorem address_of_mem_ofMessages {order : Traversal} {index : Nat} {messages : List Message}
    {site : Site} (hsite : site ∈ order.ofMessages index messages) :
    exists place rest, index ≤ place ∧ site.address = .message place :: rest := by
  rw [ofMessages_eq_flatMap] at hsite
  rcases List.mem_flatMap.mp hsite with ⟨numbered, hnumbered, hsite⟩
  rcases address_of_mem_ofMessage hsite with ⟨rest, hrest⟩
  exact ⟨numbered.2, rest, List.le_snd_of_mem_zipIdx hnumbered, hrest⟩

theorem visits_parts {order : Traversal} {enums : List Enum} {messages : List Message}
    {enum inner : Site} (henum : enum ∈ Site.ofEnums 0 enums)
    (hinner : inner ∈ order.ofMessages 0 messages) :
    if order = messagesFirst then order.Visits inner enum else order.Visits enum inner := by
  rcases address_of_mem_ofEnums henum with ⟨place, hplace⟩
  rcases address_of_mem_ofMessages hinner with ⟨index, rest, _, hrest⟩
  simp only [Visits, hplace, hrest]
  split
  · exact Or.inl ‹_›
  · exact Or.inl ‹_›

mutual

theorem pairwise_ofMessage (order : Traversal) (index : Nat) :
    forall message : Message, (order.ofMessage index message).Pairwise order.Visits
  | ⟨name, fields, nested, enums, isMapEntry⟩ => by
      rw [ofMessage]
      refine pairwise_arrange (List.pairwise_singleton _ _)
        (pairwise_map_under (pairwise_ofEnums order 0 enums))
        (pairwise_map_under (pairwise_ofMessages order 0 nested)) ?_ ?_
      · intro outer inner houter hinner
        rw [List.mem_singleton.mp houter]
        have hdeeper : exists step rest, inner.address = .message index :: step :: rest := by
          rcases hinner with hinner | hinner
          · rcases List.mem_map.mp hinner with ⟨site, hsite, rfl⟩
            rcases address_of_mem_ofEnums hsite with ⟨place, hplace⟩
            exact ⟨.enumeration place, [], by simp [hplace]⟩
          · rcases List.mem_map.mp hinner with ⟨site, hsite, rfl⟩
            rcases address_of_mem_ofMessages hsite with ⟨place, rest, _, hplace⟩
            exact ⟨.message place, rest, by simp [hplace]⟩
        rcases hdeeper with ⟨step, rest, haddress⟩
        simp only [Visits, haddress, before_cons]
        split
        · assumption
        · assumption
      · intro enum inner henum hinner
        rcases List.mem_map.mp henum with ⟨site, hsite, rfl⟩
        rcases List.mem_map.mp hinner with ⟨other, hother, rfl⟩
        simp only [visits_under]
        exact visits_parts hsite hother

theorem pairwise_ofMessages (order : Traversal) (index : Nat) :
    forall messages : List Message, (order.ofMessages index messages).Pairwise order.Visits
  | [] => List.Pairwise.nil
  | message :: rest => by
      rw [ofMessages]
      refine List.pairwise_append.mpr ⟨pairwise_ofMessage order index message,
        pairwise_ofMessages order (index + 1) rest, ?_⟩
      intro first hfirst second hsecond
      rcases address_of_mem_ofMessage hfirst with ⟨front, hfront⟩
      rcases address_of_mem_ofMessages hsecond with ⟨place, back, hplace, hback⟩
      rw [Visits, hfront, hback]
      exact Or.inl hplace

end

/-- The sites right inside a site come in the order of emission. -/
theorem pairwise_children (site : Site) : site.children.Pairwise rootLast.Visits := by
  cases hdeclared : site.declared with
  | enumeration enum =>
      simp only [Site.children, hdeclared]
      exact List.Pairwise.nil
  | message message =>
      simp only [Site.children, hdeclared]
      refine pairwise_map_under (List.pairwise_append.mpr ⟨pairwise_ofEnums _ 0 _, ?_, ?_⟩)
      · refine List.Pairwise.filter _ ?_
        rw [Site.ofMessages, List.pairwise_map]
        exact (pairwise_zipIdx 0 message.nested).imp fun hlt => Or.inl hlt
      · intro enum henum inner hinner
        rcases address_of_mem_ofEnums henum with ⟨place, hplace⟩
        rcases List.mem_map.mp (List.mem_of_mem_filter hinner) with ⟨numbered, _, rfl⟩
        rw [Visits, hplace]
        have hne : rootLast ≠ messagesFirst := by decide
        exact Or.inl hne

theorem nodup_address_of_pairwise {order : Traversal} {sites : List Site}
    (hsites : sites.Pairwise order.Visits) : (sites.map Site.address).Nodup := by
  rw [List.nodup_iff_pairwise_ne, List.pairwise_map]
  refine hsites.imp fun {first second} hvisits heq => ?_
  rw [Visits, heq] at hvisits
  exact not_before_self _ _ hvisits

theorem pairwise_ofFile (order : Traversal) (file : File) :
    (order.ofFile file).Pairwise order.Visits := by
  refine pairwise_arrange List.Pairwise.nil (pairwise_ofEnums order 0 file.enums)
    (pairwise_ofMessages order 0 file.messages) ?_ ?_
  · intro outer inner houter
    cases houter
  · intro enum inner henum hinner
    exact visits_parts henum hinner

end Traversal
end ProtoModules
