import ProtoModules.Options

/-!
# What a parameter says

A parameter is read item by item.  An item is blank, it sets the extension, or it is mistaken;
which of the three it is depends on the item alone, and not on what was read before it.  So a
parameter can be read exactly if no item is mistaken.  Then the last item that is not blank has
set the extension, and otherwise the first mistaken item is to blame.
-/

namespace ProtoModules
namespace Options

/-!
## Items
-/

/--
The key and the value of an item.  The key ends at the first equals sign and the value follows
it, and blanks around the item and around both of them do not count.  An item without an equals
sign is a key that has no value.
-/
inductive Reads (item : Text) : Text -> Option Text -> Prop where
  | pair {key value : Text} : Text.trim item = key ++ '=' :: value -> '=' ∉ key ->
      Reads item (Text.trim key) (some (Text.trim value))
  | lone : '=' ∉ Text.trim item -> Reads item (Text.trim item) none

def Sets (item value : Text) : Prop :=
  Reads item "extension".toList (some value) ∧ exists c rest, value = '.' :: c :: rest

def IsInOrder (item : Text) : Prop :=
  Text.trim item = [] ∨ exists value, Sets item value

/-- The mistake in an item: a key that is unknown, or else a value that is no extension. -/
inductive Mistakes (parameter item : Text) : Error -> Prop where
  | unknown {key : Text} {value : Option Text} :
      Reads item key value -> key ≠ "extension".toList ->
      Mistakes parameter item (.unknownOption key parameter)
  | invalid {value : Option Text} :
      Reads item "extension".toList value ->
      (forall c rest, value ≠ some ('.' :: c :: rest)) ->
      Mistakes parameter item (.invalidExtension (value.getD []))

theorem exists_reads (item : Text) : exists key value, Reads item key value := by
  cases hcut : Text.cutFirst '=' (Text.trim item) with
  | none => exact ⟨_, _, Reads.lone (Text.cutFirst_eq_none.mp hcut)⟩
  | some halves =>
      rcases Text.cutFirst_eq_some hcut with ⟨hitem, hkey⟩
      exact ⟨_, _, Reads.pair hitem hkey⟩

theorem Reads.unique {item key otherKey : Text} {value otherValue : Option Text}
    (hreads : Reads item key value) (hother : Reads item otherKey otherValue) :
    key = otherKey ∧ value = otherValue := by
  cases hreads with
  | @pair front back hitem hkey =>
      cases hother with
      | pair hsame hothers =>
          have hcut := Text.cutFirst_append hkey back
          rw [← hitem, hsame, Text.cutFirst_append hothers] at hcut
          cases hcut
          exact ⟨rfl, rfl⟩
      | lone hnone => exact absurd (by simp [hitem]) hnone
  | lone hnone =>
      cases hother with
      | pair hsame _ => exact absurd (by simp [hsame]) hnone
      | lone _ => exact ⟨rfl, rfl⟩

theorem isExtension_iff {value : Text} :
    isExtension value = true ↔ exists c rest, value = '.' :: c :: rest := by
  match value with
  | [] => simp [isExtension]
  | [_] => simp [isExtension]
  | first :: c :: rest => simp [isExtension]

/-- What is made of an item depends on its key and its value. -/
theorem readEntry_of_reads {item key : Text} {value : Option Text} (hreads : Reads item key value)
    (parameter : Text) (options : Options) :
    readEntry parameter options (Text.trim item) =
      if key = extensionKey then
        match value with
        | some value =>
            if isExtension value then .ok { options with extension := value }
            else .error (.invalidExtension value)
        | none => .error (.invalidExtension [])
      else .error (.unknownOption key parameter) := by
  unfold readEntry
  cases hreads with
  | pair hitem hkey => rw [hitem, Text.cutFirst_append hkey]
  | lone hnone => rw [Text.cutFirst_eq_none.mpr hnone, Text.trim_trim]

theorem readItem_of_trim_ne_nil {item : Text} (hsome : Text.trim item ≠ []) (parameter : Text)
    (options : Options) :
    readItem parameter options item = readEntry parameter options (Text.trim item) := by
  unfold readItem
  split
  · rename_i hblank
    exact absurd hblank hsome
  · rfl

theorem Mistakes.unique {parameter item : Text} {error other : Error}
    (hmistakes : Mistakes parameter item error) (hother : Mistakes parameter item other) :
    error = other := by
  cases hmistakes with
  | unknown hreads hkey =>
      cases hother with
      | unknown hsame _ => rw [(hreads.unique hsame).1]
      | invalid hsame _ => exact absurd (hreads.unique hsame).1 hkey
  | invalid hreads _ =>
      cases hother with
      | unknown hsame hkey => exact absurd (hsame.unique hreads).1 hkey
      | invalid hsame _ => rw [(hreads.unique hsame).2]

theorem Mistakes.not_sets {parameter item value : Text} {error : Error}
    (hmistakes : Mistakes parameter item error) : ¬ Sets item value := by
  intro hsets
  rcases hsets with ⟨hpair, c, rest, rfl⟩
  cases hmistakes with
  | unknown hreads hkey => exact hkey (hreads.unique hpair).1
  | invalid hreads hvalue => exact hvalue c rest (hreads.unique hpair).2

/-- An item that is not blank sets the extension or is mistaken, whatever was read before it. -/
theorem readEntry_cases (parameter item : Text) :
    (exists value, Sets item value ∧ forall options,
      readEntry parameter options (Text.trim item) = .ok ⟨value⟩) ∨
    (exists error, Mistakes parameter item error ∧ forall options,
      readEntry parameter options (Text.trim item) = .error error) := by
  rcases exists_reads item with ⟨key, value, hreads⟩
  have hread := readEntry_of_reads hreads parameter
  by_cases hkey : key = extensionKey
  · simp only [if_pos hkey] at hread
    rw [hkey] at hreads
    cases value with
    | none => exact Or.inr ⟨_, Mistakes.invalid hreads (by simp), hread⟩
    | some value =>
        by_cases hvalue : isExtension value = true
        · simp only [if_pos hvalue] at hread
          exact Or.inl ⟨value, ⟨hreads, isExtension_iff.mp hvalue⟩, hread⟩
        · simp only [if_neg hvalue] at hread
          refine Or.inr ⟨_, Mistakes.invalid hreads ?_, hread⟩
          intro c rest hsome
          exact hvalue (isExtension_iff.mpr ⟨c, rest, Option.some.inj hsome⟩)
  · simp only [if_neg hkey] at hread
    exact Or.inr ⟨_, Mistakes.unknown hreads hkey, hread⟩

/-- What one item comes to. -/
theorem readItem_cases (parameter item : Text) :
    (Text.trim item = [] ∧ forall options, readItem parameter options item = .ok options) ∨
    (exists value, Sets item value ∧ forall options,
      readItem parameter options item = .ok ⟨value⟩) ∨
    (exists error, ¬ IsInOrder item ∧ Mistakes parameter item error ∧ forall options,
      readItem parameter options item = .error error) := by
  by_cases hblank : Text.trim item = []
  · refine Or.inl ⟨hblank, fun options => ?_⟩
    rw [readItem, hblank]
  · have hread := readItem_of_trim_ne_nil hblank parameter
    rcases readEntry_cases parameter item with ⟨value, hsets, hentry⟩ | ⟨error, hmistakes, hentry⟩
    · exact Or.inr (Or.inl ⟨value, hsets, fun options => (hread options).trans (hentry options)⟩)
    · refine Or.inr (Or.inr ⟨error, ?_, hmistakes,
        fun options => (hread options).trans (hentry options)⟩)
      intro horder
      rcases horder with hnone | ⟨value, hsets⟩
      · exact hblank hnone
      · exact hmistakes.not_sets hsets

/-!
## Lists of items
-/

/--
The extension that some items leave: the one that the last item that is not blank sets, or the
one from before if all are blank.
-/
def Leaves (before : Text) (items : List Text) (extension : Text) : Prop :=
  (extension = before ∧ forall item, item ∈ items -> Text.trim item = []) ∨
  exists front item back, items = front ++ item :: back ∧ Sets item extension ∧
    forall other, other ∈ back -> Text.trim other = []

theorem leaves_cons_of_blank {before item extension : Text} {items : List Text}
    (hblank : Text.trim item = []) (hleaves : Leaves before items extension) :
    Leaves before (item :: items) extension := by
  rcases hleaves with ⟨hsame, hitems⟩ | ⟨front, last, back, rfl, hsets, hback⟩
  · exact Or.inl ⟨hsame, List.forall_mem_cons.mpr ⟨hblank, hitems⟩⟩
  · exact Or.inr ⟨item :: front, last, back, rfl, hsets, hback⟩

theorem leaves_cons_of_sets {before item value extension : Text} {items : List Text}
    (hsets : Sets item value) (hleaves : Leaves value items extension) :
    Leaves before (item :: items) extension := by
  rcases hleaves with ⟨rfl, hitems⟩ | ⟨front, last, back, rfl, hlast, hback⟩
  · exact Or.inr ⟨[], item, items, rfl, hsets, hitems⟩
  · exact Or.inr ⟨item :: front, last, back, rfl, hlast, hback⟩

theorem leaves_of_foldlM {parameter : Text} {items : List Text} {options last : Options}
    (hread : items.foldlM (readItem parameter) options = .ok last) :
    (forall item, item ∈ items -> IsInOrder item) ∧
      Leaves options.extension items last.extension := by
  induction items generalizing options with
  | nil =>
      cases hread
      exact ⟨fun _ hitem => absurd hitem List.not_mem_nil,
        Or.inl ⟨rfl, fun _ hitem => absurd hitem List.not_mem_nil⟩⟩
  | cons item rest ih =>
      rw [List.foldlM_cons] at hread
      rcases readItem_cases parameter item with
        ⟨hblank, hitem⟩ | ⟨value, hsets, hitem⟩ | ⟨error, _, _, hitem⟩
      · rw [hitem] at hread
        rcases ih hread with ⟨hrest, hleaves⟩
        exact ⟨List.forall_mem_cons.mpr ⟨Or.inl hblank, hrest⟩,
          leaves_cons_of_blank hblank hleaves⟩
      · rw [hitem] at hread
        rcases ih hread with ⟨hrest, hleaves⟩
        exact ⟨List.forall_mem_cons.mpr ⟨Or.inr ⟨value, hsets⟩, hrest⟩,
          leaves_cons_of_sets hsets hleaves⟩
      · rw [hitem] at hread
        cases hread

theorem exists_foldlM_eq_ok (parameter : Text) {items : List Text}
    (hitems : forall item, item ∈ items -> IsInOrder item) (options : Options) :
    exists last, items.foldlM (readItem parameter) options = .ok last := by
  induction items generalizing options with
  | nil => exact ⟨options, rfl⟩
  | cons item rest ih =>
      rw [List.forall_mem_cons] at hitems
      rw [List.foldlM_cons]
      rcases readItem_cases parameter item with
        ⟨_, hitem⟩ | ⟨value, _, hitem⟩ | ⟨error, hmistaken, _, _⟩
      · rw [hitem]
        exact ih hitems.2 options
      · rw [hitem]
        exact ih hitems.2 ⟨value⟩
      · exact absurd hitems.1 hmistaken

/-- The items in front of the first mistaken one are read, and then reading stops. -/
theorem foldlM_eq_error_iff {parameter : Text} {items : List Text} {options : Options}
    {error : Error} :
    items.foldlM (readItem parameter) options = .error error ↔
      exists front item back, items = front ++ item :: back ∧
        (forall other, other ∈ front -> IsInOrder other) ∧ ¬ IsInOrder item ∧
        Mistakes parameter item error := by
  constructor
  · intro hfailed
    induction items generalizing options with
    | nil => cases hfailed
    | cons item rest ih =>
        rw [List.foldlM_cons] at hfailed
        rcases readItem_cases parameter item with
          ⟨hblank, hitem⟩ | ⟨value, hsets, hitem⟩ | ⟨mistake, hmistaken, hmistakes, hitem⟩
        · rw [hitem] at hfailed
          rcases ih hfailed with ⟨front, failed, back, rfl, hfront, hfault⟩
          exact ⟨item :: front, failed, back, rfl,
            List.forall_mem_cons.mpr ⟨Or.inl hblank, hfront⟩, hfault⟩
        · rw [hitem] at hfailed
          rcases ih hfailed with ⟨front, failed, back, rfl, hfront, hfault⟩
          exact ⟨item :: front, failed, back, rfl,
            List.forall_mem_cons.mpr ⟨Or.inr ⟨value, hsets⟩, hfront⟩, hfault⟩
        · rw [hitem] at hfailed
          cases hfailed
          exact ⟨[], item, rest, rfl, fun _ hother => absurd hother List.not_mem_nil, hmistaken,
            hmistakes⟩
  · intro hsplit
    rcases hsplit with ⟨front, item, back, rfl, hfront, hmistaken, hmistakes⟩
    rcases exists_foldlM_eq_ok parameter hfront options with ⟨middle, hmiddle⟩
    rw [List.foldlM_append, hmiddle]
    show ((item :: back).foldlM (readItem parameter) middle) = _
    rw [List.foldlM_cons]
    rcases readItem_cases parameter item with
      ⟨hblank, _⟩ | ⟨value, hsets, _⟩ | ⟨mistake, _, hfound, hitem⟩
    · exact absurd (Or.inl hblank) hmistaken
    · exact absurd (Or.inr ⟨value, hsets⟩) hmistaken
    · rw [hitem, hmistakes.unique hfound]
      rfl

/--
A parameter can be read exactly if all its items are in order.  The extension is then the one
that the last item that is not blank sets, and the usual one if all are blank.  A parameter that
cannot be read fails with the mistake in its first item that is not in order.
-/
theorem parameter_is_read_by_items (parameter : Text) :
    ((exists options, ofParameter parameter = .ok options) ↔
      forall item, item ∈ parameter.splitOn ',' -> IsInOrder item) ∧
    (forall options, ofParameter parameter = .ok options ->
      Leaves ".mjs".toList (parameter.splitOn ',') options.extension) ∧
    (forall error, ofParameter parameter = .error error ↔
      exists front item back, parameter.splitOn ',' = front ++ item :: back ∧
        (forall other, other ∈ front -> IsInOrder other) ∧ ¬ IsInOrder item ∧
        Mistakes parameter item error) := by
  refine ⟨?_, ?_, ?_⟩
  · constructor
    · intro hread
      rcases hread with ⟨options, hread⟩
      exact (leaves_of_foldlM hread).1
    · intro hitems
      exact exists_foldlM_eq_ok parameter hitems {}
  · intro options hread
    exact (leaves_of_foldlM hread).2
  · intro error
    exact foldlM_eq_error_iff

theorem parameters_of_samples :
    (ofParameter " extension = .a ,,extension=.b=c, ".toList = .ok ⟨".b=c".toList⟩ ∧
      Leaves ".mjs".toList [" extension = .a ".toList, [], "extension=.b=c".toList, [' ']]
        ".b=c".toList) ∧
    ofParameter "extension=.a,x y =1,extension".toList =
      .error (.unknownOption "x y".toList "extension=.a,x y =1,extension".toList) := by
  constructor
  · have hread : ofParameter " extension = .a ,,extension=.b=c, ".toList =
        .ok ⟨".b=c".toList⟩ := rfl
    exact ⟨hread, (parameter_is_read_by_items _).2.1 _ hread⟩
  · have hfirst : Sets "extension=.a".toList ".a".toList := by
      have hreads : Reads "extension=.a".toList (Text.trim "extension".toList)
          (some (Text.trim ".a".toList)) := Reads.pair (by decide +kernel) (by decide)
      exact ⟨hreads, 'a', [], rfl⟩
    have hsecond : Mistakes "extension=.a,x y =1,extension".toList "x y =1".toList
        (.unknownOption "x y".toList "extension=.a,x y =1,extension".toList) := by
      have hreads : Reads "x y =1".toList (Text.trim "x y ".toList)
          (some (Text.trim ['1'])) := Reads.pair (by decide +kernel) (by decide)
      exact Mistakes.unknown hreads (by decide +kernel)
    refine ((parameter_is_read_by_items _).2.2 _).mpr
      ⟨["extension=.a".toList], "x y =1".toList, ["extension".toList], by decide +kernel, ?_, ?_,
        hsecond⟩
    · intro other hother
      rw [List.mem_singleton.mp hother]
      exact Or.inr ⟨_, hfirst⟩
    · intro horder
      rcases horder with hblank | ⟨value, hsets⟩
      · exact absurd hblank (by decide +kernel)
      · exact hsecond.not_sets hsets

end Options
end ProtoModules
