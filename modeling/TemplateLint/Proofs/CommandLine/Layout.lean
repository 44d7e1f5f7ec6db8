import TemplateLint.CommandLine.Arguments
import TemplateLint.Proofs.Basic

/-!
# Well-formed command lines

A command line is well formed if it is laid out in items: paths that do not look like options,
options that take no value, and options with a value, which stands behind an equals sign or is the
next argument. Behind two hyphens anything is a path. Reading accepts exactly the command lines that
are laid out so, and takes note of the items one after the other (`readArguments_eq_ok_iff`).
-/

namespace TemplateLint.CommandLine

/-- What a command line is made of. -/
inductive Item where
  | path (text : Text) (isPath : isOption text = false)
  | flag (option : OptionKind) (takesNone : option.takesValue = false)
  | setting (option : OptionKind) (takesOne : option.takesValue = true) (value : Text)
      (inline : Bool)

/-- The arguments that make up an item. -/
def Item.spell : Item → List Text
  | .path text _ => [text]
  | .flag option _ => [option.name]
  | .setting option _ value true => [option.name ++ '=' :: value]
  | .setting option _ value false => [option.name, value]

/-- An item taken note of. -/
def Given.add (g : Given) : Item → Given
  | .path text _ => g.addPaths [text]
  | .flag option _ => g.set [] option
  | .setting option _ value _ => g.set value option

/-- The items of a command line, and the paths behind two hyphens if these are there. -/
structure Layout where
  items : List Item
  paths? : Option (List Text)

namespace Layout

/-- The arguments that are laid out. -/
def spell (l : Layout) : List Text :=
  l.items.flatMap Item.spell ++
    match l.paths? with
    | none => []
    | some paths => ['-', '-'] :: paths

/-- What they ask for, on top of what earlier ones ask for. -/
def given (l : Layout) (g : Given) : Given :=
  (l.items.foldl Given.add g).addPaths (l.paths?.getD [])

/-- A layout with an item in front. -/
def cons (item : Item) (l : Layout) : Layout := { l with items := item :: l.items }

/-- The arguments of an item in front come first. -/
theorem spell_cons (item : Item) (l : Layout) : (l.cons item).spell = item.spell ++ l.spell := by
  simp [cons, spell]

/-- An item in front is taken in before the others. -/
theorem given_cons (item : Item) (l : Layout) (g : Given) :
    (l.cons item).given g = l.given (g.add item) := rfl

end Layout

/-! ### Reading the name of an option -/

namespace OptionKind

/-- An option is found under its name. -/
theorem ofName?_name (o : OptionKind) : ofName? o.name = some o := by cases o <;> decide

/-- An option that is found under a name has this name. -/
theorem name_of_ofName? {name : Text} {o : OptionKind} (h : ofName? name = some o) :
    o.name = name := by
  have := List.find?_some h
  simpa using this

/-- The name of an option has no equals sign. -/
theorem equals_not_mem_name (o : OptionKind) : '=' ∉ o.name := by cases o <;> decide

/-- The name of an option starts with two hyphens and goes on after them. -/
theorem exists_name_eq (o : OptionKind) : ∃ c s, o.name = '-' :: '-' :: c :: s := by
  cases o <;> exact ⟨_, _, rfl⟩

end OptionKind

/-- Without an equals sign, an argument is a name. -/
theorem splitValue_of_not_mem {name : Text} (h : '=' ∉ name) : splitValue name = (name, none) := by
  have hdrop : name.dropWhile (· != '=') = [] := by
    rw [List.dropWhile_eq_nil_iff]
    intro c hc
    rw [bne_iff_ne]
    rintro rfl
    exact h hc
  rw [splitValue, hdrop]

/-- What stands behind the first equals sign is a value. -/
theorem splitValue_append {name : Text} (h : '=' ∉ name) (value : Text) :
    splitValue (name ++ '=' :: value) = (name, some value) := by
  have hinside : ∀ c ∈ name, (c != '=') = true := by
    intro c hc
    rw [bne_iff_ne]
    rintro rfl
    exact h hc
  have hdrop : (name ++ '=' :: value).dropWhile (· != '=') = '=' :: value := by
    rw [List.dropWhile_append_of_pos hinside]
    rfl
  have htake : (name ++ '=' :: value).takeWhile (· != '=') = name := by
    rw [List.takeWhile_append_of_pos hinside]
    exact List.append_nil name
  rw [splitValue, hdrop, htake]

/-- An argument without a value is its name. -/
theorem eq_of_splitValue_none {arg name : Text} (h : splitValue arg = (name, none)) :
    arg = name := by
  unfold splitValue at h
  split at h
  · exact (Prod.mk.inj h).1
  · cases h

/-- An argument with a value is its name, an equals sign and the value. -/
theorem eq_of_splitValue_some {arg name value : Text} (h : splitValue arg = (name, some value)) :
    arg = name ++ '=' :: value := by
  unfold splitValue at h
  split at h
  · cases h
  · next c rest hdrop =>
    obtain ⟨rfl, hvalue⟩ := Prod.mk.inj h
    obtain rfl := Option.some.inj hvalue
    obtain rfl : c = '=' := by
      have hhead := List.head?_dropWhile_not (· != '=') arg
      rw [hdrop] at hhead
      simpa using hhead
    rw [← hdrop, List.takeWhile_append_dropWhile]

/-! ### Reading items -/

private theorem name_append_isOption (o : OptionKind) (s : Text) :
    o.name ++ s ≠ ['-', '-'] ∧ isOption (o.name ++ s) = true := by
  obtain ⟨c, t, hname⟩ := o.exists_name_eq
  rw [hname]
  exact ⟨by simp, by simp [isOption]⟩

/-- Reading takes note of an item and goes on behind it. -/
theorem readArguments_spell (item : Item) (g : Given) (rest : List Text) :
    readArguments g (item.spell ++ rest) = readArguments (g.add item) rest := by
  cases item with
  | path text isPath =>
    have hne : text ≠ ['-', '-'] := by
      rintro rfl
      cases isPath
    rw [Item.spell, List.singleton_append, readArguments, if_neg hne, if_pos (by rw [isPath]; rfl)]
    rfl
  | flag option takesNone =>
    obtain ⟨hne, hoption⟩ := name_append_isOption option []
    rw [List.append_nil] at hne hoption
    rw [Item.spell, List.singleton_append, readArguments, if_neg hne,
      if_neg (by rw [hoption]; decide), splitValue_of_not_mem option.equals_not_mem_name]
    simp only [option.ofName?_name, takesNone]
    rfl
  | setting option takesOne value inline =>
    cases inline with
    | true =>
      obtain ⟨hne, hoption⟩ := name_append_isOption option ('=' :: value)
      rw [Item.spell, List.singleton_append, readArguments, if_neg hne,
        if_neg (by rw [hoption]; decide), splitValue_append option.equals_not_mem_name]
      simp only [option.ofName?_name, takesOne]
      rfl
    | false =>
      obtain ⟨hne, hoption⟩ := name_append_isOption option []
      rw [List.append_nil] at hne hoption
      rw [Item.spell, List.cons_append, List.singleton_append, readArguments, if_neg hne,
        if_neg (by rw [hoption]; decide), splitValue_of_not_mem option.equals_not_mem_name]
      simp only [option.ofName?_name, takesOne]
      rfl

/-- Reading what is laid out takes note of all items. -/
theorem readArguments_layout (l : Layout) (g : Given) :
    readArguments g l.spell = .ok (l.given g) := by
  obtain ⟨items, paths?⟩ := l
  induction items generalizing g with
  | nil =>
    cases paths? with
    | none =>
      rw [Layout.spell, Layout.given]
      simp [readArguments, Given.addPaths]
    | some paths =>
      rw [Layout.spell, Layout.given]
      simp [readArguments]
  | cons item items ih =>
    have hcons : (⟨item :: items, paths?⟩ : Layout) = Layout.cons item ⟨items, paths?⟩ := rfl
    rw [hcons, Layout.spell_cons, readArguments_spell, ih, Layout.given_cons]

/-- What is read was laid out. -/
theorem exists_layout_of_readArguments {g g' : Given} {args : List Text}
    (h : readArguments g args = .ok g') : ∃ l : Layout, l.spell = args ∧ l.given g = g' := by
  fun_induction readArguments g args with
  | case1 g =>
    refine ⟨⟨[], none⟩, rfl, ?_⟩
    rw [← Except.ok.inj h]
    simp [Layout.given, Given.addPaths]
  | case2 g args => exact ⟨⟨[], some args⟩, rfl, Except.ok.inj h⟩
  | case3 g arg args hne hpath ih =>
    obtain ⟨l, rfl, hg⟩ := ih h
    exact ⟨l.cons (.path arg (by simpa using hpath)), l.spell_cons _, hg⟩
  | case4 g arg args hne hoption name value? hsplit hname => cases h
  | case5 g arg hne hoption name option hname htakes value args hsplit ih =>
    obtain ⟨l, rfl, hg⟩ := ih h
    refine ⟨l.cons (.setting option htakes value true), ?_, hg⟩
    rw [l.spell_cons, Item.spell, OptionKind.name_of_ofName? hname, eq_of_splitValue_some hsplit]
    rfl
  | case6 g arg hne hoption name option hname htakes value args hsplit ih =>
    obtain ⟨l, rfl, hg⟩ := ih h
    refine ⟨l.cons (.setting option htakes value false), ?_, hg⟩
    rw [l.spell_cons, Item.spell, OptionKind.name_of_ofName? hname, eq_of_splitValue_none hsplit]
    rfl
  | case7 g arg hne hoption name option hname htakes hsplit => cases h
  | case8 g arg args hne hoption name option hname htakes value hsplit => cases h
  | case9 g arg args hne hoption name option hname htakes hsplit ih =>
    obtain ⟨l, rfl, hg⟩ := ih h
    refine ⟨l.cons (.flag option (by simpa using htakes)), ?_, hg⟩
    rw [l.spell_cons, Item.spell, OptionKind.name_of_ofName? hname, eq_of_splitValue_none hsplit]
    rfl

/-- Reading accepts exactly the command lines that are laid out in items, and takes note of
these. -/
theorem readArguments_eq_ok_iff {g g' : Given} {args : List Text} :
    readArguments g args = .ok g' ↔ ∃ l : Layout, l.spell = args ∧ l.given g = g' := by
  constructor
  · exact exists_layout_of_readArguments
  · rintro ⟨l, rfl, rfl⟩
    exact readArguments_layout l g

end TemplateLint.CommandLine
