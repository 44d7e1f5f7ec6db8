import TemplateLint.File.Tree
import TemplateLint.Proofs.Basic

/-!
# Files written into a tree

In an orderly tree there are no links, and every entry lies in a directory (`IsOrderly`). There a
path of names leads exactly to the entry under these names. The tree stays orderly when a file is
written where there is room for it: the path leads to the file, and a path that is not on the way to
it leads where it led before. So a tree made of files, none of which stands in the way of another,
answers with each of them (`probe_ofFiles`).
-/

namespace TemplateLint.FileTree

variable {t : FileTree} {p : Path} {names parts : List Text} {part : Text} {node : Node}

/-- A name that stands for nothing but an entry of a directory. -/
structure IsName (part : Text) : Prop where
  ne_nil : part ≠ []
  ne_point : part ≠ ['.']
  ne_points : part ≠ ['.', '.']
  byteLength_le : part.byteLength ≤ longestName

/-- A relative path of names that a tree can be asked about. -/
structure IsPlain (p : Path) : Prop where
  root : p.root = .relative
  ne_nil : p.parts ≠ []
  isName : ∀ part ∈ p.parts, IsName part
  null_not_mem : '\x00' ∉ p.toText
  byteLength_le : p.toText.byteLength ≤ longestPath

/-- A tree without links whose entries all lie in directories. -/
structure IsOrderly (t : FileTree) : Prop where
  working : t.node? (.inside workingDirectory) = some .directory
  not_link : ∀ names target, t.node? (.inside names) ≠ some (.link target)
  parent : ∀ names part, t.node? (.inside (names ++ [part])) ≠ none →
    t.node? (.inside names) = some .directory

/-! ### Where names lead -/

/-- Behind what is no directory there is nothing. -/
theorem IsOrderly.node?_append_eq_none (ht : t.IsOrderly)
    (hnames : t.node? (.inside names) ≠ some .directory) (hparts : parts ≠ []) :
    t.node? (.inside (names ++ parts)) = none := by
  induction parts using List.reverseRecOn with
  | nil => exact absurd rfl hparts
  | append_singleton front last ih =>
    apply Classical.byContradiction
    intro hsome
    rw [← List.append_assoc] at hsome
    have hfront := ht.parent _ _ hsome
    by_cases hnil : front = []
    · rw [hnil, List.append_nil] at hfront
      exact hnames hfront
    · rw [ih hnil] at hfront
      cases hfront

/-- In an orderly tree, names lead to the entry under them. -/
theorem IsOrderly.follow_names (ht : t.IsOrderly) (links : Nat)
    (hparts : ∀ part ∈ parts, IsName part) (hnames : t.node? (.inside names) ≠ none) :
    t.follow links (.inside names) parts =
      if t.node? (.inside (names ++ parts)) = none then .nowhere
      else .reached (.inside (names ++ parts)) := by
  induction parts generalizing names with
  | nil => rw [follow, List.append_nil, if_neg hnames]
  | cons part rest ih =>
    obtain ⟨hpart, hrest⟩ := List.forall_mem_cons.mp hparts
    have happend : names ++ part :: rest = names ++ [part] ++ rest := by simp
    rw [follow, happend]
    by_cases hdirectory : t.node? (.inside names) = some .directory
    · rw [if_neg (not_not_intro hdirectory), if_neg (not_or.mpr ⟨hpart.ne_nil, hpart.ne_point⟩),
        if_neg hpart.ne_points, if_neg (Nat.not_lt.mpr hpart.byteLength_le)]
      cases hnext : t.node? (.inside (names ++ [part])) with
      | none =>
        have hbehind : t.node? (.inside (names ++ [part] ++ rest)) = none := by
          by_cases hnil : rest = []
          · rw [hnil, List.append_nil, hnext]
          · exact ht.node?_append_eq_none (by simp [hnext]) hnil
        simp only [hbehind, if_true]
      | some found =>
        have hne : t.node? (.inside (names ++ [part])) ≠ none := by simp [hnext]
        cases found with
        | link target => exact absurd hnext (ht.not_link _ _)
        | directory => simpa only [hnext] using ih hrest hne
        | file bytes => simpa only [hnext] using ih hrest hne
    · rw [if_pos hdirectory, ← happend,
        if_pos (ht.node?_append_eq_none hdirectory (List.cons_ne_nil _ _))]

/-- An orderly tree answers about a plain path with the entry under its names. -/
theorem IsOrderly.probe_eq (ht : t.IsOrderly) (hp : IsPlain p) :
    t.probe p = match t.node? (.inside (workingDirectory ++ p.parts)) with
      | some .directory => .present (.closed .isDirectory) (!t.unreadable.contains p)
      | some (.file bytes) => .present (.regular bytes) (!t.unreadable.contains p)
      | _ => .missing := by
  have hnull : ¬ (p.toText.contains '\x00' = true) := by
    rw [List.contains_iff_mem]
    exact hp.null_not_mem
  have hworking : t.node? (.inside workingDirectory) ≠ none := by simp [ht.working]
  unfold probe
  simp only [hnull, Nat.not_lt.mpr hp.byteLength_le, start, hp.root,
    ht.follow_names 40 hp.isName hworking, if_false]
  cases hnode : t.node? (.inside (workingDirectory ++ p.parts)) with
  | none => rfl
  | some found => cases found <;> simp only [reduceCtorEq, if_false, hnode]

/-! ### Entries put into a tree -/

private theorem lookup_filter_ne {entries : List (List Text × Node)} {other : List Text}
    (h : other ≠ names) :
    (entries.filter fun e => e.1 != names).lookup other = entries.lookup other := by
  induction entries with
  | nil => rfl
  | cons entry entries ih =>
    obtain ⟨found, node⟩ := entry
    by_cases hfound : found = names
    · have hother : (other == names) = false := by simpa using h
      simp [List.lookup_cons, hfound, hother, ih]
    · by_cases hother : other = found
      · simp [hfound, hother]
      · have hne : (other == found) = false := by simpa using hother
        simp [List.lookup_cons, hfound, hne, ih]

/-- An inserted entry is found under its names, and every other one where it was. -/
theorem node?_insert (t : FileTree) (node : Node) (hnames : names ≠ []) (other : List Text) :
    (t.insert names node).node? (.inside other) =
      if other = names then some node else t.node? (.inside other) := by
  cases other with
  | nil => rw [if_neg (Ne.symm hnames)]; rfl
  | cons first rest =>
    by_cases h : first :: rest = names
    · subst h
      simp [node?, insert]
    · have hne : (first :: rest == names) = false := by simpa using h
      rw [if_neg h]
      simp only [node?, insert, List.lookup_cons, hne, lookup_filter_ne h]

/-- A tree stays orderly with an entry more in one of its directories, unless the entry takes the
place of a directory. -/
theorem IsOrderly.insert (ht : t.IsOrderly)
    (hnames : t.node? (.inside names) = some .directory) (hnode : ∀ target, node ≠ .link target)
    (hroom : t.node? (.inside (names ++ [part])) = some .directory → node = .directory) :
    (t.insert (names ++ [part]) node).IsOrderly := by
  have hfound := node?_insert t node (List.append_ne_nil_of_right_ne_nil names
    (List.cons_ne_nil part []))
  have hkeep : ∀ other, t.node? (.inside other) = some .directory →
      (t.insert (names ++ [part]) node).node? (.inside other) = some .directory := by
    intro other hother
    rw [hfound]
    split
    · next heq => rw [hroom (heq ▸ hother)]
    · exact hother
  refine ⟨hkeep _ ht.working, ?_, ?_⟩
  · intro other target
    rw [hfound]
    split
    · simpa using hnode target
    · exact ht.not_link other target
  · intro other last hsome
    rw [hfound] at hsome
    split at hsome
    · next heq =>
      obtain ⟨rfl, -⟩ := List.append_inj' heq rfl
      exact hkeep _ hnames
    · exact hkeep _ (ht.parent _ _ hsome)

/-- There are files neither on the way of a path nor a directory at its end. -/
structure HasRoom (t : FileTree) (p : Path) : Prop where
  way : ∀ front, front <+: p.parts → front ≠ p.parts → ∀ bytes,
    t.node? (.inside (workingDirectory ++ front)) ≠ some (.file bytes)
  not_directory : t.node? (.inside (workingDirectory ++ p.parts)) ≠ some .directory

/-- A tree has become another one in which parts of a path lead from a directory to a directory. -/
structure HasWay (t t' : FileTree) (names parts : List Text) : Prop where
  isOrderly : t'.IsOrderly
  unreadable : t'.unreadable = t.unreadable
  way : ∀ front, front <+: parts → t'.node? (.inside (names ++ front)) = some .directory
  elsewhere : ∀ other, (∀ front, front <+: parts → other ≠ names ++ front) →
    t'.node? (.inside other) = t.node? (.inside other)

/-- The way through the first directory goes on with the way from there. -/
theorem HasWay.cons {t' t'' : FileTree} (hfirst : HasWay t t' names [part])
    (hrest : HasWay t' t'' (names ++ [part]) parts) : HasWay t t'' names (part :: parts) := by
  have happend : ∀ front, names ++ part :: front = names ++ [part] ++ front := by simp
  refine ⟨hrest.isOrderly, hrest.unreadable.trans hfirst.unreadable, ?_, ?_⟩
  · intro front hfront
    cases front with
    | nil =>
      have hnext := hrest.way [] List.nil_prefix
      rw [List.append_nil] at hnext ⊢
      exact hrest.isOrderly.parent names part (by simp [hnext])
    | cons first front =>
      obtain ⟨rfl, hbehind⟩ := List.cons_prefix_cons.mp hfront
      rw [happend]
      exact hrest.way front hbehind
  · intro other hother
    rw [hrest.elsewhere other fun front hfront => happend front ▸
      hother _ (List.cons_prefix_cons.mpr ⟨rfl, hfront⟩)]
    refine hfirst.elsewhere other fun front hfront => hother front ?_
    exact hfront.trans (List.cons_prefix_cons.mpr ⟨rfl, List.nil_prefix⟩)

/-- Entering goes on in the first directory of the way, which is made if it is missing. -/
theorem IsOrderly.exists_enter_cons (ht : t.IsOrderly) (parts : List Text) (hpart : IsName part)
    (hnames : t.node? (.inside names) = some .directory)
    (hfile : ∀ bytes, t.node? (.inside (names ++ [part])) ≠ some (.file bytes)) :
    ∃ t', t.enter names (part :: parts) = t'.enter (names ++ [part]) parts ∧
      HasWay t t' names [part] := by
  have hfound : t.node? (.inside names) ≠ none := by simp [hnames]
  have hfollow := ht.follow_names 40 (List.forall_mem_singleton.mpr hpart) hfound
  cases hnext : t.node? (.inside (names ++ [part])) with
  | none =>
    refine ⟨t.insert (names ++ [part]) .directory, ?_, ?_⟩
    · rw [enter, hfollow, if_pos hnext]
    · have hfound := node?_insert t .directory (List.append_ne_nil_of_right_ne_nil names
        (List.cons_ne_nil part []))
      refine ⟨ht.insert hnames (by simp) (fun _ => rfl), rfl, ?_, ?_⟩
      · intro front hfront
        rcases List.prefix_cons_iff.mp hfront with rfl | ⟨behind, rfl, hbehind⟩
        · rw [hfound, List.append_nil]
          split
          · rfl
          · exact hnames
        · rw [hfound, List.prefix_nil.mp hbehind, if_pos rfl]
      · intro other hother
        rw [hfound, if_neg (hother [part] (List.prefix_refl _))]
  | some found =>
    have hdirectory : found = .directory := by
      cases found with
      | directory => rfl
      | file bytes => exact absurd hnext (hfile bytes)
      | link target => exact absurd hnext (ht.not_link _ _)
    refine ⟨t, ?_, ht, rfl, ?_, fun other _ => rfl⟩
    · rw [enter, hfollow, if_neg (by simp [hnext])]
    · intro front hfront
      rcases List.prefix_cons_iff.mp hfront with rfl | ⟨behind, rfl, hbehind⟩
      · rw [List.append_nil, hnames]
      · rw [List.prefix_nil.mp hbehind, hnext, hdirectory]

/-- Entering a directory makes the way to it, if no file stands there. -/
theorem IsOrderly.enter (ht : t.IsOrderly) (hparts : ∀ part ∈ parts, IsName part)
    (hnames : t.node? (.inside names) = some .directory)
    (hway : ∀ front, front <+: parts → ∀ bytes,
      t.node? (.inside (names ++ front)) ≠ some (.file bytes)) :
    ∃ t', t.enter names parts = (t', names ++ parts) ∧ HasWay t t' names parts := by
  induction parts generalizing t names with
  | nil =>
    refine ⟨t, by rw [FileTree.enter, List.append_nil], ht, rfl, ?_, fun other _ => rfl⟩
    intro front hfront
    rw [List.prefix_nil.mp hfront, List.append_nil, hnames]
  | cons part rest ih =>
    obtain ⟨hpart, hrest⟩ := List.forall_mem_cons.mp hparts
    have happend : ∀ front, names ++ part :: front = names ++ [part] ++ front := by simp
    obtain ⟨t₁, henter, hfirst⟩ := ht.exists_enter_cons rest hpart hnames
      (hway [part] (List.cons_prefix_cons.mpr ⟨rfl, List.nil_prefix⟩))
    have hdirectory := hfirst.way [part] (List.prefix_refl _)
    -- behind the first directory nothing has changed, so no file stands on the rest of the way
    have hrestway : ∀ front, front <+: rest → ∀ bytes,
        t₁.node? (.inside (names ++ [part] ++ front)) ≠ some (.file bytes) := by
      intro front hfront bytes
      by_cases hnil : front = []
      · simp [hnil, hdirectory]
      · have hbehind : ∀ shorter, shorter <+: [part] →
            names ++ [part] ++ front ≠ names ++ shorter := by
          intro shorter hshorter heq
          have hlength := congrArg List.length heq
          have hshort := hshorter.length_le
          have hlong := List.length_pos_iff.mpr hnil
          simp only [List.length_append, List.length_cons, List.length_nil] at hlength hshort
          omega
        rw [hfirst.elsewhere _ hbehind, ← happend]
        exact hway _ (List.cons_prefix_cons.mpr ⟨rfl, hfront⟩) bytes
    obtain ⟨t₂, henter', hsecond⟩ := ih hfirst.isOrderly hrest hdirectory hrestway
    exact ⟨t₂, by rw [henter, henter', ← happend], hfirst.cons hsecond⟩

/-! ### Files written into a tree -/

/-- A tree has become another one in which a path leads to a file. -/
structure IsWritten (t t' : FileTree) (p : Path) (bytes : List UInt8) : Prop where
  isOrderly : t'.IsOrderly
  unreadable : t'.unreadable = t.unreadable
  file : t'.node? (.inside (workingDirectory ++ p.parts)) = some (.file bytes)
  way : ∀ front, front <+: p.parts → front ≠ p.parts →
    t'.node? (.inside (workingDirectory ++ front)) = some .directory
  elsewhere : ∀ other, (∀ front, front <+: p.parts → other ≠ workingDirectory ++ front) →
    t'.node? (.inside other) = t.node? (.inside other)

/-- Without links, a file is written under the name that it is given. -/
theorem IsOrderly.destination_eq (ht : t.IsOrderly) (name : Text) (links : Nat) :
    t.destination names name links = names ++ [name] := by
  cases links with
  | zero => rfl
  | succ links =>
    rw [destination]
    cases hnode : t.node? (.inside (names ++ [name])) with
    | none => rfl
    | some found =>
      cases found with
      | directory => rfl
      | file bytes => rfl
      | link target => exact absurd hnode (ht.not_link _ _)

/-- A file is written where there is room for it. -/
theorem IsOrderly.put (ht : t.IsOrderly) (hp : IsPlain p) (hroom : HasRoom t p)
    (bytes : List UInt8) :
    IsWritten t (t.put p (.file bytes)) p bytes := by
  obtain ⟨front, name, hparts⟩ : ∃ front name, p.parts = front ++ [name] :=
    ⟨_, _, (List.dropLast_append_getLast hp.ne_nil).symm⟩
  have hproper : ∀ {shorter}, shorter <+: front → shorter <+: p.parts ∧ shorter ≠ p.parts := by
    intro shorter hshorter
    refine ⟨hparts ▸ hshorter.trans (List.prefix_append front [name]), ?_⟩
    rintro rfl
    have hlength := hshorter.length_le
    simp [hparts] at hlength
  have hfront : ∀ {shorter}, shorter <+: p.parts → shorter = p.parts ∨ shorter <+: front := by
    intro shorter hshorter
    rw [hparts] at hshorter ⊢
    exact List.prefix_concat_iff.mp hshorter
  have hnamed : ∀ part ∈ front, IsName part := fun part hpart =>
    hp.isName part (by simp [hparts, hpart])
  obtain ⟨t₁, henter, hway⟩ := ht.enter hnamed ht.working fun shorter hshorter =>
    hroom.way shorter (hproper hshorter).1 (hproper hshorter).2
  have hnames : workingDirectory ++ p.parts = workingDirectory ++ front ++ [name] := by
    rw [hparts, List.append_assoc]
  have hput : t.put p (.file bytes) =
      t₁.insert (workingDirectory ++ front ++ [name]) (.file bytes) := by
    have hlast : p.parts.getLast? = some name := by simp [hparts]
    have hdrop : p.parts.dropLast = front := by simp [hparts]
    simp only [FileTree.put, hlast, hdrop, henter, hway.isOrderly.destination_eq]
  have hsame : t₁.node? (.inside (workingDirectory ++ p.parts)) =
      t.node? (.inside (workingDirectory ++ p.parts)) := by
    refine hway.elsewhere _ fun shorter hshorter heq => ?_
    exact (hproper hshorter).2 (List.append_cancel_left heq).symm
  have hfound := node?_insert t₁ (.file bytes)
    (List.append_ne_nil_of_right_ne_nil (workingDirectory ++ front) (List.cons_ne_nil name []))
  rw [hput]
  refine ⟨?_, hway.unreadable, ?_, ?_, ?_⟩
  · refine hway.isOrderly.insert (hway.way front (List.prefix_refl _)) (by simp) fun h => ?_
    rw [← hnames, hsame] at h
    exact absurd h hroom.not_directory
  · rw [hfound, hnames, if_pos rfl]
  · intro shorter hshorter hne
    rw [hfound, ← hnames, if_neg (fun heq => hne (List.append_cancel_left heq))]
    exact hway.way shorter ((hfront hshorter).resolve_left hne)
  · intro other hother
    rw [hfound, ← hnames, if_neg (hother _ (List.prefix_refl _))]
    exact hway.elsewhere other fun shorter hshorter => hother shorter (hproper hshorter).1

/-- A path leads to the file that was written there. -/
theorem probe_put (ht : t.IsOrderly) (hp : IsPlain p) (hroom : HasRoom t p)
    (bytes : List UInt8) :
    (t.put p (.file bytes)).probe p = .present (.regular bytes) (!t.unreadable.contains p) := by
  have hwritten := ht.put hp hroom bytes
  rw [hwritten.isOrderly.probe_eq hp, hwritten.file, hwritten.unreadable]

/-- A path that is not on the way to a file leads where it led before the file was written. -/
theorem probe_put_of_not_prefix {q : Path} (ht : t.IsOrderly) (hp : IsPlain p)
    (hroom : HasRoom t p) (bytes : List UInt8) (hq : IsPlain q) (h : ¬ q.parts <+: p.parts) :
    (t.put p (.file bytes)).probe q = t.probe q := by
  have hwritten := ht.put hp hroom bytes
  have hsame := hwritten.elsewhere (workingDirectory ++ q.parts) fun front hfront heq =>
    h (List.append_cancel_left heq ▸ hfront)
  rw [hwritten.isOrderly.probe_eq hq, ht.probe_eq hq, hsame, hwritten.unreadable]

/-! ### Trees made of files -/

/-- The tree that has some files below the working directory, and nothing else. -/
def ofFiles (files : List (Path × List UInt8)) : FileTree :=
  files.foldl (fun t file => t.put file.1 (.file file.2)) empty

/-- Neither path is on the way of the other. -/
def Apart (p q : Path) : Prop := ¬ p.parts <+: q.parts ∧ ¬ q.parts <+: p.parts

/-- What a tree that is made of files has in it. -/
structure IsMadeOf (t : FileTree) (files : List (Path × List UInt8)) : Prop where
  isOrderly : t.IsOrderly
  unreadable : t.unreadable = []
  file : ∀ file ∈ files, t.node? (.inside (workingDirectory ++ file.1.parts)) = some (.file file.2)
  way : ∀ file ∈ files, ∀ front, front <+: file.1.parts → front ≠ file.1.parts →
    t.node? (.inside (workingDirectory ++ front)) = some .directory
  elsewhere : ∀ parts, parts ≠ [] → (∀ file ∈ files, ¬ parts <+: file.1.parts) →
    t.node? (.inside (workingDirectory ++ parts)) = none

private theorem isMadeOf_empty : empty.IsMadeOf [] := by
  have hlookup : ∀ names, names ≠ workingDirectory → names ≠ [] →
      empty.node? (.inside names) = none := by
    intro names hworking hnil
    cases names with
    | nil => exact absurd rfl hnil
    | cons first rest =>
      have hne : (first :: rest == workingDirectory) = false := by simpa using hworking
      simp [node?, empty, List.lookup_cons, hne]
  have hworking : empty.node? (.inside workingDirectory) = some .directory := rfl
  refine ⟨⟨hworking, ?_, ?_⟩, rfl, by simp, by simp, ?_⟩
  · intro names target
    by_cases hnil : names = []
    · rw [hnil]
      simp [node?]
    · by_cases hnames : names = workingDirectory
      · simp [hnames, hworking]
      · simp [hlookup names hnames hnil]
  · intro names part hsome
    by_cases hnames : names ++ [part] = workingDirectory
    · have hcut : names ++ [part] = [] ++ workingDirectory := hnames
      obtain ⟨rfl, -⟩ := List.append_inj' hcut rfl
      rfl
    · exact absurd (hlookup _ hnames (by simp)) hsome
  · intro parts hparts _
    exact hlookup _ (by simpa using hparts) (by simp [workingDirectory])

section
variable {files : List (Path × List UInt8)}

/-- In a tree made of files there is room for another file that is apart from them. -/
theorem IsMadeOf.hasRoom (h : t.IsMadeOf files) (hp : IsPlain p)
    (hapart : ∀ file ∈ files, Apart file.1 p) : HasRoom t p := by
  constructor
  · intro front hfront hne bytes
    by_cases hon : ∃ file ∈ files, front <+: file.1.parts
    · obtain ⟨file, hfile, hprefix⟩ := hon
      have hproper : front ≠ file.1.parts := fun heq => (hapart file hfile).1 (heq ▸ hfront)
      simp [h.way file hfile front hprefix hproper]
    · by_cases hnil : front = []
      · simp [hnil, h.isOrderly.working]
      · simp [h.elsewhere front hnil fun file hfile hprefix => hon ⟨file, hfile, hprefix⟩]
  · simp [h.elsewhere p.parts hp.ne_nil fun file hfile => (hapart file hfile).2]

/-- A tree made of files is made of one file more when that is written. -/
theorem IsMadeOf.put {bytes : List UInt8} (h : t.IsMadeOf files) (hp : IsPlain p)
    (hapart : ∀ file ∈ files, Apart file.1 p) :
    (t.put p (.file bytes)).IsMadeOf (files ++ [(p, bytes)]) := by
  have hwritten := h.isOrderly.put hp (h.hasRoom hp hapart) bytes
  have hsame : ∀ parts, ¬ parts <+: p.parts →
      (t.put p (.file bytes)).node? (.inside (workingDirectory ++ parts)) =
        t.node? (.inside (workingDirectory ++ parts)) := fun parts hparts =>
    hwritten.elsewhere _ fun front hfront heq => hparts (List.append_cancel_left heq ▸ hfront)
  refine ⟨hwritten.isOrderly, hwritten.unreadable.trans h.unreadable, ?_, ?_, ?_⟩
  · rw [List.forall_mem_append, List.forall_mem_singleton]
    refine ⟨fun file hfile => ?_, hwritten.file⟩
    rw [hsame _ (hapart file hfile).1, h.file file hfile]
  · rw [List.forall_mem_append, List.forall_mem_singleton]
    refine ⟨fun file hfile front hfront hne => ?_, hwritten.way⟩
    by_cases hon : front <+: p.parts
    · exact hwritten.way front hon fun heq => (hapart file hfile).2 (heq ▸ hfront)
    · rw [hsame front hon, h.way file hfile front hfront hne]
  · intro parts hnil hparts
    rw [List.forall_mem_append, List.forall_mem_singleton] at hparts
    rw [hsame parts hparts.2, h.elsewhere parts hnil hparts.1]

/-- The tree of some files is made of them, if none is in the way of another. -/
theorem isMadeOf_ofFiles (hplain : ∀ file ∈ files, IsPlain file.1)
    (hapart : files.Pairwise fun a b => Apart a.1 b.1) : (ofFiles files).IsMadeOf files := by
  induction files using List.reverseRecOn with
  | nil => exact isMadeOf_empty
  | append_singleton files file ih =>
    obtain ⟨hfiles, hfile⟩ := List.forall_mem_append.mp hplain
    obtain ⟨hbefore, -, hlast⟩ := List.pairwise_append.mp hapart
    rw [ofFiles, List.foldl_append]
    exact (ih hfiles hbefore).put (hfile file (List.mem_singleton_self file))
      fun other hother => hlast other hother file (List.mem_singleton_self file)

/-- The tree of some files answers with each of them, with a directory on the way to one, and with
nothing elsewhere. -/
theorem probe_ofFiles (hplain : ∀ file ∈ files, IsPlain file.1)
    (hapart : files.Pairwise fun a b => Apart a.1 b.1) (hp : IsPlain p) :
    (∀ bytes, (p, bytes) ∈ files → (ofFiles files).probe p = .present (.regular bytes) true) ∧
    (∀ file ∈ files, p.parts <+: file.1.parts → p.parts ≠ file.1.parts →
      (ofFiles files).probe p = .present (.closed .isDirectory) true) ∧
    ((∀ file ∈ files, ¬ p.parts <+: file.1.parts) → (ofFiles files).probe p = .missing) := by
  have hmade := isMadeOf_ofFiles hplain hapart
  rw [hmade.isOrderly.probe_eq hp, hmade.unreadable]
  refine ⟨fun bytes hfile => ?_, fun file hfile hprefix hne => ?_, fun hnone => ?_⟩
  · rw [hmade.file _ hfile]
    rfl
  · rw [hmade.way file hfile _ hprefix hne]
    rfl
  · rw [hmade.elsewhere _ hp.ne_nil hnone]

end

end TemplateLint.FileTree
