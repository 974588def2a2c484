import MarkLine.Discovery
import MarkLine.Proofs.Outcomes
import MarkLine.Proofs.Walks

/-!
# Lawful walks

Of the walk that a discovery goes through this much is taken for granted (`Walker.Lawful`): below a
directory it yields every file once, but for those that are ignored, whichever these are, and the
order in which directories list their entries does not show in what is ignored and what is reported.
So files that are yielded have different parts (`Lawful.pairwise_components`), and the same files
are yielded in whatever order directories list their entries (`Lawful.files_reordered`).

The walk that goes by ignore files is lawful (`Ignore.walker_lawful`): what it comes by is what the
rules pass, and all it reports are the ignore files above the root.
-/

namespace MarkLine

/-! ## Walks -/

/-- The files among the items of a walk. -/
def World.filesAmong (w : World) (items : List (Except String String)) : List String :=
  items.filterMap fun item => item.toOption.filter w.isFile

theorem World.filesAmong_cons (w : World) (path : String) (items : List (Except String String)) :
    w.filesAmong (.ok path :: items) =
      if w.isFile path then path :: w.filesAmong items else w.filesAmong items := by
  have hitem : (Except.ok path : Except String String).toOption.filter w.isFile =
      if w.isFile path then some path else none := Option.filter_some
  rw [filesAmong, List.filterMap_cons, hitem]
  cases w.isFile path <;> rfl

theorem World.filesAmong_append (w : World) (items more : List (Except String String)) :
    w.filesAmong (items ++ more) = w.filesAmong items ++ w.filesAmong more :=
  List.filterMap_append

theorem World.filesAmong_ok (w : World) (paths : List String) :
    w.filesAmong (paths.map .ok) = paths.filter w.isFile := by
  induction paths with
  | nil => rfl
  | cons path paths ih => rw [List.map_cons, filesAmong_cons, ih, List.filter_cons]

/-- The fault that comes first among the items of a walk. -/
def FirstReport (items : List (Except String String)) (message : String) : Prop :=
  ∃ i, FirstAt (fun _ item => ∃ other, item = .error other) items i (.error message)

namespace Walker

section
variable (walker : Walker) (w : World) (useShared : Bool) (root : String)

/-- Whether a walk yields a file. -/
def Yields (path : String) : Prop :=
  .ok path ∈ walker.items w useShared root ∧ w.isFile path = true

/-- The fault that a walk reports first. -/
def Reports (message : String) : Prop :=
  FirstReport (walker.items w useShared root) message

end

/-- What is taken for granted of a walker, where `Ignored` says which files below a root, given by
their names, are ignored. -/
structure Lawful (walker : Walker) (Ignored : World → Bool → String → List String → Prop) :
    Prop where
  /-- Below a directory a walk yields the files that are not ignored, and no others. -/
  yields_iff {w : World} {root : String} {names : List String} (useShared : Bool)
      (proper : w.tree.Proper) (leads : w.resolve root = .ok names)
      (isRoot : w.isDirectory root = true) (path : String) :
    walker.Yields w useShared root path ↔ ∃ rest, w.isFileAt (names ++ rest) = true ∧
      ¬ Ignored w useShared root rest ∧ path = Path.below root rest
  /-- It yields none of them twice. -/
  once {w : World} {root : String} (useShared : Bool) (proper : w.tree.Proper)
      (isRoot : w.isDirectory root = true) :
    (w.filesAmong (walker.items w useShared root)).Nodup
  /-- What is ignored does not hang on the order of entries. -/
  ignored_reordered {w : World} {tree : Entry} (useShared : Bool) (root : String)
      (proper : w.tree.Proper) (reordered : w.tree.Reordered tree) (rest : List String) :
    Ignored { w with tree } useShared root rest ↔ Ignored w useShared root rest
  /-- What is reported does not hang on it. -/
  reports_reordered {w : World} {tree : Entry} (useShared : Bool) (root : String)
      (proper : w.tree.Proper) (reordered : w.tree.Reordered tree) (message : String) :
    walker.Reports { w with tree } useShared root message ↔ walker.Reports w useShared root message

section
variable {walker : Walker} {w : World} {root : String}

theorem mem_filesAmong {items : List (Except String String)} {path : String} :
    path ∈ w.filesAmong items ↔ .ok path ∈ items ∧ w.isFile path = true := by
  rw [World.filesAmong, List.mem_filterMap]
  constructor
  · rintro ⟨item, hitem, hpath⟩
    obtain ⟨hok, hfile⟩ := Option.filter_eq_some_iff.1 hpath
    cases item with
    | error message => simp [Except.toOption] at hok
    | ok other =>
      obtain rfl : other = path := by simpa [Except.toOption] using hok
      exact ⟨hitem, hfile⟩
  · rintro ⟨hitem, hfile⟩
    exact ⟨.ok path, hitem, by simp [Except.toOption, hfile]⟩

variable {Ignored : World → Bool → String → List String → Prop} {names : List String}

/-- A file that is yielded is reached from the root by names. -/
theorem Lawful.exists_names (hwalker : walker.Lawful Ignored) {useShared : Bool}
    (h : w.tree.Proper) (hnames : w.resolve root = .ok names)
    (hroot : w.isDirectory root = true) {path : String}
    (hyields : walker.Yields w useShared root path) :
    ∃ rest, (∀ name ∈ rest, Path.IsName name) ∧ path = Path.below root rest := by
  obtain ⟨rest, hfile, -, rfl⟩ := (hwalker.yields_iff useShared h hnames hroot path).1 hyields
  obtain ⟨bytes, hbytes⟩ := World.isFileAt_iff.1 hfile
  have hrest : ∀ name ∈ rest, Path.IsName name := fun name hname =>
    h.isName_of_find? hbytes name (List.mem_append_right _ hname)
  exact ⟨rest, hrest, rfl⟩

/-- Files that are yielded have different parts. -/
theorem Lawful.pairwise_components (hwalker : walker.Lawful Ignored) (useShared : Bool)
    (h : w.tree.Proper) (hnames : w.resolve root = .ok names)
    (hroot : w.isDirectory root = true) :
    (w.filesAmong (walker.items w useShared root)).Pairwise fun a b =>
      Path.components a ≠ Path.components b := by
  have hempty : root ≠ "" := World.ne_empty_of_resolve hnames
  -- The parts of such a file are those of the root and the names below it.
  have hbelow : ∀ path ∈ w.filesAmong (walker.items w useShared root), ∃ rest,
      path = Path.below root rest ∧
        Path.components path = Path.components root ++ rest.map .name := by
    intro path hpath
    obtain ⟨rest, hrest, rfl⟩ := hwalker.exists_names h hnames hroot (mem_filesAmong.1 hpath)
    exact ⟨rest, rfl, Path.components_below hempty hrest⟩
  refine (hwalker.once useShared h hroot).imp_of_mem fun {a b} ha hb hne heq => hne ?_
  obtain ⟨rest, rfl, hrest⟩ := hbelow a ha
  obtain ⟨others, rfl, hothers⟩ := hbelow b hb
  rw [hrest, hothers, List.append_cancel_left_eq] at heq
  have hinj : Function.Injective Path.Component.name := fun s t hst => Path.Component.name.inj hst
  rw [List.map_injective_iff.2 hinj heq]

/-- A walk yields the same files in whatever order directories list their entries. -/
theorem Lawful.files_reordered (hwalker : walker.Lawful Ignored) (useShared : Bool)
    (h : w.tree.Proper) (hnames : w.resolve root = .ok names)
    (hroot : w.isDirectory root = true) {tree : Entry} (hreordered : w.tree.Reordered tree) :
    ({ w with tree }.filesAmong (walker.items { w with tree } useShared root)).Perm
      (w.filesAmong (walker.items w useShared root)) := by
  have halike := hreordered.alike h
  have hproper : { w with tree }.tree.Proper := hreordered.proper h
  have hnames' : { w with tree }.resolve root = .ok names := by
    rw [World.resolve_congr halike, hnames]
  have hroot' : { w with tree }.isDirectory root = true := by
    rw [World.isDirectory_congr halike, hroot]
  rw [List.perm_ext_iff_of_nodup (hwalker.once useShared hproper hroot')
    (hwalker.once useShared h hroot)]
  intro path
  rw [mem_filesAmong, mem_filesAmong]
  refine (hwalker.yields_iff useShared hproper hnames' hroot' path).trans <|
    Iff.trans ?_ (hwalker.yields_iff useShared h hnames hroot path).symm
  simp only [World.isFileAt_congr halike, hwalker.ignored_reordered useShared root h hreordered]

end

end Walker

/-! ## The walk that goes by ignore files -/

theorem firstReport_error {other message : String} {items : List (Except String String)} :
    FirstReport (.error other :: items) message ↔ message = other := by
  rw [FirstReport, exists_firstAt_cons]
  simp

theorem not_firstReport_ok (paths : List String) (message : String) :
    ¬ FirstReport (paths.map .ok) message := by
  rintro ⟨i, hfirst⟩
  have hmem := List.mem_of_getElem? hfirst.item
  simp at hmem

namespace Ignore

/-- Whether the rules leave out the file that names lead to below a root. -/
def Ignores (w : World) (useShared : Bool) (root : String) (rest : List String) : Prop :=
  ∃ names, w.resolve root = .ok names ∧
    (Start.load w useShared root names).passes w useShared [] false rest = false

section
variable {w : World} {useShared : Bool} {root : String} {names : List String} {item : Walked}

theorem isName_of_mem_walk (h : w.tree.Proper) (hitem : item ∈ walk w useShared root names) :
    ∀ name ∈ item.names, Path.IsName name := by
  obtain ⟨found, hfind, -, -⟩ := (mem_walk h).1 hitem
  exact fun name hname => h.isName_of_find? hfind name (List.mem_append_right _ hname)

/-- Different names give different paths. -/
theorem nodup_map_path (h : w.tree.Proper) (hroot : root ≠ "") :
    ((walk w useShared root names).map (·.path)).Nodup := by
  refine (nodup_walk h).map_on fun a ha b hb hpath => ?_
  have hparts := congrArg Path.components hpath
  obtain ⟨-, -, -, hbelow⟩ := (mem_walk h).1 ha
  obtain ⟨-, -, -, hbelow'⟩ := (mem_walk h).1 hb
  rw [hbelow, hbelow', Path.components_below hroot (isName_of_mem_walk h ha),
    Path.components_below hroot (isName_of_mem_walk h hb), List.append_cancel_left_eq] at hparts
  have hinj : Function.Injective Path.Component.name := fun s t hst => Path.Component.name.inj hst
  have hnames := List.map_injective_iff.2 hinj hparts
  cases a; cases b
  simp_all

theorem items_walker : walker.items w useShared root = walkItems w useShared root := rfl

theorem walkItems_of_resolve (hnames : w.resolve root = .ok names) :
    walkItems w useShared root =
      (if (Start.load w useShared root names).faults = [] then []
       else [.error (String.intercalate "\n"
        ((Start.load w useShared root names).faults.map faultMessage))]) ++
      ((walk w useShared root names).map (·.path)).map .ok := by
  simp only [walkItems, hnames, List.isEmpty_iff, List.map_map]
  rfl

/-- The files of a walk are those among what it comes by. -/
theorem filesAmong_walkItems (hnames : w.resolve root = .ok names) :
    w.filesAmong (walkItems w useShared root) =
      ((walk w useShared root names).map (·.path)).filter w.isFile := by
  rw [walkItems_of_resolve hnames, World.filesAmong_append, World.filesAmong_ok]
  split
  · rfl
  · simp [World.filesAmong, Except.toOption]

/-- Names that lead from the root to an entry lead there by path. -/
theorem isFile_below (h : w.tree.Proper) (hnames : w.resolve root = .ok names)
    {rest : List String} {found : Entry} (hfind : w.tree.find? (names ++ rest) = some found) :
    w.isFile (Path.below root rest) = found.isFile := by
  have hrest : ∀ name ∈ rest, Path.IsName name := fun name hname =>
    h.isName_of_find? hfind name (List.mem_append_right _ hname)
  simp [World.isFile, World.find?, World.resolve_below hnames hrest hfind, hfind]

theorem yields_walker_iff (h : w.tree.Proper) (hnames : w.resolve root = .ok names)
    (path : String) :
    walker.Yields w useShared root path ↔ ∃ rest, w.isFileAt (names ++ rest) = true ∧
      ¬ Ignores w useShared root rest ∧ path = Path.below root rest := by
  have hignores (rest : List String) : ¬ Ignores w useShared root rest ↔
      (Start.load w useShared root names).passes w useShared [] false rest = true := by
    simp [Ignores, hnames]
  rw [Walker.Yields, ← Walker.mem_filesAmong, items_walker, filesAmong_walkItems hnames,
    List.mem_filter, List.mem_map]
  simp only [hignores]
  constructor
  · rintro ⟨⟨item, hitem, rfl⟩, hfile⟩
    obtain ⟨found, hfind, hpasses, hpath⟩ := (mem_walk h).1 hitem
    rw [hpath, isFile_below h hnames hfind] at hfile
    rw [hfile] at hpasses
    exact ⟨item.names, by simp [World.isFileAt, hfind, hfile], hpasses, hpath⟩
  · rintro ⟨rest, hfile, hpasses, rfl⟩
    obtain ⟨bytes, hfind⟩ := World.isFileAt_iff.1 hfile
    refine ⟨⟨⟨rest, Path.below root rest⟩, (mem_walk h).2 ⟨_, hfind, hpasses, rfl⟩, rfl⟩, ?_⟩
    rw [isFile_below h hnames hfind]
    rfl

/-- All that is reported are the faults of the ignore files above the root. -/
theorem reports_walker_iff (hnames : w.resolve root = .ok names) {message : String} :
    walker.Reports w useShared root message ↔
      (Start.load w useShared root names).faults ≠ [] ∧
        message = String.intercalate "\n"
          ((Start.load w useShared root names).faults.map faultMessage) := by
  rw [Walker.Reports, items_walker, walkItems_of_resolve hnames]
  split
  · next hnone =>
    rw [List.nil_append]
    exact iff_of_false (not_firstReport_ok _ _) fun h => h.1 hnone
  · next hfaults => simp [hfaults, firstReport_error]

end

/-- **The walk that goes by ignore files is lawful.** -/
theorem walker_lawful : walker.Lawful Ignores where
  yields_iff useShared h hnames _ := yields_walker_iff h hnames
  once {w root} useShared h hroot := by
    obtain ⟨names, entries, hnames, -⟩ := World.isDirectory_iff.1 hroot
    rw [items_walker, filesAmong_walkItems hnames]
    exact (nodup_map_path h (World.ne_empty_of_resolve hnames)).filter _
  ignored_reordered useShared root h hreordered rest := by
    have halike := hreordered.alike h
    simp only [Ignores, World.resolve_congr halike, Start.load_congr halike,
      Start.passes_congr halike]
  reports_reordered {w tree} useShared root h hreordered message := by
    have halike := hreordered.alike h
    have hresolve := World.resolve_congr halike root
    cases hnames : w.resolve root with
    | ok names =>
      rw [reports_walker_iff hnames, reports_walker_iff (hresolve.trans hnames),
        Start.load_congr halike]
    | error fault =>
      simp [Walker.Reports, items_walker, walkItems, hnames, hresolve]

end Ignore

end MarkLine
