import MarkLine.Proofs.LawfulWalks
import MarkLine.Proofs.PathOrder

/-!
# Discovered files

A discovery checks its root, then its patterns, and then goes through a walk; the first thing that
is wrong is its result. If all is well the result is the list of the selected files, and this says
all about it (`SelectedFiles`): it strictly increases part by part, and a path is in it exactly if
the walk yields it, an include pattern matches its names below the root, and no exclude pattern
does.

How a walk goes and what a pattern matches are no questions of a discovery. What it gives is told
for every matcher and for every lawful walker, and if the order in which directories list their
entries does not show in the walk, it does not show in the result either (`discover_outcome`).
-/

namespace MarkLine

/-! ## Patterns -/

namespace Matcher

section
variable (matcher : Matcher)

def IsPattern (text : String) : Prop := ∃ pattern, matcher.parse text = .ok pattern

/-- The fault of the first of some texts that is no pattern. -/
def FirstFault (texts : List String) (message : String) : Prop :=
  ∃ i text, FirstAt (fun _ text => ¬ matcher.IsPattern text) texts i text ∧
    matcher.parse text = .error message

/-- Whether the pattern that a text stands for matches a path. -/
def Matches (text path : String) : Prop :=
  ∃ pattern, matcher.parse text = .ok pattern ∧ matcher.isMatch pattern path = true

instance : DecidablePred matcher.IsPattern := fun text =>
  decidable_of_iff ((matcher.parse text).toOption.isSome = true) <| by
    cases h : matcher.parse text <;> simp [IsPattern, h, Except.toOption]

instance (text path : String) : Decidable (matcher.Matches text path) :=
  decidable_of_iff ((matcher.parse text).toOption.any (matcher.isMatch · path) = true) <| by
    cases h : matcher.parse text <;> simp [Matches, h, Except.toOption]

theorem numbered_parseAll : Numbered (fun _ => matcher.parse) fun _ => matcher.parseAll :=
  ⟨fun _ => rfl, fun _ _ _ => rfl⟩

end

section
variable {matcher : Matcher} {texts : List String} {patterns : List matcher.Pattern}

theorem parseAll_eq_ok_iff :
    matcher.parseAll texts = .ok patterns ↔
      List.Forall₂ (fun text pattern => matcher.parse text = .ok pattern) texts patterns :=
  @Numbered.eq_ok_iff _ _ _ _ _ 0 _ matcher.numbered_parseAll _ (fun _ _ _ => Iff.rfl) _

theorem parseAll_eq_error_iff {message : String} :
    matcher.parseAll texts = .error message ↔ matcher.FirstFault texts message :=
  @Numbered.eq_error_iff _ _ _ _ _ 0 _ matcher.numbered_parseAll _ (fun _ _ => Iff.rfl) _

theorem isPattern_of_parseAll (h : matcher.parseAll texts = .ok patterns) :
    ∀ text ∈ texts, matcher.IsPattern text := by
  rw [parseAll_eq_ok_iff] at h
  induction h with
  | nil => simp
  | cons hparse _ ih => exact List.forall_mem_cons.2 ⟨⟨_, hparse⟩, ih⟩

theorem anyMatches_iff (h : matcher.parseAll texts = .ok patterns) {path : String} :
    matcher.anyMatches patterns path = true ↔ ∃ text ∈ texts, matcher.Matches text path := by
  rw [parseAll_eq_ok_iff] at h
  induction h with
  | nil => simp [anyMatches]
  | @cons text pattern texts patterns hparse _ ih =>
    have hfirst : matcher.Matches text path ↔ matcher.isMatch pattern path = true := by
      simp [Matches, hparse]
    simp only [anyMatches, List.any_cons, Bool.or_eq_true, List.mem_cons, exists_eq_or_imp,
      hfirst] at ih ⊢
    rw [ih]

end

end Matcher

/-! ## Selected files -/

/-- The list of the files below a root that settings select. -/
structure SelectedFiles (walker : Walker) (matcher : Matcher) (w : World)
    (settings : DiscoverySettings) (root : String) (files : List String) : Prop where
  /-- The paths increase part by part. -/
  increasing : files.Pairwise Path.Before
  /-- So none is listed twice. -/
  distinct : files.Nodup
  mem_iff : ∀ path, path ∈ files ↔
    walker.Yields w settings.respectGitignore root path ∧
      (∃ text ∈ settings.includes, matcher.Matches text (Path.relativeTo root path)) ∧
      ¬ ∃ text ∈ settings.excludes, matcher.Matches text (Path.relativeTo root path)
  /-- What the patterns are held against are the names of a file below the root. -/
  relative : ∀ path, walker.Yields w settings.respectGitignore root path →
    ∃ names, path = Path.below root names ∧
      Path.relativeTo root path = String.intercalate "/" names

/-- The path that a discovery starts from: the root of the settings, from `base` if it is relative.
-/
def DiscoverySettings.rootFrom (settings : DiscoverySettings) (base : String) : String :=
  if Path.isAbsolute settings.root then settings.root else Path.join base settings.root

theorem rootFrom_eq (settings : DiscoverySettings) (base : String) :
    settings.rootFrom base = Path.join base settings.root := by
  rw [DiscoverySettings.rootFrom]
  split
  · next h => simp [Path.join, h]
  · rfl

namespace Search

section
variable {matcher : Matcher} {w : World} {s : Search matcher} {items : List (Except String String)}

def selects (s : Search matcher) (path : String) : Bool :=
  matcher.anyMatches s.includes (Path.relativeTo s.root path) && !s.isExcluded path

theorem fault_visit_cons (path : String) :
    (s.visit w (.ok path :: items)).fault = (s.visit w items).fault := by
  simp only [visit]
  split
  · rfl
  · split <;> rfl

/-- A walk ends with its first fault. -/
theorem fault_visit_eq_some_iff {message : String} :
    (s.visit w items).fault = some message ↔ FirstReport items message := by
  induction items with
  | nil => simp [visit, FirstReport, not_firstAt_nil]
  | cons item items ih =>
    rw [FirstReport, exists_firstAt_cons, ← FirstReport]
    cases item with
    | error other => simp [visit, eq_comm]
    | ok path => simp [fault_visit_cons, ih]

/-- Without a fault the files found are those of the walk that the patterns select. -/
theorem files_visit (h : (s.visit w items).fault = none) :
    (s.visit w items).files = (w.filesAmong items).filter s.selects := by
  induction items with
  | nil => rfl
  | cons item items ih =>
    cases item with
    | error message => simp [visit] at h
    | ok path =>
      rw [fault_visit_cons] at h
      have hselects : s.selects path =
          (matcher.anyMatches s.includes (Path.relativeTo s.root path) && !s.isExcluded path) := rfl
      rw [World.filesAmong_cons, visit, isCandidate]
      cases w.isFile path with
      | false => exact ih h
      | true =>
        cases hmatch : matcher.anyMatches s.includes (Path.relativeTo s.root path) with
        | false => simp [hselects, hmatch, ih h]
        | true => cases hexcluded : s.isExcluded path <;> simp [hselects, hmatch, hexcluded, ih h]

end

/-- Once the root is a directory, the patterns are checked, and then the walk begins. -/
theorem discoverWith_of_directory {walker : Walker} {matcher : Matcher} {w : World}
    {settings : DiscoverySettings} {base : String}
    (h : w.isDirectory (settings.rootFrom base) = true) :
    discoverWith walker matcher w settings base =
      ((matcher.parseAll settings.includes).mapError .pattern).bind fun includes =>
        ((matcher.parseAll settings.excludes).mapError .pattern).bind fun excludes =>
          (visit w ⟨settings.rootFrom base, includes, excludes⟩
            (walker.items w settings.respectGitignore (settings.rootFrom base))).outcome := by
  rw [rootFrom_eq] at *
  simp only [discoverWith, ofSettings, h]
  cases matcher.parseAll settings.includes with
  | error message => rfl
  | ok includes => cases matcher.parseAll settings.excludes <;> rfl

theorem discoverWith_of_not_directory {walker : Walker} {matcher : Matcher} {w : World}
    {settings : DiscoverySettings} {base : String}
    (h : w.isDirectory (settings.rootFrom base) = false) :
    discoverWith walker matcher w settings base =
      .error (.missingRoot (settings.rootFrom base)) := by
  rw [rootFrom_eq] at *
  simp only [discoverWith, ofSettings, h]
  rfl

section
variable {walker : Walker} {Ignored : World → Bool → String → List String → Prop}
  {matcher : Matcher} {w : World} {settings : DiscoverySettings} {s : Search matcher}
  {names : List String} (hwalker : walker.Lawful Ignored) (h : w.tree.Proper)
  (hnames : w.resolve s.root = .ok names) (hroot : w.isDirectory s.root = true)
include hwalker h hnames hroot

/-- The files of a search are the ones that its settings select. -/
theorem selectedFiles_visit (hincludes : matcher.parseAll settings.includes = .ok s.includes)
    (hexcludes : matcher.parseAll settings.excludes = .ok s.excludes)
    (hfault : (s.visit w (walker.items w settings.respectGitignore s.root)).fault = none) :
    SelectedFiles walker matcher w settings s.root
      (Path.sort (s.visit w (walker.items w settings.respectGitignore s.root)).files) := by
  rw [files_visit hfault]
  have hincreasing := Path.pairwise_sort
    ((hwalker.pairwise_components settings.respectGitignore h hnames hroot).filter s.selects)
  refine ⟨hincreasing, hincreasing.imp ?_, fun path => ?_, fun path hyields => ?_⟩
  · rintro a b hab rfl
    exact Path.not_before_self a hab
  · rw [(Path.sort_perm _).mem_iff, List.mem_filter, Walker.mem_filesAmong, selects, isExcluded,
      Bool.and_eq_true, Bool.not_eq_true', ← Bool.not_eq_true, Matcher.anyMatches_iff hincludes,
      Matcher.anyMatches_iff hexcludes]
    exact Iff.rfl
  · obtain ⟨rest, hrest, rfl⟩ := hwalker.exists_names h hnames hroot hyields
    exact ⟨rest, rfl, Path.relativeTo_below (World.ne_empty_of_resolve hnames) hrest⟩

/-- What a search comes to does not show the order in which directories list their entries. -/
theorem outcome_reordered (useShared : Bool) {tree : Entry} (hreordered : w.tree.Reordered tree) :
    (s.visit { w with tree } (walker.items { w with tree } useShared s.root)).outcome =
      (s.visit w (walker.items w useShared s.root)).outcome := by
  have hfault : (s.visit { w with tree } (walker.items { w with tree } useShared s.root)).fault =
      (s.visit w (walker.items w useShared s.root)).fault := by
    ext message
    rw [fault_visit_eq_some_iff, fault_visit_eq_some_iff]
    exact hwalker.reports_reordered useShared s.root h hreordered message
  rw [Found.outcome, Found.outcome, hfault]
  cases hnone : (s.visit w (walker.items w useShared s.root)).fault with
  | some message => rfl
  | none =>
    have hperm := (hwalker.files_reordered useShared h hnames hroot hreordered).filter s.selects
    have hparts := (hwalker.pairwise_components useShared h hnames hroot).filter s.selects
    rw [files_visit hnone, files_visit (hfault.trans hnone)]
    exact congrArg Except.ok (Path.sort_eq_of_perm hparts hperm)

end

end Search

/-! ## What a discovery gives -/

/-- What a discovery at a root gives: the first thing that is wrong or, if nothing is, the selected
files. -/
inductive Discovered (walker : Walker) (matcher : Matcher) (w : World)
    (settings : DiscoverySettings) (root : String) : Except DiscoveryFault (List String) → Prop
  | missingRoot (noRoot : w.isDirectory root = false) :
      Discovered walker matcher w settings root (.error (.missingRoot root))
  | badInclude {message : String} (isRoot : w.isDirectory root = true)
      (first : matcher.FirstFault settings.includes message) :
      Discovered walker matcher w settings root (.error (.pattern message))
  | badExclude {message : String} (isRoot : w.isDirectory root = true)
      (includes : ∀ text ∈ settings.includes, matcher.IsPattern text)
      (first : matcher.FirstFault settings.excludes message) :
      Discovered walker matcher w settings root (.error (.pattern message))
  | badWalk {message : String} (isRoot : w.isDirectory root = true)
      (patterns : ∀ text ∈ settings.includes ++ settings.excludes, matcher.IsPattern text)
      (first : walker.Reports w settings.respectGitignore root message) :
      Discovered walker matcher w settings root (.error (.walk message))
  | files {files : List String} (isRoot : w.isDirectory root = true)
      (patterns : ∀ text ∈ settings.includes ++ settings.excludes, matcher.IsPattern text)
      (noFault : ∀ message, ¬ walker.Reports w settings.respectGitignore root message)
      (selected : SelectedFiles walker matcher w settings root files) :
      Discovered walker matcher w settings root (.ok files)

section
variable {walker : Walker} {Ignored : World → Bool → String → List String → Prop}
  {matcher : Matcher} {w : World} {settings : DiscoverySettings} {base : String}

/-- A discovery whose root is a directory gives the first bad pattern, the first fault of the walk,
or the files. -/
theorem discovered_of_directory (hwalker : walker.Lawful Ignored) (h : w.tree.Proper)
    (hdirectory : w.isDirectory (settings.rootFrom base) = true) :
    Discovered walker matcher w settings (settings.rootFrom base)
      (discoverWith walker matcher w settings base) := by
  obtain ⟨names, entries, hnames, -⟩ := World.isDirectory_iff.1 hdirectory
  rw [Search.discoverWith_of_directory hdirectory]
  cases hincludes : matcher.parseAll settings.includes with
  | error message => exact .badInclude hdirectory (Matcher.parseAll_eq_error_iff.1 hincludes)
  | ok includes =>
    have hallIncludes := Matcher.isPattern_of_parseAll hincludes
    cases hexcludes : matcher.parseAll settings.excludes with
    | error message =>
      exact .badExclude hdirectory hallIncludes (Matcher.parseAll_eq_error_iff.1 hexcludes)
    | ok excludes =>
      have hpatterns : ∀ text ∈ settings.includes ++ settings.excludes, matcher.IsPattern text :=
        List.forall_mem_append.2 ⟨hallIncludes, Matcher.isPattern_of_parseAll hexcludes⟩
      let s : Search matcher := ⟨settings.rootFrom base, includes, excludes⟩
      let items := walker.items w settings.respectGitignore s.root
      change Discovered walker matcher w settings s.root (s.visit w items).outcome
      rw [Found.outcome]
      cases hfault : (s.visit w items).fault with
      | some message =>
        exact .badWalk hdirectory hpatterns (Search.fault_visit_eq_some_iff.1 hfault)
      | none =>
        refine .files hdirectory hpatterns (fun message hreports => ?_)
          (Search.selectedFiles_visit hwalker h hnames hdirectory hincludes hexcludes hfault)
        rw [Walker.Reports, ← @Search.fault_visit_eq_some_iff matcher w s, hfault] at hreports
        cases hreports

/-- A discovery gives the same in whatever order directories list their entries. -/
theorem discover_reordered (hwalker : walker.Lawful Ignored) (h : w.tree.Proper) {tree : Entry}
    (hreordered : w.tree.Reordered tree) :
    discoverWith walker matcher { w with tree } settings base =
      discoverWith walker matcher w settings base := by
  have hsame := World.isDirectory_congr (hreordered.alike h) (settings.rootFrom base)
  cases hdirectory : w.isDirectory (settings.rootFrom base) with
  | false =>
    rw [Search.discoverWith_of_not_directory hdirectory,
      Search.discoverWith_of_not_directory (hsame.trans hdirectory)]
  | true =>
    obtain ⟨names, entries, hnames, -⟩ := World.isDirectory_iff.1 hdirectory
    rw [Search.discoverWith_of_directory hdirectory,
      Search.discoverWith_of_directory (hsame.trans hdirectory)]
    refine congrArg _ (funext fun includes => congrArg _ (funext fun excludes => ?_))
    exact Search.outcome_reordered (s := ⟨settings.rootFrom base, includes, excludes⟩) hwalker h
      hnames hdirectory settings.respectGitignore hreordered

/-- Files that are found in the order of their parts are listed in that order. -/
theorem discoverWith_of_ordered {files : List String}
    (h : ((Search.ofSettings matcher w settings base).map fun s =>
      let found := s.visit w (walker.items w settings.respectGitignore s.root)
      (found.files, found.fault)).toOption = some (files, none))
    (hordered : files.Pairwise fun a b => (!Path.before b a) = true) :
    discoverWith walker matcher w settings base = .ok files := by
  rw [discoverWith]
  cases hs : Search.ofSettings matcher w settings base with
  | error fault => simp [hs, Except.map, Except.toOption] at h
  | ok s =>
    obtain ⟨hfiles, hfault⟩ : (s.visit w (walker.items w settings.respectGitignore s.root)).files =
        files ∧ (s.visit w (walker.items w settings.respectGitignore s.root)).fault = none := by
      simpa [hs, Except.map, Except.toOption] using h
    simp only [bind, Except.bind, Found.outcome, hfault, hfiles]
    rw [Path.sort, List.mergeSort_of_pairwise hordered]

end

/-- A suite file beside a directory whose name starts its name. -/
def besideDirectory : World where
  tree := .directory [("p", .directory
    [("a", .directory [("b.fixture.toml", .file .empty), ("target", .directory
      [("c.fixture.toml", .file .empty)])]), ("a.fixture.toml", .file .empty)])]
  workingDir := []
  home := none
  configDir := none

/-- A project with one suite file, and a line that is no pattern in an ignore file above it. -/
def faultyIgnoreFile : World where
  tree := .directory
    [(".gitignore", .file "[z-a]\n".toUTF8), ("p", .directory [("a.fixture.toml", .file .empty)])]
  workingDir := []
  home := none
  configDir := none

end MarkLine
