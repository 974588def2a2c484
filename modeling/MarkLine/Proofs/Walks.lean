import MarkLine.Ignore.Walk
import MarkLine.Proofs.FileTrees
import Mathlib.Data.List.Nodup

/-!
# What a walk comes by

A walk goes through the entries of a directory one after the other and into the directories among
them. What it comes by can be said without it: the entries that names lead to from the root, if the
rules pass every step on the way (`Start.passes`). A walk lists these entries and no others
(`mem_walk`), each of them once (`nodup_walk`), and the rules do not hang on the order in which
directories list their entries (`Start.passes_congr`).
-/

namespace MarkLine.Ignore

/-! ## The way to an entry -/

/-- The rules that count for the entries of a directory below the root: its own, and those of the
directories above it up to the root. -/
def levelsOf (w : World) (useShared : Bool) (root : String) (directory : List String) :
    List Level :=
  (Path.upward directory).map fun above => Level.load w useShared (Path.below root above)

/-- Whether the rules pass what some names lead to from a directory on: they ignore neither a
directory on the way nor what stands at its end, a file or a directory too. -/
def Start.passes (w : World) (useShared : Bool) (start : Start) (directory : List String)
    (isDirectory : Bool) : List String → Bool
  | [] => true
  | name :: rest =>
    start.verdict (levelsOf w useShared start.path directory)
        (Path.below start.path (directory ++ [name])) (isDirectory || !rest.isEmpty) !=
          some .ignored &&
      start.passes w useShared (directory ++ [name]) isDirectory rest

section
variable {w : World} {useShared : Bool} {start : Start} {entry : Entry} {item : Walked}

theorem levelsOf_cons (directory : List String) :
    Level.load w useShared (Path.below start.path directory) ::
        (levelsOf w useShared start.path directory).tail =
      levelsOf w useShared start.path directory := by
  rw [levelsOf, Path.upward_eq_cons]
  rfl

theorem tail_levelsOf_concat (directory : List String) (name : String) :
    (levelsOf w useShared start.path (directory ++ [name])).tail =
      levelsOf w useShared start.path directory := by
  rw [levelsOf, Path.upward_concat]
  rfl

/-- Only a file has nothing below it. -/
theorem isFile_of_find? {rest : List String} {found : Entry} (h : entry.find? rest = some found) :
    (!entry.isFile) = (!found.isFile || !rest.isEmpty) := by
  cases rest with
  | nil =>
    obtain rfl : entry = found := by simpa using h
    simp
  | cons name rest =>
    cases entry with
    | file bytes => simp [Entry.find?] at h
    | directory entries => simp [Entry.isFile]

/-! ## Entries one by one -/

theorem walkEntries_eq (levels : List Level) (here : Walked) (entries : List (String × Entry)) :
    walkEntries w useShared start levels here entries =
      entries.flatMap (walkNamed w useShared start levels here) := by
  induction entries with
  | nil => rfl
  | cons entry rest ih => rw [walkEntries, ih, List.flatMap_cons]

/-- Where a walk stands when it has gone from the root to a directory. -/
def Start.at (start : Start) (directory : List String) : Walked :=
  ⟨directory, Path.below start.path directory⟩

theorem walkEntry_directory (directory : List String) (entries : List (String × Entry)) :
    walkEntry w useShared start (levelsOf w useShared start.path directory).tail
        (start.at directory) (.directory entries) =
      start.at directory :: entries.flatMap
        (walkNamed w useShared start (levelsOf w useShared start.path directory)
          (start.at directory)) := by
  rw [walkEntry, walkEntries_eq, Start.at, levelsOf_cons]

/-- An entry that is not ignored is walked from the place that its name leads to. -/
theorem walkNamed_eq (directory : List String) (name : String) (entry : Entry) :
    walkNamed w useShared start (levelsOf w useShared start.path directory) (start.at directory)
        (name, entry) =
      if start.verdict (levelsOf w useShared start.path directory)
          (Path.below start.path (directory ++ [name])) (!entry.isFile) = some .ignored then []
      else walkEntry w useShared start
        (levelsOf w useShared start.path (directory ++ [name])).tail
        (start.at (directory ++ [name])) entry := by
  simp only [walkNamed, Start.at, tail_levelsOf_concat, Path.below_concat]
  congr

/-- What lies at or below an entry is what names lead to from it past all rules. -/
theorem mem_walkEntry (h : entry.Proper) (directory : List String) :
    item ∈ walkEntry w useShared start (levelsOf w useShared start.path directory).tail
        (start.at directory) entry ↔
      ∃ rest found, entry.find? rest = some found ∧
        start.passes w useShared directory (!found.isFile) rest = true ∧
        item = start.at (directory ++ rest) := by
  induction h generalizing directory with
  | file bytes =>
    rw [walkEntry, List.mem_singleton]
    constructor
    · rintro rfl
      exact ⟨[], .file bytes, rfl, rfl, by simp⟩
    · rintro ⟨rest, found, hfind, -, rfl⟩
      cases rest with
      | nil => simp
      | cons name rest => simp [Entry.find?] at hfind
  | @directory entries distinct isName inner ih =>
    rw [walkEntry_directory, List.mem_cons, List.mem_flatMap]
    constructor
    · rintro (rfl | ⟨⟨name, entry⟩, hentry, hitem⟩)
      · exact ⟨[], .directory entries, by simp, rfl, by simp⟩
      · rw [walkNamed_eq] at hitem
        split at hitem
        · simp at hitem
        · next hkept =>
          obtain ⟨rest, found, hfind, hpasses, rfl⟩ := (ih _ hentry _).1 hitem
          have hlookup := (lookup_eq_some_iff_mem distinct).2 hentry
          refine ⟨name :: rest, found, by simpa [hlookup] using hfind, ?_, by simp⟩
          rw [isFile_of_find? hfind] at hkept
          simp [Start.passes, hkept, hpasses]
    · rintro ⟨rest, found, hfind, hpasses, rfl⟩
      cases rest with
      | nil => exact .inl (by simp)
      | cons name rest =>
        rw [Entry.find?_directory, Option.bind_eq_some_iff] at hfind
        obtain ⟨entry, hlookup, hfind⟩ := hfind
        have hentry := (lookup_eq_some_iff_mem distinct).1 hlookup
        simp only [Start.passes, Bool.and_eq_true, bne_iff_ne] at hpasses
        refine .inr ⟨(name, entry), hentry, ?_⟩
        rw [walkNamed_eq, isFile_of_find? hfind, if_neg hpasses.1]
        exact (ih _ hentry _).2 ⟨rest, found, hfind, hpasses.2, by simp⟩

theorem nodup_walkEntry (h : entry.Proper) (directory : List String) :
    (walkEntry w useShared start (levelsOf w useShared start.path directory).tail
      (start.at directory) entry).Nodup := by
  induction h generalizing directory with
  | file bytes => simp [walkEntry]
  | @directory entries distinct isName inner ih =>
    -- What lies below an entry is reached through its name.
    have hbelow : ∀ {name entry item}, (name, entry) ∈ entries →
        item ∈ walkNamed w useShared start (levelsOf w useShared start.path directory)
          (start.at directory) (name, entry) →
        ∃ rest, item.names = directory ++ name :: rest := by
      intro name entry item hentry hitem
      rw [walkNamed_eq] at hitem
      split at hitem
      · simp at hitem
      · obtain ⟨rest, -, -, -, rfl⟩ := (mem_walkEntry (inner _ hentry) _).1 hitem
        exact ⟨rest, by simp [Start.at]⟩
    rw [walkEntry_directory, List.nodup_cons, List.nodup_flatMap]
    refine ⟨?_, ?_, ?_⟩
    · rintro hself
      obtain ⟨entry, hentry, hitem⟩ := List.mem_flatMap.1 hself
      obtain ⟨rest, hrest⟩ := hbelow hentry hitem
      simp [Start.at] at hrest
    · rintro ⟨name, entry⟩ hentry
      rw [walkNamed_eq]
      split
      · exact List.nodup_nil
      · exact ih _ hentry _
    · have hnames : entries.Pairwise fun a b => a.1 ≠ b.1 := List.pairwise_map.1 distinct
      refine hnames.imp_of_mem fun {a b} ha hb hne => ?_
      intro item hfirst hsecond
      obtain ⟨rest, hrest⟩ := hbelow ha hfirst
      obtain ⟨rest', hrest'⟩ := hbelow hb hsecond
      rw [hrest, List.append_cancel_left_eq, List.cons.injEq] at hrest'
      exact hne hrest'.1

end

/-! ## Whole walks -/

section
variable {w : World} {useShared : Bool} {root : String} {names : List String} {item : Walked}

theorem walk_of_find? {entry : Entry} (h : w.tree.find? names = some entry) :
    walk w useShared root names =
      walkEntry w useShared (.load w useShared root names)
        (levelsOf w useShared (Start.load w useShared root names).path []).tail
        ((Start.load w useShared root names).at []) entry := by
  rw [walk, h]
  rfl

/-- **A walk lists what lies below its root and the rules pass**, each under its own path. -/
theorem mem_walk (h : w.tree.Proper) :
    item ∈ walk w useShared root names ↔
      ∃ found, w.tree.find? (names ++ item.names) = some found ∧
        (Start.load w useShared root names).passes w useShared [] (!found.isFile) item.names =
          true ∧
        item.path = Path.below root item.names := by
  rw [Entry.find?_append]
  cases hentry : w.tree.find? names with
  | none => simp [walk, hentry]
  | some entry =>
    rw [walk_of_find? hentry, mem_walkEntry (h.find? hentry), Option.bind_some]
    constructor
    · rintro ⟨rest, found, hfind, hpasses, rfl⟩
      exact ⟨found, hfind, hpasses, rfl⟩
    · rintro ⟨found, hfind, hpasses, hpath⟩
      refine ⟨item.names, found, hfind, hpasses, ?_⟩
      obtain ⟨below, path⟩ := item
      simp only [Start.at, List.nil_append, Walked.mk.injEq, true_and]
      exact hpath

/-- It lists none of them twice. -/
theorem nodup_walk (h : w.tree.Proper) : (walk w useShared root names).Nodup := by
  cases hentry : w.tree.find? names with
  | none => simp [walk, hentry]
  | some entry =>
    rw [walk_of_find? hentry]
    exact nodup_walkEntry (h.find? hentry) []

/-! ## The order of entries -/

variable {tree : Entry}

theorem RuleFile.load_congr (h : w.tree.Alike tree) (directory path : String) :
    RuleFile.load { w with tree } directory path = RuleFile.load w directory path := by
  have hkind := World.find?_congr h path
  rw [RuleFile.load, RuleFile.load]
  generalize w.find? path = found at hkind ⊢
  generalize { w with tree }.find? path = found' at hkind ⊢
  cases hkind <;> rfl

theorem Level.load_congr (h : w.tree.Alike tree) (directory : String) :
    Level.load { w with tree } useShared directory = Level.load w useShared directory := by
  simp only [Level.load, RuleFile.load_congr h]

theorem namedIn_congr (h : w.tree.Alike tree) (config : String) :
    namedIn { w with tree } config = namedIn w config := by
  have hkind := World.find?_congr h config
  rw [namedIn, namedIn]
  generalize w.find? config = found at hkind ⊢
  generalize { w with tree }.find? config = found' at hkind ⊢
  cases hkind <;> rfl

theorem userRules_congr (h : w.tree.Alike tree) : userRules { w with tree } = userRules w := by
  have hfile : userFile { w with tree } = userFile w := by
    rw [userFile, funext (namedIn_congr h)]
    rfl
  simp only [userRules, hfile, RuleFile.load_congr h]

theorem Start.load_congr (h : w.tree.Alike tree) :
    Start.load { w with tree } useShared root names = Start.load w useShared root names := by
  simp only [Start.load, funext (Level.load_congr h), userRules_congr h]

theorem Start.passes_congr (h : w.tree.Alike tree) (start : Start) (directory : List String)
    (isDirectory : Bool) (rest : List String) :
    start.passes { w with tree } useShared directory isDirectory rest =
      start.passes w useShared directory isDirectory rest := by
  induction rest generalizing directory with
  | nil => rfl
  | cons name rest ih => simp only [Start.passes, levelsOf, Level.load_congr h, ih]

end

end MarkLine.Ignore
