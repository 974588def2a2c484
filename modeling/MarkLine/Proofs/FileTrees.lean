import MarkLine.FileTree
import MarkLine.Proofs.Paths
import MarkLine.Proofs.Records

/-!
# File trees

A tree of entries stands for files on a disk if no directory holds two entries under one name and
every name is one (`Entry.Proper`). In such a tree the order of the entries means nothing: wherever
they are listed in another order, every list of names leads to the same file, to a directory, or
nowhere, as before (`Entry.Reordered.alike`), and so does every path (`World.find?_congr`).

A path is followed piece by piece, so a name that is joined to the path of a directory leads to the
entry that the directory holds under it (`World.find?_join`).
-/

namespace MarkLine

/-! ## Entries under distinct names -/

/-- Under distinct names, looking a name up finds the entry that is there. -/
theorem lookup_eq_some_iff_mem {α : Type} {entries : List (String × α)}
    (h : (entries.map (·.1)).Nodup) {name : String} {entry : α} :
    entries.lookup name = some entry ↔ (name, entry) ∈ entries := by
  rw [lookup_eq_head?_valuesOf, ← mem_valuesOf]
  have hlength := length_valuesOf_le_one h name
  match valuesOf name entries, hlength with
  | [], _ => simp
  | [v], _ => simp [eq_comm]

theorem lookup_eq_of_perm {α : Type} {entries others : List (String × α)}
    (h : (entries.map (·.1)).Nodup) (hperm : entries.Perm others) (name : String) :
    others.lookup name = entries.lookup name := by
  have hothers : (others.map (·.1)).Nodup := (hperm.map _).nodup_iff.1 h
  ext entry
  rw [lookup_eq_some_iff_mem h, lookup_eq_some_iff_mem hothers, hperm.mem_iff]

namespace Entry

variable {a b : Entry} {names : List String}

@[simp] theorem find?_nil (entry : Entry) : entry.find? [] = some entry := by
  cases entry <;> rfl

@[simp] theorem find?_directory (entries : List (String × Entry)) (name : String) :
    (Entry.directory entries).find? (name :: names) =
      (entries.lookup name).bind fun inner => inner.find? names := by
  simp only [find?]
  cases entries.lookup name <;> rfl

theorem find?_append (entry : Entry) (above below : List String) :
    entry.find? (above ++ below) = (entry.find? above).bind fun inner => inner.find? below := by
  induction above generalizing entry with
  | nil => simp
  | cons name above ih =>
    cases entry with
    | file bytes => rfl
    | directory entries =>
      cases h : entries.lookup name with
      | none => simp [h]
      | some inner => simp [h, ih]

/-- What holds an entry is a directory. -/
theorem exists_directory_of_find? {name : String} (h : a.find? (names ++ [name]) = some b) :
    ∃ entries, a.find? names = some (.directory entries) := by
  rw [find?_append, Option.bind_eq_some_iff] at h
  obtain ⟨entry, hentry, hinner⟩ := h
  cases entry with
  | file bytes => simp [find?] at hinner
  | directory entries => exact ⟨entries, hentry⟩

/-! ## Proper trees -/

/-- A tree of files: each directory holds its entries under distinct names. -/
inductive Proper : Entry → Prop
  | file (bytes : ByteArray) : Proper (.file bytes)
  | directory {entries : List (String × Entry)} (distinct : (entries.map (·.1)).Nodup)
      (isName : ∀ entry ∈ entries, Path.IsName entry.1)
      (inner : ∀ entry ∈ entries, Proper entry.2) : Proper (.directory entries)

mutual

/-- Whether a tree is proper, as a check. -/
def isProper : Entry → Bool
  | .file _ => true
  | .directory entries => (entries.map (·.1)).Nodup && areProper entries

def areProper : List (String × Entry) → Bool
  | [] => true
  | entry :: rest => isProperNamed entry && areProper rest

def isProperNamed : String × Entry → Bool
  | (name, entry) => decide (Path.IsName name) && isProper entry

end

theorem areProper_eq (entries : List (String × Entry)) :
    areProper entries =
      entries.all fun entry => decide (Path.IsName entry.1) && isProper entry.2 := by
  induction entries with
  | nil => rfl
  | cons entry rest ih => rw [areProper, ih, isProperNamed, List.all_cons]

theorem Proper.of_isProper : (entry : Entry) → isProper entry = true → entry.Proper
  | .file bytes, _ => .file bytes
  | .directory entries, h => by
    simp only [isProper, areProper_eq, Bool.and_eq_true, List.all_eq_true, decide_eq_true_eq] at h
    exact .directory h.1 (fun entry hentry => (h.2 entry hentry).1)
      fun entry hentry => of_isProper entry.2 (h.2 entry hentry).2
termination_by entry => sizeOf entry
decreasing_by
  obtain ⟨name, inner⟩ := entry
  have hsize := List.sizeOf_lt_of_mem hentry
  simp only [Prod.mk.sizeOf_spec, Entry.directory.sizeOf_spec] at hsize ⊢
  omega

theorem Proper.isProper (h : a.Proper) : a.isProper = true := by
  induction h with
  | file bytes => rfl
  | directory distinct isName inner ih =>
    simp only [Entry.isProper, areProper_eq, Bool.and_eq_true, List.all_eq_true, decide_eq_true_eq]
    exact ⟨distinct, fun entry hentry => ⟨isName entry hentry, ih entry hentry⟩⟩

instance : DecidablePred Proper := fun entry =>
  decidable_of_iff (entry.isProper = true) ⟨Proper.of_isProper entry, Proper.isProper⟩

theorem Proper.isName_of_find? (h : a.Proper) (hfind : a.find? names = some b) :
    ∀ name ∈ names, Path.IsName name := by
  induction names generalizing a with
  | nil => simp
  | cons name names ih =>
    cases h with
    | file bytes => simp [find?] at hfind
    | @directory entries distinct isName inner =>
      rw [find?_directory, Option.bind_eq_some_iff] at hfind
      obtain ⟨entry, hentry, hfind⟩ := hfind
      have hmem := (lookup_eq_some_iff_mem distinct).1 hentry
      intro n hn
      rcases List.mem_cons.1 hn with rfl | hn
      · exact isName _ hmem
      · exact ih (inner _ hmem) hfind n hn

theorem Proper.find? (h : a.Proper) (hfind : a.find? names = some b) : b.Proper := by
  induction names generalizing a with
  | nil =>
    obtain rfl : a = b := by simpa using hfind
    exact h
  | cons name names ih =>
    cases h with
    | file bytes => simp [Entry.find?] at hfind
    | @directory entries distinct isName inner =>
      rw [find?_directory, Option.bind_eq_some_iff] at hfind
      obtain ⟨entry, hentry, hfind⟩ := hfind
      exact ih (inner _ ((lookup_eq_some_iff_mem distinct).1 hentry)) hfind

/-! ## The order of entries -/

/-- One tree lists the entries of its directories in another order than the other. -/
inductive Reordered : Entry → Entry → Prop
  | refl (entry : Entry) : Reordered entry entry
  | here {entries others : List (String × Entry)} (perm : entries.Perm others) :
      Reordered (.directory entries) (.directory others)
  | inside {inner other : Entry} (before after : List (String × Entry)) (name : String)
      (reordered : Reordered inner other) :
      Reordered (.directory (before ++ (name, inner) :: after))
        (.directory (before ++ (name, other) :: after))
  | trans {a b c : Entry} (first : Reordered a b) (second : Reordered b c) : Reordered a c

theorem Reordered.proper (h : a.Reordered b) (ha : a.Proper) : b.Proper := by
  induction h with
  | refl entry => exact ha
  | here perm =>
    cases ha with
    | directory distinct isName inner =>
      exact .directory ((perm.map _).nodup_iff.1 distinct)
        (fun entry hentry => isName entry (perm.mem_iff.2 hentry))
        fun entry hentry => inner entry (perm.mem_iff.2 hentry)
  | @inside first other before after name _ ih =>
    cases ha with
    | directory distinct isName inner =>
      simp only [List.mem_append, List.mem_cons] at isName inner
      refine .directory (by simpa using distinct) (fun entry hentry => ?_) fun entry hentry => ?_
      · rcases List.mem_append.1 hentry with hentry | hentry
        · exact isName entry (.inl hentry)
        · rcases List.mem_cons.1 hentry with rfl | hentry
          · exact isName (name, first) (.inr (.inl rfl))
          · exact isName entry (.inr (.inr hentry))
      · rcases List.mem_append.1 hentry with hentry | hentry
        · exact inner entry (.inl hentry)
        · rcases List.mem_cons.1 hentry with rfl | hentry
          · exact ih (inner _ (.inr (.inl rfl)))
          · exact inner entry (.inr (.inr hentry))
  | trans _ _ ihfirst ihsecond => exact ihsecond (ihfirst ha)

/-- What one and the same names lead to in two trees that hold the same files. -/
inductive SameKind : Option Entry → Option Entry → Prop
  | nowhere : SameKind none none
  | file (bytes : ByteArray) : SameKind (some (.file bytes)) (some (.file bytes))
  | directory (entries others : List (String × Entry)) :
      SameKind (some (.directory entries)) (some (.directory others))

theorem SameKind.refl (found : Option Entry) : SameKind found found := by
  match found with
  | none => exact .nowhere
  | some (.file bytes) => exact .file bytes
  | some (.directory entries) => exact .directory entries entries

theorem SameKind.trans {x y z : Option Entry} (first : SameKind x y) (second : SameKind y z) :
    SameKind x z := by
  cases first with
  | nowhere => exact second
  | file bytes => exact second
  | directory entries others =>
    cases second with
    | directory _ more => exact .directory entries more

/-- Two trees hold the same files: any names lead to the same file in both, to a directory in both,
or nowhere in both. -/
def Alike (a b : Entry) : Prop :=
  ∀ names, SameKind (a.find? names) (b.find? names)

theorem Reordered.alike (h : a.Reordered b) (ha : a.Proper) : a.Alike b := by
  induction h with
  | refl entry => exact fun names => .refl _
  | @here entries others perm =>
    cases ha with
    | directory distinct isName inner =>
      intro names
      cases names with
      | nil => simpa using SameKind.directory entries others
      | cons name names => simpa [lookup_eq_of_perm distinct perm] using SameKind.refl _
  | @inside first other before after name _ ih =>
    cases ha with
    | directory distinct isName inner =>
      have hproper : first.Proper := inner (name, first) (by simp)
      intro names
      cases names with
      | nil => simpa using SameKind.directory _ _
      | cons found names =>
        rw [find?_directory, find?_directory, List.lookup_append, List.lookup_append]
        cases before.lookup found with
        | some entry => exact .refl _
        | none =>
          by_cases hname : found = name
          · simpa [hname] using ih hproper names
          · have hne : (found == name) = false := by simpa using hname
            simpa [List.lookup_cons, hne] using SameKind.refl _
  | trans first _ ihfirst ihsecond =>
    exact fun names => (ihfirst ha names).trans (ihsecond (first.proper ha) names)

theorem SameKind.isSome_eq {x y : Option Entry} (h : SameKind x y) : y.isSome = x.isSome := by
  cases h <;> rfl

end Entry

namespace World

/-! ## Following a path -/

theorem follow_append (tree : Entry) (here pieces more : List String) :
    follow tree here (pieces ++ more) =
      (follow tree here pieces).bind fun there => follow tree there more := by
  induction pieces generalizing here with
  | nil => rfl
  | cons piece pieces ih =>
    rw [List.cons_append, follow, follow]
    split
    · split
      · exact ih here
      · split
        · exact ih here.dropLast
        · split
          · exact ih (here ++ [piece])
          · rfl
    · rfl

theorem follow_congr {tree other : Entry} (h : tree.Alike other) (here pieces : List String) :
    follow other here pieces = follow tree here pieces := by
  induction pieces generalizing here with
  | nil => rfl
  | cons piece pieces ih =>
    rw [follow, follow]
    have hkind := h here
    generalize ht : tree.find? here = found at hkind
    generalize ho : other.find? here = found' at hkind
    cases hkind with
    | nowhere => rfl
    | file bytes => rfl
    | directory entries others =>
      -- The directories hold the same names.
      have hlookup : (others.lookup piece).isSome = (entries.lookup piece).isSome := by
        have hnames := (h (here ++ [piece])).isSome_eq
        rw [Entry.find?_append, Entry.find?_append, ht, ho] at hnames
        simpa using hnames
      simp only [hlookup, ih]

section
variable {w : World} {path name : String} {names : List String}

theorem resolve_congr {tree : Entry} (h : w.tree.Alike tree) (path : String) :
    { w with tree }.resolve path = w.resolve path := by
  simp only [resolve, follow_congr h]

theorem find?_congr {tree : Entry} (h : w.tree.Alike tree) (path : String) :
    Entry.SameKind (w.find? path) ({ w with tree }.find? path) := by
  rw [find?, find?, resolve_congr h]
  cases w.resolve path with
  | error fault => exact .nowhere
  | ok names => exact h names

theorem isFileAt_congr {tree : Entry} (h : w.tree.Alike tree) (names : List String) :
    { w with tree }.isFileAt names = w.isFileAt names := by
  have hkind := h names
  rw [isFileAt, isFileAt]
  generalize w.tree.find? names = found at hkind ⊢
  generalize { w with tree }.tree.find? names = found' at hkind ⊢
  cases hkind <;> rfl

theorem isDirectory_congr {tree : Entry} (h : w.tree.Alike tree) (path : String) :
    { w with tree }.isDirectory path = w.isDirectory path := by
  have hkind := find?_congr h path
  rw [isDirectory, isDirectory]
  generalize w.find? path = found at hkind ⊢
  generalize { w with tree }.find? path = found' at hkind ⊢
  cases hkind <;> rfl

theorem isFileAt_iff :
    w.isFileAt names = true ↔ ∃ bytes, w.tree.find? names = some (.file bytes) := by
  rw [isFileAt]
  match w.tree.find? names with
  | none => simp
  | some (.file bytes) => simp [Entry.isFile]
  | some (.directory entries) => simp [Entry.isFile]

theorem isDirectory_iff :
    w.isDirectory path = true ↔ ∃ names entries, w.resolve path = .ok names ∧
      w.tree.find? names = some (.directory entries) := by
  rw [isDirectory, find?]
  cases w.resolve path with
  | error fault => simp
  | ok names =>
    match h : w.tree.find? names with
    | none => simp [h]
    | some (.file bytes) => simp [h, Entry.isFile]
    | some (.directory entries) => simp [h, Entry.isFile]

theorem ne_empty_of_resolve (h : w.resolve path = .ok names) : path ≠ "" := by
  rintro rfl
  simp [resolve] at h

/-- In a directory a joined name leads to the entry of that name. -/
theorem resolve_join {entries : List (String × Entry)} (h : w.resolve path = .ok names)
    (hdirectory : w.tree.find? names = some (.directory entries)) (hname : Path.IsName name) :
    w.resolve (Path.join path name) =
      if (w.tree.find? (names ++ [name])).isSome then .ok (names ++ [name])
      else .error .notFound := by
  have hpath := ne_empty_of_resolve h
  have hjoin : Path.join path name ≠ "" := Path.join_ne_empty hname.1
  obtain ⟨pieces, -, hsplit, hpieces⟩ := Path.split_join hpath hname
  -- Both paths are followed from the same directory, and the pieces of the shorter one lead to
  -- `names` with or without the empty piece at its end.
  obtain ⟨start, hstart, hresolve⟩ : ∃ start, follow w.tree start (Path.split path) = .ok names ∧
      w.resolve (Path.join path name) =
        follow w.tree start (Path.split (Path.join path name)) := by
    rw [resolve, if_neg hpath] at h
    rw [resolve, if_neg hjoin, Path.isAbsolute_join hpath hname]
    split at h
    · exact ⟨[], h, by simp_all⟩
    · exact ⟨w.workingDir, h, by simp_all⟩
  have hnames : follow w.tree start pieces = .ok names := by
    rcases hsplit with hsplit | hsplit
    · rwa [hsplit] at hstart
    · rw [hsplit, follow_append] at hstart
      cases hthere : follow w.tree start pieces with
      | error fault => simp [hthere, Except.bind] at hstart
      | ok there =>
        simp only [hthere, Except.bind, follow, decide_true, Bool.true_or, if_true] at hstart
        split at hstart
        · exact hstart
        · cases hstart
  have hfind : w.tree.find? (names ++ [name]) = entries.lookup name := by
    rw [Entry.find?_append, hdirectory]
    simp
  obtain ⟨hempty, hhere, hup, -⟩ := hname
  rw [hresolve, hpieces, follow_append, hnames, hfind]
  simp [Except.bind, follow, hdirectory, hempty, hhere, hup]

theorem find?_join {entries : List (String × Entry)} (h : w.resolve path = .ok names)
    (hdirectory : w.tree.find? names = some (.directory entries)) (hname : Path.IsName name) :
    w.find? (Path.join path name) = w.tree.find? (names ++ [name]) := by
  rw [find?, resolve_join h hdirectory hname]
  cases hfind : w.tree.find? (names ++ [name]) <;> simp [hfind]

/-- So do any number of names, if there is something at their end. -/
theorem resolve_below {rest : List String} {found : Entry} (h : w.resolve path = .ok names)
    (hrest : ∀ name ∈ rest, Path.IsName name) (hfind : w.tree.find? (names ++ rest) = some found) :
    w.resolve (Path.below path rest) = .ok (names ++ rest) := by
  induction rest using List.reverseRecOn generalizing found with
  | nil => simpa using h
  | append_singleton above name ih =>
    have habove : ∀ n ∈ above, Path.IsName n := fun n hn => hrest n (by simp [hn])
    have hname : Path.IsName name := hrest name (by simp)
    rw [← List.append_assoc] at hfind
    obtain ⟨entries, hentries⟩ := Entry.exists_directory_of_find? hfind
    rw [Path.below_concat, resolve_join (ih habove hentries) hentries hname, hfind,
      List.append_assoc]
    rfl

/-- The canonical path of a directory leads to it. -/
theorem resolve_ofNames {entries : List (String × Entry)}
    (hnames : ∀ name ∈ names, Path.IsName name)
    (h : w.tree.find? names = some (.directory entries)) :
    w.resolve (Path.ofNames names) = .ok names := by
  have hroot : w.resolve "/" = .ok [] := by
    cases htree : w.tree with
    | file bytes => cases names <;> simp [htree, Entry.find?] at h
    | directory others =>
      simp [resolve, Path.isAbsolute, Path.split, List.splitOn_cons_eq_if_modifyHead, follow, htree]
  rw [Path.ofNames_eq_below hnames]
  exact resolve_below hroot hnames h

end

end World
end MarkLine
