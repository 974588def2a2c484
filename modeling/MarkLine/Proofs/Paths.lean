import MarkLine.Path
import MarkLine.Proofs.Lines
import Mathlib.Data.List.Induction

/-!
# Names in a path

A path is a text, but everything below a directory is reached by names. This file says what the
text shows of the names: a name that is joined to a path is one more piece at its end (`split_join`)
and one more part (`components_join`), the path of the directory that holds it is the path it was
joined to (`parent?_ofNames`), and taken relative to that path it is the name again
(`relativeTo_below`).

Nothing of this holds of every text. A name holds no slash and is none of the three texts that lead
nowhere new (`IsName`); a path that names are joined to is not empty.
-/

namespace MarkLine.Path

/-- A name that an entry of a directory can have. -/
def IsName (name : String) : Prop :=
  name ≠ "" ∧ name ≠ "." ∧ name ≠ ".." ∧ '/' ∉ name.toList

instance (name : String) : Decidable (IsName name) :=
  inferInstanceAs (Decidable (name ≠ "" ∧ name ≠ "." ∧ name ≠ ".." ∧ '/' ∉ name.toList))

/-- The path at the end of some names below a path. -/
def below (path : String) (names : List String) : String :=
  names.foldl join path

@[simp] theorem below_nil (path : String) : below path [] = path := rfl

theorem below_concat (path : String) (names : List String) (name : String) :
    below path (names ++ [name]) = join (below path names) name := by
  simp [below]

section
variable {path name : String} {names : List String}

theorem component?_name (h : IsName name) : component? name = some (.name name) := by
  obtain ⟨hempty, hhere, hup, -⟩ := h
  simp [component?, hempty, hhere, hup]

theorem toList_ne_nil (h : path ≠ "") : path.toList ≠ [] := by
  simpa using h

/-! ## Pieces -/

theorem split_ne_nil (path : String) : split path ≠ [] := by
  simp [split, List.splitOn_ne_nil]

theorem split_name (h : IsName name) : split name = [name] := by
  simp [split, List.splitOn_eq_singleton h.2.2.2]

theorem split_join_slash (above below : String) :
    split (above ++ "/" ++ below) = split above ++ split below := by
  simp [split, List.splitOn_append_cons_self]

/-- The first piece of a path is empty only if the path starts with a slash. -/
theorem first_ne_empty (hpath : path ≠ "") (hrelative : isAbsolute path = false) {first : String}
    {more : List String} (h : split path = first :: more) : first ≠ "" := by
  obtain ⟨c, cs, hcs⟩ := List.exists_cons_of_ne_nil (toList_ne_nil hpath)
  have hc : c ≠ '/' := by simpa [isAbsolute, hcs] using hrelative
  obtain ⟨piece, pieces, hpieces⟩ := List.exists_cons_of_ne_nil (List.splitOn_ne_nil '/' cs)
  simp only [split, hcs, Text.splitOn_cons_of_ne hc hpieces, List.map_cons, List.cons.injEq] at h
  rw [← h.1]
  simp

/-! ## Joining a name -/

theorem isAbsolute_name (h : IsName name) : isAbsolute name = false := by
  obtain ⟨hempty, -, -, hslash⟩ := h
  obtain ⟨c, cs, hcs⟩ := List.exists_cons_of_ne_nil (toList_ne_nil hempty)
  rw [hcs] at hslash
  have hc : c ≠ '/' := fun e => hslash (e ▸ List.mem_cons_self)
  simp [isAbsolute, hcs, hc]

theorem join_ne_empty (h : name ≠ "") : join path name ≠ "" := by
  unfold join
  split
  · exact h
  · split <;> simp [h]

theorem isAbsolute_join (hpath : path ≠ "") (hname : IsName name) :
    isAbsolute (join path name) = isAbsolute path := by
  obtain ⟨c, cs, hcs⟩ := List.exists_cons_of_ne_nil (toList_ne_nil hpath)
  simp only [join, isAbsolute_name hname, hpath, Bool.false_or, decide_false, Bool.false_eq_true,
    if_false]
  split <;> simp [isAbsolute, hcs]

/-- A joined name is the last piece. It takes the place of the empty piece that a slash leaves at
the end of a path. -/
theorem split_join (hpath : path ≠ "") (hname : IsName name) :
    ∃ pieces, pieces ≠ [] ∧ (split path = pieces ∨ split path = pieces ++ [""]) ∧
      split (join path name) = pieces ++ [name] := by
  have hjoin : join path name =
      if path.toList.getLast? = some '/' then path ++ name else path ++ "/" ++ name := by
    simp [join, isAbsolute_name hname, hpath]
  by_cases hlast : path.toList.getLast? = some '/'
  · obtain ⟨cs, hcs⟩ := List.getLast?_eq_some_iff.1 hlast
    obtain rfl : path = String.ofList cs ++ "/" ++ "" := by
      rw [← String.toList_inj, hcs]
      simp
    refine ⟨split (String.ofList cs), split_ne_nil _, .inr (split_join_slash _ _), ?_⟩
    rw [hjoin, if_pos hlast, String.append_empty, split_join_slash, split_name hname]
  · refine ⟨split path, split_ne_nil _, .inl rfl, ?_⟩
    rw [hjoin, if_neg hlast, split_join_slash, split_name hname]

/-- A joined name is the last part. -/
theorem components_join (hpath : path ≠ "") (hname : IsName name) :
    components (join path name) = components path ++ [.name name] := by
  obtain ⟨pieces, hne, hsplit, hjoin⟩ := split_join hpath hname
  obtain ⟨first, more, rfl⟩ := List.exists_cons_of_ne_nil hne
  have hname' := component?_name hname
  have hempty : component? "" = none := rfl
  rcases hsplit with hsplit | hsplit <;>
    simp [components, hjoin, hsplit, isAbsolute_join hpath hname, hname', hempty]

theorem below_ne_empty (hpath : path ≠ "") (hnames : ∀ name ∈ names, IsName name) :
    below path names ≠ "" := by
  rcases List.eq_nil_or_concat names with rfl | ⟨names, name, rfl⟩
  · exact hpath
  · rw [List.concat_eq_append, below_concat]
    exact join_ne_empty (hnames name (by simp)).1

theorem components_below (hpath : path ≠ "") (hnames : ∀ name ∈ names, IsName name) :
    components (below path names) = components path ++ names.map .name := by
  induction names using List.reverseRecOn with
  | nil => simp
  | append_singleton names name ih =>
    have habove : ∀ n ∈ names, IsName n := fun n hn => hnames n (by simp [hn])
    rw [below_concat, components_join (below_ne_empty hpath habove) (hnames name (by simp)),
      ih habove]
    simp

/-! ## Relative paths -/

theorem isAbsolute_below (hpath : path ≠ "") (hnames : ∀ name ∈ names, IsName name) :
    isAbsolute (below path names) = isAbsolute path := by
  induction names using List.reverseRecOn with
  | nil => rfl
  | append_singleton names name ih =>
    have habove : ∀ n ∈ names, IsName n := fun n hn => hnames n (by simp [hn])
    rw [below_concat, isAbsolute_join (below_ne_empty hpath habove) (hnames name (by simp)),
      ih habove]

theorem split_below (hpath : path ≠ "") (hnames : ∀ name ∈ names, IsName name) :
    ∃ pieces, pieces ≠ [] ∧ (split path = pieces ∨ split path = pieces ++ [""]) ∧
      split (below path names) = pieces ++ names := by
  induction names using List.reverseRecOn with
  | nil => exact ⟨split path, split_ne_nil path, .inl rfl, by simp⟩
  | append_singleton names name ih =>
    have habove : ∀ n ∈ names, IsName n := fun n hn => hnames n (by simp [hn])
    have hname : IsName name := hnames name (by simp)
    obtain ⟨pieces, hne, hsplit, hjoin⟩ := split_join (below_ne_empty hpath habove) hname
    rcases List.eq_nil_or_concat names with rfl | ⟨above, last, rfl⟩
    · exact ⟨pieces, hne, hsplit, hjoin⟩
    · -- The path so far ends with a name, so there is no empty piece at its end.
      obtain ⟨start, hstart, hpieces, hbelow⟩ := ih habove
      rw [List.concat_eq_append] at *
      have hsplit' : split (below path (above ++ [last])) = pieces := by
        refine hsplit.resolve_right fun hempty => (habove last (by simp)).1 ?_
        rw [hbelow, ← List.append_assoc] at hempty
        simpa using (List.append_inj' hempty rfl).2
      refine ⟨start, hstart, hpieces, ?_⟩
      rw [below_concat, hjoin, ← hsplit', hbelow, List.append_assoc]

theorem trimPieces_append {left : List String} (h : ∀ piece ∈ left, component? piece = none)
    (rest : List String) : trimPieces (left ++ rest) = trimPieces rest :=
  List.dropWhile_append_of_pos (by simpa using h)

theorem trimPieces_names (h : ∀ name ∈ names, IsName name) : trimPieces names = names := by
  cases names with
  | nil => rfl
  | cons name names =>
    have hname := component?_name (h name List.mem_cons_self)
    simp [trimPieces, hname]

theorem trimBoth_append {left : List String} (hleft : ∀ piece ∈ left, component? piece = none)
    (hnames : ∀ name ∈ names, IsName name) : trimBoth (left ++ names) = names := by
  rw [trimBoth, trimPieces_append hleft, trimPieces_names hnames, trimPieces_names (by simpa),
    List.reverse_reverse]

/-- The parts of some pieces take these pieces away, but for pieces at the end that stand for no
part. -/
theorem afterParts_filterMap (pieces rest : List String) :
    ∃ left, (∀ piece ∈ left, component? piece = none) ∧
      afterParts (pieces.filterMap component?) (pieces ++ rest) = some (left ++ rest) := by
  induction pieces with
  | nil => exact ⟨[], by simp, rfl⟩
  | cons piece pieces ih =>
    obtain ⟨left, hleft, hafter⟩ := ih
    cases hpiece : component? piece with
    | some part => exact ⟨left, hleft, by simp [hpiece, afterParts, trimPieces, hafter]⟩
    | none =>
      rw [List.filterMap_cons_none hpiece]
      cases hparts : pieces.filterMap component? with
      | nil =>
        have hpieces : ∀ p ∈ pieces, component? p = none := List.filterMap_eq_nil_iff.1 hparts
        exact ⟨piece :: pieces, by simpa [hpiece] using hpieces, rfl⟩
      | cons part parts =>
        rw [hparts] at hafter
        refine ⟨left, hleft, ?_⟩
        rw [← hafter]
        simp [afterParts, trimPieces, hpiece]

theorem exists_firstComponent? {first : String} (h : first ≠ "") :
    ∃ part, firstComponent? first = some part := by
  by_cases hhere : first = "."
  · exact ⟨.here, by simp [firstComponent?, hhere]⟩
  · by_cases hup : first = ".."
    · exact ⟨.up, by simp [firstComponent?, component?, hup]⟩
    · exact ⟨.name first, by simp [firstComponent?, component?, h, hhere, hup]⟩

/-- **Relative to a path, what lies below it is reached by its names alone**, whatever the text of
the path. -/
theorem relativeTo_below (hpath : path ≠ "") (hnames : ∀ name ∈ names, IsName name) :
    relativeTo path (below path names) = String.intercalate "/" names := by
  obtain ⟨pieces, hne, hsplit, hbelow⟩ := split_below hpath hnames
  obtain ⟨first, more, rfl⟩ := List.exists_cons_of_ne_nil hne
  -- The first piece stands for a part: the root, or what it says itself.
  obtain ⟨part, hpart⟩ : ∃ part,
      (if isAbsolute path then some .root else firstComponent? first) = some part := by
    cases habsolute : isAbsolute path with
    | true => exact ⟨.root, rfl⟩
    | false =>
      have hfirst : first ≠ "" := by
        rcases hsplit with hsplit | hsplit <;> exact first_ne_empty hpath habsolute hsplit
      exact exists_firstComponent? hfirst
  have hfirst : (if isAbsolute path then [.root] else (firstComponent? first).toList) = [part] := by
    have hlist := congrArg Option.toList hpart
    rwa [apply_ite Option.toList, Option.toList_some, Option.toList_some] at hlist
  have hcomponents : components path = part :: more.filterMap component? := by
    have hempty : component? "" = none := rfl
    rcases hsplit with hsplit | hsplit <;> simp [components, hsplit, hfirst, hempty]
  obtain ⟨left, hleft, hafter⟩ := afterParts_filterMap more names
  simp [relativeTo, relativeTo?, hbelow, hcomponents, isAbsolute_below hpath hnames, hpart, hafter,
    trimBoth_append hleft hnames]

/-! ## Canonical paths -/

theorem isAbsolute_ofNames (names : List String) : isAbsolute (ofNames names) = true := by
  simp [isAbsolute, ofNames]

theorem split_intercalate (hne : names ≠ []) (hnames : ∀ name ∈ names, IsName name) :
    split (String.intercalate "/" names) = names := by
  induction names with
  | nil => exact absurd rfl hne
  | cons name rest ih =>
    have hname := split_name (hnames name List.mem_cons_self)
    by_cases hrest : rest = []
    · simpa [hrest] using hname
    · rw [String.intercalate_cons_of_ne_nil hrest, split_join_slash, hname,
        ih hrest fun n hn => hnames n (List.mem_cons_of_mem _ hn), List.singleton_append]

theorem split_ofNames (hne : names ≠ []) (hnames : ∀ name ∈ names, IsName name) :
    split (ofNames names) = "" :: names := by
  have hsplit := split_join_slash "" (String.intercalate "/" names)
  rw [split_intercalate hne hnames] at hsplit
  simpa [ofNames, split, List.splitOn_cons_eq_if_modifyHead] using hsplit

/-- The path of some names ends with the last of them. -/
theorem getLast?_ofNames_concat (h : IsName name) :
    (ofNames (names ++ [name])).toList.getLast? ≠ some '/' := by
  obtain ⟨start, hstart⟩ : ∃ start, ofNames (names ++ [name]) = start ++ name := by
    by_cases hnames : names = []
    · exact ⟨"/", by simp [ofNames, hnames]⟩
    · refine ⟨"/" ++ (String.intercalate "/" names ++ "/"), ?_⟩
      rw [ofNames, String.intercalate_append_of_ne_nil hnames (by simp),
        String.intercalate_singleton]
      simp only [String.append_assoc]
  obtain ⟨cs, c, hcs⟩ := (List.eq_nil_or_concat name.toList).resolve_left (toList_ne_nil h.1)
  have hc : c ∈ name.toList := by simp [hcs]
  have hne : c ≠ '/' := fun e => h.2.2.2 (e ▸ hc)
  simp [hstart, hcs, hne]

/-- A name below a directory is joined to the path of the directory. -/
theorem ofNames_concat (hnames : ∀ n ∈ names, IsName n) (hname : IsName name) :
    ofNames (names ++ [name]) = join (ofNames names) name := by
  have hjoin : join (ofNames names) name = if (ofNames names).toList.getLast? = some '/' then
      ofNames names ++ name else ofNames names ++ "/" ++ name := by
    simp [join, isAbsolute_name hname, ofNames]
  rcases List.eq_nil_or_concat names with rfl | ⟨above, last, rfl⟩
  · rw [hjoin]
    simp [ofNames]
  · rw [List.concat_eq_append] at *
    have hlast : IsName last := hnames last (by simp)
    rw [hjoin, if_neg (getLast?_ofNames_concat hlast), ofNames,
      String.intercalate_append_of_ne_nil (by simp) (by simp), String.intercalate_singleton,
      ofNames]
    simp only [String.append_assoc]

theorem ofNames_eq_below (hnames : ∀ n ∈ names, IsName n) : ofNames names = below "/" names := by
  induction names using List.reverseRecOn with
  | nil => rfl
  | append_singleton names name ih =>
    have habove : ∀ n ∈ names, IsName n := fun n hn => hnames n (by simp [hn])
    rw [ofNames_concat habove (hnames name (by simp)), below_concat, ih habove]

/-- The directory that holds a name is the one above it. -/
theorem parent?_ofNames (hnames : ∀ n ∈ names, IsName n) (hname : IsName name) :
    parent? (ofNames (names ++ [name])) = some (ofNames names) := by
  have hall : ∀ n ∈ names ++ [name], IsName n := by
    intro n hn
    rcases List.mem_append.1 hn with hn | hn
    · exact hnames n hn
    · rwa [List.mem_singleton.1 hn]
  have hpieces : properPieces (ofNames (names ++ [name])) = "" :: names ++ [name] := by
    simp [properPieces, split_ofNames (by simp) hall, component?_name hname]
  have htrim : trimBoth ([""] ++ names) = names := trimBoth_append (by simp [component?]) hnames
  have habove : ("" :: names ++ [name]).dropLast = [""] ++ names := List.dropLast_concat
  rw [parent?, hpieces, isAbsolute_ofNames, if_pos rfl, if_neg (by simp), habove, htrim, ofNames]

/-! ## The way up -/

theorem heads_concat (names : List String) (name : String) :
    heads (names ++ [name]) = heads names ++ [names ++ [name]] := by
  induction names with
  | nil => rfl
  | cons first rest ih => simp [heads, ih]

/-- The way up from a directory starts there and goes on from the directory above. -/
theorem upward_concat (names : List String) (name : String) :
    upward (names ++ [name]) = (names ++ [name]) :: upward names := by
  simp [upward, heads_concat]

theorem upward_eq_cons (names : List String) : upward names = names :: (upward names).tail := by
  rcases List.eq_nil_or_concat names with rfl | ⟨above, name, rfl⟩
  · rfl
  · rw [List.concat_eq_append, upward_concat, List.tail_cons]

theorem mem_upward {directory : List String} : directory ∈ upward names ↔ directory <+: names := by
  induction names using List.reverseRecOn with
  | nil => simp [upward, heads]
  | append_singleton above name ih => rw [upward_concat, List.mem_cons, ih, List.prefix_concat_iff]

end

end MarkLine.Path
