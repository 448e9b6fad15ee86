import IdentityVault.Proofs.Disk.Writing

/-! The directory above a path that finds a file. It stands already, so nothing has to be made for
the file to be written again. -/
namespace IdentityVault

namespace Path

/-- A text between slashes that leads somewhere. -/
structure Segment (name : String) : Prop where
  ne_empty : name ≠ ""
  ne_dot : name ≠ "."
  slash : '/' ∉ name.toList

variable {p : Path} {names : List String} {absolute : Bool}

theorem notMem_of_mem_splitOn {c : Char} {chars part : List Char} (h : part ∈ chars.splitOn c) :
    c ∉ part := by
  induction chars generalizing part with
  | nil =>
    rw [List.splitOn_nil, List.mem_singleton] at h
    rw [h]
    exact List.not_mem_nil
  | cons first rest ih =>
    unfold List.splitOn at h ih
    rw [List.splitOnP_cons_eq_if_modifyHead] at h
    split at h
    case isTrue =>
      rcases List.mem_cons.1 h with rfl | h
      · exact List.not_mem_nil
      · exact ih h
    case isFalse hfirst =>
      cases hrest : rest.splitOnP (· == c) with
      | nil => exact absurd hrest (List.splitOnP_ne_nil _ _)
      | cons head others =>
        rw [hrest] at h ih
        rcases List.mem_cons.1 h with rfl | h
        · rw [List.mem_cons, not_or]
          exact ⟨fun heq => hfirst (by simp [heq]), ih (List.mem_cons_self ..)⟩
        · exact ih (List.mem_cons_of_mem _ h)

theorem segment_of_mem_names {name : String} (h : name ∈ p.names) : Segment name := by
  unfold Path.names segments at h
  rw [List.mem_filter, List.mem_map] at h
  obtain ⟨⟨part, hpart, rfl⟩, hname⟩ := h
  simp only [decide_eq_true_eq] at hname
  exact ⟨hname.1, hname.2, by simpa using notMem_of_mem_splitOn hpart⟩

theorem segments_intercalate (h : ∀ name ∈ names, Segment name) (hne : names ≠ []) :
    segments (String.intercalate "/" names) = names := by
  unfold segments
  rw [String.toList_intercalate, show "/".toList = ['/'] from rfl, List.splitOn_intercalate]
  · simp
  · intro part hpart
    obtain ⟨name, hname, rfl⟩ := List.mem_map.1 hpart
    exact (h name hname).slash
  · simpa using hne

/-- Up to an empty one in front, the names are all that stands between the slashes. -/
theorem segments_ofNames (h : ∀ name ∈ names, Segment name) (hne : names ≠ [])
    (absolute : Bool) :
    segments (ofNames absolute names) = (if absolute then [""] else []) ++ names := by
  cases absolute with
  | false =>
    have hplain : ofNames false names = String.intercalate "/" names := by simp [ofNames]
    rw [hplain, segments_intercalate h hne]
    rfl
  | true =>
    have hslash : ofNames true names = "" ++ "/" ++ String.intercalate "/" names := by
      simp [ofNames]
    rw [hslash, segments_append_slash, segments_intercalate h hne]
    rfl

theorem names_ofNames (h : ∀ name ∈ names, Segment name) (hne : names ≠ []) (absolute : Bool) :
    Path.names (ofNames absolute names) = names := by
  have hkept : names.filter (fun s => s ≠ "" ∧ s ≠ ".") = names :=
    List.filter_eq_self.2 fun name hname => by simp [(h name hname).ne_empty, (h name hname).ne_dot]
  unfold Path.names
  rw [segments_ofNames h hne, List.filter_append, hkept]
  cases absolute <;> simp

theorem isAbsolute_ofNames (h : ∀ name ∈ names, Segment name) (hne : names ≠ [])
    (absolute : Bool) : isAbsolute (ofNames absolute names) = absolute := by
  cases absolute with
  | true => simp [isAbsolute, ofNames]
  | false =>
    obtain ⟨first, rest, rfl⟩ := List.exists_cons_of_ne_nil hne
    have hfirst := h first (List.mem_cons_self ..)
    obtain ⟨c, chars, hchars⟩ : ∃ c chars, first.toList = c :: chars :=
      List.exists_cons_of_ne_nil fun hnil => hfirst.ne_empty (String.toList_eq_nil_iff.1 hnil)
    have hc : c ≠ '/' := by
      rintro rfl
      exact hfirst.slash (by simp [hchars])
    have hhead : (ofNames false (first :: rest)).toList.head? = some c := by
      cases rest with
      | nil => simp [ofNames, hchars]
      | cons => simp [ofNames, String.toList_intercalate, hchars]
    simp [isAbsolute, hhead, hc]

/-- Leaving out parts leaves out characters. -/
theorem intercalate_sublist {sep : List Char} {parts parts' : List (List Char)}
    (h : parts.Sublist parts') : (sep.intercalate parts).Sublist (sep.intercalate parts') := by
  induction h with
  | slnil => exact List.Sublist.refl _
  | @cons parts parts' part _ ih =>
    refine ih.trans ?_
    cases parts' with
    | nil => simp
    | cons => exact List.intercalate_cons_cons ▸ List.sublist_append_right ..
  | @cons_cons parts parts' part hparts ih =>
    by_cases hnil : parts' = []
    · subst hnil
      cases List.sublist_nil.1 hparts
      exact List.Sublist.refl _
    · rw [List.intercalate_cons_of_ne_nil hnil]
      cases parts with
      | nil => simp
      | cons => exact List.intercalate_cons_cons ▸ (List.Sublist.refl _).append ih

theorem intercalate_names_sublist (p : Path) :
    (String.intercalate "/" p.names.dropLast).toList.Sublist p.toList := by
  have hnames : (p.names.dropLast.map String.toList).Sublist (p.toList.splitOn '/') := by
    have hparts := (p.names.dropLast_sublist.trans List.filter_sublist).map String.toList
    simpa [segments, Function.comp_def] using hparts
  have hchars : (List.intercalate ['/'] _).Sublist (List.intercalate ['/'] _) :=
    intercalate_sublist hnames
  rw [List.intercalate_splitOn] at hchars
  rwa [String.toList_intercalate]

/-- A path to the directory above is made of characters of the path. -/
theorem toList_parent_sublist (p : Path) : (parent p).toList.Sublist p.toList := by
  unfold parent ofNames
  cases habsolute : p.isAbsolute with
  | false => simpa using intercalate_names_sublist p
  | true =>
    obtain ⟨rest, hrest⟩ : ∃ rest : String, p = "" ++ "/" ++ rest := by
      have hhead : p.toList.head? = some '/' := by simpa [isAbsolute] using habsolute
      obtain ⟨chars, hchars⟩ := List.head?_eq_some_iff.1 hhead
      exact ⟨String.ofList chars, by rw [← String.toList_inj, hchars]; simp⟩
    have hnames : p.names = Path.names rest := by
      rw [hrest, names_eq_filter, segments_append_slash, names_eq_filter]
      simp [segments]
    rw [hnames, hrest]
    simpa using intercalate_names_sublist rest

theorem utf8ByteSize_le_of_sublist {chars chars' : List Char} (h : chars.Sublist chars') :
    (String.ofList chars).utf8ByteSize ≤ (String.ofList chars').utf8ByteSize := by
  induction h with
  | slnil => exact Nat.le_refl _
  | cons c _ ih =>
    rw [String.ofList_cons, String.utf8ByteSize_append]
    exact Nat.le_trans ih (Nat.le_add_left ..)
  | cons_cons c _ ih =>
    rw [String.ofList_cons, String.ofList_cons, String.utf8ByteSize_append,
      String.utf8ByteSize_append]
    exact Nat.add_le_add_left ih _

theorem utf8ByteSize_parent_le (p : Path) : (parent p).utf8ByteSize ≤ p.utf8ByteSize := by
  have hsize := utf8ByteSize_le_of_sublist (toList_parent_sublist p)
  rwa [String.ofList_toList, String.ofList_toList] at hsize

end Path

namespace FileSystem

open IdentityVault.Path

variable {fs : FileSystem} {p : Path} {names place : List String} {absolute : Bool}
  {content : Bytes}

/-- What a path of plain names means, where the last of them may lead back up. -/
theorem resolve_ofNames {init : List String} {last : String}
    (h : ∀ name ∈ init ++ [last], Segment name)
    (hzero : '\x00' ∉ (ofNames absolute (init ++ [last])).toList)
    (hsize : (ofNames absolute (init ++ [last])).utf8ByteSize ≤ pathLimit) :
    fs.resolve (ofNames absolute (init ++ [last])) =
      if last = ".." then
        ((init ++ [last]).foldlM fs.enter (if absolute then [] else fs.workingDirectory)).map
          .directory
      else
        (init.foldlM fs.enter (if absolute then [] else fs.workingDirectory)).map fun parent =>
          .entry parent last false := by
  have hne : init ++ [last] ≠ [] := by simp
  have hlast := h last (by simp)
  have hsegments := segments_ofNames h hne absolute
  have hnonempty : (ofNames absolute (init ++ [last])).toList.isEmpty = false := by
    rw [List.isEmpty_eq_false_iff, ne_eq, String.toList_eq_nil_iff]
    intro hnil
    have hnames := names_ofNames h hne absolute
    rw [hnil] at hnames
    simp [Path.names, segments] at hnames
  have hkept : (segments (ofNames absolute (init ++ [last]))).filter (· ≠ "") = init ++ [last] := by
    have hnames : (init ++ [last]).filter (· ≠ "") = init ++ [last] :=
      List.filter_eq_self.2 fun name hname => by simp [(h name hname).ne_empty]
    rw [hsegments, List.filter_append, hnames]
    cases absolute <;> simp
  have hslash : (segments (ofNames absolute (init ++ [last]))).getLast? ≠ some "" := by
    rw [hsegments, ← List.append_assoc, List.getLast?_concat]
    simpa using hlast.ne_empty
  unfold resolve
  simp only [List.contains_iff_mem, hzero, hnonempty, Nat.not_lt.2 hsize, hkept, hslash,
    List.getLastD_concat, hlast.ne_dot, names_ofNames h hne, isAbsolute_ofNames h hne,
    List.dropLast_concat, false_or, if_false, Bool.false_eq_true, decide_false]
  split
  · cases (init ++ [last]).foldlM fs.enter _ <;> rfl
  · cases init.foldlM fs.enter _ <;> rfl

theorem makeDirectories_of_directory (h : fs.resolve p = .ok (.directory place))
    (hplace : fs.standing? place = some .directory) : fs.makeDirectories p = (fs, .ok ()) := by
  obtain ⟨entries, hn⟩ := node?_of_standing?_directory hplace
  have hmake : fs.makeDirectory p = .error .alreadyExists := by
    simp only [makeDirectory, h, bind, Except.bind]
  have hdir : fs.isDirectory p = true := by
    simp only [isDirectory, lookup, h, hn, bind, Except.bind]
  exact makeDirectories_of_alreadyExists hmake hdir

theorem enter_eq_ok {parent : List String} {name : String} (hup : name ≠ "..")
    (h : fs.enter parent name = .ok place) :
    place = parent ++ [name] ∧ name.utf8ByteSize ≤ nameLimit := by
  unfold enter at h
  rw [if_neg hup] at h
  split_ifs at h with hlong
  split at h
  case h_1 => exact ⟨(Except.ok.inj h).symm, Nat.not_lt.1 hlong⟩
  case h_2 => cases h
  case h_3 => cases h

/-- Names that lead to a directory lead there as a path, and nothing is made on the way. -/
theorem makeDirectories_of_walk (h : ∀ name ∈ names, Segment name)
    (hzero : '\x00' ∉ (ofNames absolute names).toList)
    (hsize : (ofNames absolute names).utf8ByteSize ≤ pathLimit)
    (hwalk : names.foldlM fs.enter (if absolute then [] else fs.workingDirectory) = .ok place)
    (hplace : fs.standing? place = some .directory) :
    fs.makeDirectories (ofNames absolute names) = (fs, .ok ()) := by
  rcases List.eq_nil_or_concat names with rfl | ⟨init, last, rfl⟩
  · have hnone : Path.names (ofNames absolute []) = [] := by cases absolute <;> rfl
    unfold FileSystem.makeDirectories
    rw [hnone]
    rfl
  · rw [List.concat_eq_append] at *
    have hresolve : fs.resolve (ofNames absolute (init ++ [last])) = _ :=
      resolve_ofNames h hzero hsize
    -- A path that ends by leading up means a place, and any other means an entry of one.
    by_cases hup : last = ".."
    · rw [hwalk, if_pos hup] at hresolve
      exact makeDirectories_of_directory hresolve hplace
    · rw [List.foldlM_append] at hwalk
      cases hinit : init.foldlM fs.enter (if absolute then [] else fs.workingDirectory) with
      | error e =>
        rw [hinit] at hwalk
        cases hwalk
      | ok parent =>
        rw [hinit] at hwalk
        rw [if_neg hup, hinit] at hresolve
        have hlast : fs.enter parent last = .ok place := (bind_pure _).symm.trans hwalk
        obtain ⟨rfl, hshort⟩ := enter_eq_ok hup hlast
        exact Names.makeDirectories ⟨hresolve, hshort⟩ hplace

/-- Above a file there is nothing to make. -/
theorem makeDirectories_parent (hstart : fs.standing? fs.workingDirectory = some .directory)
    (h : fs.contentAt p = .ok content) : fs.makeDirectories (parent p) = (fs, .ok ()) := by
  obtain ⟨place, name, hnames, hwalk, -⟩ := names_of_contentAt hstart h
  obtain ⟨hzero, hsize⟩ := resolve_eq_ok hnames.resolve
  apply makeDirectories_of_walk _ _ _ hwalk
  · exact directory_of_foldlM_enter (directory_of_start hstart p) hwalk
  · intro part hpart
    exact segment_of_mem_names (p.names.dropLast_subset hpart)
  · exact fun hmem => hzero ((toList_parent_sublist p).mem hmem)
  · exact Nat.le_trans (utf8ByteSize_parent_le p) hsize

theorem canCreate_of_contentAt (hstart : fs.standing? fs.workingDirectory = some .directory)
    (h : fs.contentAt p = .ok content) : fs.CanCreate p := by
  obtain ⟨place, name, hnames, -, hfile⟩ := names_of_contentAt hstart h
  exact ⟨fs, _, makeDirectories_parent hstart h, hnames.write [] (by simp [hfile])⟩

end FileSystem

end IdentityVault
