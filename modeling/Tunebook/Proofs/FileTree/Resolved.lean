import Tunebook.Proofs.FileTree.Frame
import Tunebook.Proofs.Text.Lines

/-!
# Resolved paths

The path that an option denotes is resolved before anything is done with it: it leads from the top of
the tree, and none of its names leads upwards or nowhere.  Such a path is its own text once more, and
its names are the place that it leads to.  So two of them lead to one place only where they are one
path, whatever stands in the tree.

* `IsName`: what a name in a directory is; `Path.Resolved`: a path made of such names.
* `Site.resolved_of_pathOf`: **what an option denotes is resolved.**
* `Path.Resolved.ofText_text`: **a resolved path is read back from its text.**
* `Path.withSuffix_eq_self_iff`: which paths keep their name under a suffix.
* `Site.locate_of_resolved`: **a resolved path leads to the place of its names**, and so resolved
  paths that lead to one place are one path.
-/

namespace Tunebook

/-! ### Names -/

/-- A name that something may have in a directory. -/
structure IsName (name : String) : Prop where
  ne_empty : name ≠ ""
  ne_here : name ≠ "."
  ne_above : name ≠ ".."
  no_slash : '/' ∉ name.toList

instance (name : String) : Decidable (IsName name) :=
  decidable_of_iff (name ≠ "" ∧ name ≠ "." ∧ name ≠ ".." ∧ '/' ∉ name.toList)
    ⟨fun ⟨h, h', h'', h'''⟩ => ⟨h, h', h'', h'''⟩,
      fun h => ⟨h.ne_empty, h.ne_here, h.ne_above, h.no_slash⟩⟩

/-- A place all of whose names may be names. -/
def Place.Proper (place : Place) : Prop := ∀ name ∈ place, IsName name

instance (place : Place) : Decidable place.Proper :=
  inferInstanceAs (Decidable (∀ name ∈ place, IsName name))

theorem pieces_eq_splitOn (separator : Char) (cs : List Char) :
    pieces separator cs = cs.splitOn separator := by
  induction cs with
  | nil => rfl
  | cons c rest ih =>
    obtain ⟨first, more, hpieces⟩ := List.exists_cons_of_ne_nil (pieces_ne_nil separator rest)
    rw [pieces, List.splitOn, List.splitOnP_cons_eq_if_modifyHead, ← List.splitOn, ← ih, hpieces]
    by_cases h : c = separator
    · rw [if_pos h, if_pos (beq_iff_eq.2 h)]
    · rw [if_neg h, if_neg (mt beq_iff_eq.1 h)]
      rfl

theorem isName_of_mem_ofText {text name : String} (h : name ∈ (Path.ofText text).names)
    (stays : name ≠ "..") : IsName name := by
  obtain ⟨piece, hpiece, rfl⟩ := List.mem_map.1 h
  obtain ⟨hmem, hkept⟩ := List.mem_filter.1 hpiece
  obtain ⟨hempty, hhere⟩ := of_decide_eq_true hkept
  constructor
  case ne_empty =>
    intro e
    exact hempty (String.ofList_eq_empty_iff.1 e)
  case ne_here =>
    intro e
    exact hhere (String.ofList_injective e)
  case ne_above => exact stays
  case no_slash =>
    rw [String.toList_ofList]
    exact separator_not_mem_pieces hmem

theorem proper_settled {place : Place} {names : List String} (hplace : place.Proper)
    (hnames : ∀ name ∈ names, name ≠ ".." → IsName name) : (settled place names).Proper := by
  induction names generalizing place with
  | nil => exact hplace
  | cons name rest ih =>
    refine ih ?_ fun n hn => hnames n (List.mem_cons_of_mem _ hn)
    intro n hn
    rw [Place.next] at hn
    split at hn
    · exact hplace n (List.dropLast_subset _ hn)
    · next hname =>
      rcases List.mem_append.1 hn with hn | hn
      · exact hplace n hn
      · obtain rfl := List.mem_singleton.1 hn
        exact hnames n List.mem_cons_self hname

/-! ### Resolved paths -/

/-- A path from the top of the tree, without a name that leads upwards or nowhere. -/
structure Path.Resolved (p : Path) : Prop where
  root : p.root = "/"
  proper : Place.Proper p.names

theorem Site.isName_of_expanded {s : Site} {text : String} {p : Path}
    (h : s.expanded (.ofText text) = .ok p) {name : String} (hname : name ∈ p.names)
    (stays : name ≠ "..") : IsName name := by
  rw [expanded] at h
  split at h
  · next first rest _ hnames =>
    split at h
    · obtain ⟨home, _, h⟩ := bind_eq_ok.1 h
      cases h
      rcases List.mem_append.1 hname with hfront | hrest
      · exact isName_of_mem_ofText hfront stays
      · have hmem : name ∈ (Path.ofText text).names := by
          rw [hnames]
          exact List.mem_cons_of_mem _ hrest
        exact isName_of_mem_ofText hmem stays
    · cases h
      exact isName_of_mem_ofText hname stays
  · cases h
    exact isName_of_mem_ofText hname stays

/-- **What an option denotes is resolved.** -/
theorem Site.resolved_of_pathOf {s : Site} (here : s.here.Proper) {text : String} {p : Path}
    (h : s.pathOf text = .ok p) : p.Resolved := by
  obtain ⟨q, hq, h⟩ := bind_eq_ok.1 h
  rw [resolved] at h
  split at h
  · cases h
  · cases h
    refine ⟨rfl, proper_settled ?_ fun name => isName_of_expanded hq⟩
    rw [start]
    split
    · exact here
    · exact fun name hname => absurd hname List.not_mem_nil

namespace Path

variable {p q : Path} {suffix : String}

/-! ### Their texts -/

theorem rootOf_cons {cs : List Char} (h : cs.head? ≠ some '/') : rootOf ('/' :: cs) = "/" := by
  rw [rootOf.eq_def]
  split
  · next e =>
    cases e
    exact absurd rfl h
  · next e =>
    cases e
    exact absurd rfl h
  · rfl
  · next hother => exact absurd rfl (hother cs)

theorem Resolved.toList_text (h : p.Resolved) :
    p.text.toList = '/' :: ['/'].intercalate (p.names.map String.toList) := by
  rw [text, h.root, if_neg]
  · rw [String.toList_append, String.toList_intercalate]
    rfl
  · rw [String.isEmpty_iff, String.append_eq_empty_iff]
    rintro ⟨e, _⟩
    exact absurd e (by decide)

theorem Resolved.pieces_names (h : p.Resolved) (hne : p.names ≠ []) :
    pieces '/' (['/'].intercalate (p.names.map String.toList)) = p.names.map String.toList := by
  rw [pieces_eq_splitOn, List.splitOn_intercalate]
  · intro name hname
    obtain ⟨n, hn, rfl⟩ := List.mem_map.1 hname
    exact (h.proper n hn).no_slash
  · rwa [Ne, List.map_eq_nil_iff]

theorem Resolved.kept_names (h : p.Resolved) :
    ((pieces '/' p.text.toList).filter fun name => name ≠ [] ∧ name ≠ ['.'])
      = p.names.map String.toList := by
  rw [h.toList_text, pieces, if_pos rfl, List.filter_cons_of_neg (by simp)]
  by_cases hne : p.names = []
  · rw [hne]
    rfl
  · rw [h.pieces_names hne, List.filter_eq_self]
    intro name hname
    obtain ⟨n, hn, rfl⟩ := List.mem_map.1 hname
    refine decide_eq_true ⟨?_, ?_⟩
    · intro e
      exact (h.proper n hn).ne_empty (String.toList_eq_nil_iff.1 e)
    · intro e
      exact (h.proper n hn).ne_here (String.toList_injective e)

theorem Resolved.rootOf_text (h : p.Resolved) : rootOf p.text.toList = p.root := by
  rw [h.toList_text, h.root]
  apply rootOf_cons
  intro hslash
  obtain ⟨cs, hcs⟩ := List.head?_eq_some_iff.1 hslash
  by_cases hne : p.names = []
  · rw [hne] at hcs
    cases hcs
  · have hpieces := h.pieces_names hne
    rw [hcs, pieces, if_pos rfl] at hpieces
    obtain ⟨n, hn, hempty⟩ := List.mem_map.1 (hpieces ▸ List.mem_cons_self)
    exact (h.proper n hn).ne_empty (String.toList_eq_nil_iff.1 hempty)

/-- **A resolved path is read back from its text.** -/
theorem Resolved.ofText_text (h : p.Resolved) : Path.ofText p.text = p := by
  have hnames : (p.names.map String.toList).map String.ofList = p.names := by
    rw [List.map_map]
    exact (List.map_congr_left fun name _ => String.ofList_toList).trans (List.map_id _)
  rw [Path.ofText, h.kept_names, h.rootOf_text, hnames]

/-! ### Their suffixes -/

theorem stem_subset (name : List Char) : stem name ⊆ name := by
  rw [stem]
  split
  · exact List.Subset.refl name
  · intro c hc
    have hdropped := List.mem_of_mem_drop (List.mem_reverse.1 hc)
    exact List.mem_reverse.1 (List.dropWhile_subset _ hdropped)

theorem isName_withSuffix {name : String} (hname : IsName name) (long : 2 < suffix.length)
    (noSlash : '/' ∉ suffix.toList) : IsName (String.ofList (stem name.toList) ++ suffix) := by
  have hlong : ∀ short : String, short.length ≤ 2 →
      String.ofList (stem name.toList) ++ suffix ≠ short := by
    intro short hshort e
    have hlength := congrArg String.length e
    rw [String.length_append] at hlength
    omega
  constructor
  case ne_empty => exact hlong "" (by decide)
  case ne_here => exact hlong "." (by decide)
  case ne_above => exact hlong ".." (by decide)
  case no_slash =>
    rw [String.toList_append, String.toList_ofList, List.mem_append, not_or]
    exact ⟨fun hmem => hname.no_slash (stem_subset _ hmem), noSlash⟩

theorem Resolved.withSuffix (h : p.Resolved) (long : 2 < suffix.length)
    (noSlash : '/' ∉ suffix.toList) : (p.withSuffix suffix).Resolved := by
  rw [Path.withSuffix]
  split
  · next name hlast =>
    refine ⟨h.root, ?_⟩
    intro n hn
    rcases List.mem_append.1 hn with hn | hn
    · exact h.proper n (List.dropLast_subset _ hn)
    · obtain rfl := List.mem_singleton.1 hn
      exact isName_withSuffix (h.proper name (List.mem_of_getLast? hlast)) long noSlash
  · exact h

/-- Whether a suffix ends the last name of a path, and is not all of it. -/
def EndsWith (p : Path) (suffix : String) : Prop :=
  ∃ above front, front ≠ "" ∧ p.names = above ++ [front ++ suffix]

theorem stem_append {front extension : List Char} (hfront : front ≠ []) (hne : extension ≠ [])
    (noDot : '.' ∉ extension) : stem (front ++ '.' :: extension) = front := by
  have hall : ∀ c ∈ extension.reverse, decide (c ≠ '.') = true := by
    intro c hc
    refine decide_eq_true ?_
    rintro rfl
    exact noDot (List.mem_reverse.1 hc)
  have htail : (front ++ '.' :: extension).reverse.takeWhile (· ≠ '.') = extension.reverse := by
    rw [List.reverse_append, List.reverse_cons, List.append_assoc,
      List.takeWhile_append_of_pos hall, List.singleton_append, List.takeWhile_cons_of_neg (by simp),
      List.append_nil]
  have hrest : (front ++ '.' :: extension).reverse.dropWhile (· ≠ '.') = '.' :: front.reverse := by
    rw [List.reverse_append, List.reverse_cons, List.append_assoc,
      List.dropWhile_append_of_pos hall, List.singleton_append, List.dropWhile_cons_of_neg (by simp)]
  rw [stem, htail, hrest, List.drop_one, List.tail_cons, List.reverse_reverse, if_neg]
  rw [List.isEmpty_iff, List.isEmpty_iff, List.reverse_eq_nil_iff, List.reverse_eq_nil_iff, not_or]
  exact ⟨hne, hfront⟩

theorem eq_nil_of_stem {name : List Char} (h : stem name = []) : name = [] := by
  rw [stem] at h
  split at h
  · exact h
  · next hkept =>
    rw [not_or] at hkept
    exact absurd (List.isEmpty_iff.2 (List.reverse_eq_nil_iff.1 h)) hkept.2

theorem withSuffix_of_names {above : List String} {name : String} (h : p.names = above ++ [name]) :
    p.withSuffix suffix
      = ⟨p.root, above ++ [String.ofList (stem name.toList) ++ suffix]⟩ := by
  rw [Path.withSuffix, h, List.getLast?_concat, List.dropLast_concat]

/-- **A path stays as it is under a suffix exactly where that ends its name already.** -/
theorem withSuffix_eq_self_iff {extension : List Char} (hsuffix : suffix.toList = '.' :: extension)
    (hne : extension ≠ []) (noDot : '.' ∉ extension) (named : p.names ≠ []) :
    p.withSuffix suffix = p ↔ p.EndsWith suffix := by
  constructor
  · intro h
    obtain ⟨above, name, hnames⟩ := (List.eq_nil_or_concat p.names).resolve_left named
    rw [List.concat_eq_append] at hnames
    rw [withSuffix_of_names hnames] at h
    have hname : String.ofList (stem name.toList) ++ suffix = name := by
      have hlast := congrArg (fun p => p.names.getLast?) h
      dsimp only at hlast
      rw [hnames, List.getLast?_concat, List.getLast?_concat] at hlast
      exact Option.some.inj hlast
    refine ⟨above, String.ofList (stem name.toList), ?_, by rw [hname, hnames]⟩
    intro hempty
    have hnil := eq_nil_of_stem (String.ofList_eq_empty_iff.1 hempty)
    rw [← hname, String.toList_append, hsuffix] at hnil
    exact List.cons_ne_nil _ _ (List.append_eq_nil_iff.1 hnil).2
  · rintro ⟨above, front, hfront, hnames⟩
    have hstem : stem (front ++ suffix).toList = front.toList := by
      rw [String.toList_append, hsuffix]
      exact stem_append (mt String.toList_eq_nil_iff.1 hfront) hne noDot
    rw [withSuffix_of_names hnames, hstem, String.ofList_toList, ← hnames]

end Path

namespace Site

variable {s : Site} {p q : Path}

theorem walk_eq_append {t : FileTree} {start place : Place} {names : List String}
    (down : ".." ∉ names) (h : t.walk start names = .ok place) : place = start ++ names := by
  induction names generalizing start with
  | nil =>
    cases h
    rw [List.append_nil]
  | cons name rest ih =>
    rw [List.mem_cons, not_or] at down
    have hnext : start.next name = start ++ [name] := by
      rw [Place.next, if_neg (Ne.symm down.1)]
    rw [FileTree.walk, hnext] at h
    split at h
    · cases h
    · split at h
      · next hlast =>
        cases h
        rw [List.isEmpty_iff.1 hlast]
      · split at h
        · cases h
        · cases h
        · rw [ih down.2 h, List.append_assoc, List.singleton_append]

/-- **A resolved path leads to the place of its names**, if it leads anywhere. -/
theorem locate_of_resolved (h : p.Resolved) {place : Place} (hp : s.locate p = .ok place) :
    place = p.names := by
  rw [locate] at hp
  split at hp
  · cases hp
  · split at hp
    · cases hp
    · have hstart : s.start p = [] := by
        rw [start, h.root]
        rfl
      have hwalk := about_eq_ok.1 hp
      rw [hstart] at hwalk
      exact walk_eq_append (fun hup => (h.proper _ hup).ne_above rfl) hwalk

/-- **Resolved paths that lead to one place are one path.** -/
theorem eq_of_locate_eq (hp : p.Resolved) (hq : q.Resolved) {place : Place}
    (h : s.locate p = .ok place) (h' : s.locate q = .ok place) : p = q := by
  have hnames := (locate_of_resolved hp h).symm.trans (locate_of_resolved hq h')
  have hroot := hp.root.trans hq.root.symm
  cases p
  cases q
  cases hnames
  cases hroot
  rfl

theorem names_ne_nil_of_read (h : p.Resolved) {content : List UInt8} (hread : s.read p = .ok content) :
    p.names ≠ [] := by
  intro hnil
  obtain ⟨place, hplace, hfile⟩ := read_eq_ok_iff.1 hread
  rw [locate_of_resolved h hplace, hnil] at hfile
  cases hfile

end Site

end Tunebook
