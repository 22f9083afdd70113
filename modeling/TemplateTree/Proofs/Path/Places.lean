import Mathlib.Data.List.Infix
import TemplateTree.Proofs.Path.Names
import TemplateTree.Resolver

/-!
# Places of directive files

Where directive files may apply to a template: in the directories above a path of names, which are
the paths of fewer of them. Main statements: `candidates_ofNames` lists these places, and
`IsPlace.eq_of_components` says that for one file name each of them is spelled in one way only.
-/

namespace TemplateTree

namespace Path

variable {names above below : List String}

/-- Every name closes another directory. -/
theorem endsOf_map_toList (filled : above ≠ []) (named : ∀ name ∈ below, IsName name) :
    endsOf (ofNames above).text.toList (below.map String.toList) =
      below.inits.tail.map fun names => (ofNames (above ++ names)).text.toList := by
  induction below generalizing above with
  | nil => rfl
  | cons name rest inductionHypothesis =>
    obtain ⟨here, deeper⟩ := List.forall_mem_cons.1 named
    have next := toList_ofNames_append filled (List.cons_ne_nil name [])
    rw [ofNames_singleton] at next
    have others := @inductionHypothesis (above ++ [name]) (by simp) deeper
    rw [next] at others
    rw [List.map_cons, endsOf, here.step, Option.isSome_some, if_pos rfl, others, List.inits_cons,
      List.tail_cons, List.map_map]
    cases rest with
    | nil => simp [next]
    | cons second rest => simp [next, Function.comp_def]

/-- The directories above a path of names are the paths of the names it begins with. -/
theorem ancestors_ofNames (named : ∀ name ∈ names, IsName name) :
    (ofNames names).ancestors = names.inits.dropLast.map ofNames := by
  cases names with
  | nil => rfl
  | cons first rest =>
    obtain ⟨here, below⟩ := List.forall_mem_cons.1 named
    have ends := endsOf_map_toList (List.cons_ne_nil first []) below
    rw [ofNames_singleton] at ends
    have all : [] :: first.toList :: endsOf first.toList (rest.map String.toList) =
        (first :: rest).inits.map fun names => (ofNames names).text.toList := by
      rw [ends, List.inits_cons, List.map_cons, List.map_map]
      cases rest with
      | nil => simp [ofNames]
      | cons second rest => simp [ofNames, Function.comp_def]
    simp only [ancestors, pieces_ofNames named, List.map_cons, isRooted_ofNames named,
      Bool.false_eq_true, if_false, here.start_eq, List.isEmpty_cons, all, List.map_dropLast,
      List.map_map]
    simp [Function.comp_def, String.ofList_toList]

/-- A text is its first part, and the others behind slashes. -/
theorem eq_flatMap_of_pieces {text first : List Char} {rest : List (List Char)}
    (cut : pieces text = first :: rest) : text = first ++ rest.flatMap ('/' :: ·) := by
  induction text generalizing first rest with
  | nil =>
    cases cut
    rfl
  | cons c more inductionHypothesis =>
    rw [pieces] at cut
    split at cut
    · next slash =>
      obtain ⟨piece, others, spelled⟩ := List.exists_cons_of_ne_nil (pieces_ne_nil more)
      cases cut
      rw [spelled, List.flatMap_cons, List.nil_append, slash, List.cons_append,
        ← inductionHypothesis spelled]
    · split at cut
      · next none => exact absurd none (pieces_ne_nil more)
      · next spelled =>
        cases cut
        rw [List.cons_append, ← inductionHypothesis spelled]

/-- The text up to the end of a component is a beginning of the text. -/
theorem prefix_of_mem_endsOf {read upTo : List Char} {parts : List (List Char)}
    (member : upTo ∈ endsOf read parts) : upTo <+: read ++ parts.flatMap ('/' :: ·) := by
  induction parts generalizing read with
  | nil => cases member
  | cons piece rest inductionHypothesis =>
    rw [List.flatMap_cons, ← List.append_assoc]
    rw [endsOf] at member
    split at member
    · rcases List.mem_cons.1 member with rfl | later
      · exact List.prefix_append _ _
      · exact inductionHypothesis later
    · exact inductionHypothesis member

theorem prefix_of_isRooted {text : List Char} (rooted : isRooted text = true) : ['/'] <+: text := by
  fun_cases isRooted text with
  | case1 rest => exact List.prefix_append ['/'] rest
  | case2 => simp_all [isRooted]

/-- The text of a directory above a path is a beginning of the text of the path. -/
theorem prefix_of_parent? {path directory : Path} (above : path.parent? = some directory) :
    directory.text.toList <+: path.text.toList := by
  obtain ⟨first, rest, cut⟩ := List.exists_cons_of_ne_nil (pieces_ne_nil path.text.toList)
  have spelled := eq_flatMap_of_pieces cut
  have begins : first <+: path.text.toList := spelled ▸ List.prefix_append _ _
  have inner {upTo : List Char} (member : upTo ∈ endsOf first rest) :
      upTo <+: path.text.toList := spelled ▸ prefix_of_mem_endsOf member
  have member := List.mem_of_getLast? above
  simp only [ancestors, cut, List.mem_map] at member
  obtain ⟨upTo, member, rfl⟩ := member
  rw [String.toList_ofList]
  have member := List.mem_of_mem_dropLast member
  split at member
  · next rooted =>
    rcases List.mem_cons.1 member with rfl | member
    · exact Path.prefix_of_isRooted rooted
    · exact inner member
  · split at member
    · rcases List.mem_cons.1 member with rfl | member
      · exact List.nil_prefix
      · exact inner member
    · rcases List.mem_cons.1 member with rfl | member
      · exact List.nil_prefix
      · rcases List.mem_cons.1 member with rfl | member
        · exact begins
        · exact inner member

theorem join_ofNames_nil (file : Path) : (ofNames []).join file = file := by
  have empty : (ofNames []).text = "" := rfl
  rw [join, empty]
  split
  · rfl
  · rw [if_pos (by simp), String.empty_append]

/-- A path of names ends in a character that is no slash. -/
theorem exists_concat_ofNames (filled : names ≠ []) (named : ∀ name ∈ names, IsName name) :
    ∃ front c, (ofNames names).text.toList = front ++ [c] ∧ c ≠ '/' := by
  obtain ⟨outer, last, rfl⟩ := (List.eq_nil_or_concat names).resolve_left filled
  rw [List.concat_eq_append] at named ⊢
  obtain ⟨front, c, spelled, other⟩ := (named last (by simp)).exists_concat
  cases outer with
  | nil => exact ⟨front, c, by rw [List.nil_append, ofNames_singleton, spelled], other⟩
  | cons first more =>
    refine ⟨(ofNames (first :: more)).text.toList ++ '/' :: front, c, ?_, other⟩
    rw [toList_ofNames_append (List.cons_ne_nil first more) (List.cons_ne_nil last []),
      ofNames_singleton, spelled, List.append_assoc, List.cons_append]

/-- A relative path below names stands behind a slash. -/
theorem text_join_ofNames (filled : names ≠ []) (named : ∀ name ∈ names, IsName name) {file : Path}
    (relative : file.isAbsolute = false) :
    ((ofNames names).join file).text.toList =
      (ofNames names).text.toList ++ '/' :: file.text.toList := by
  obtain ⟨front, c, spelled, other⟩ := exists_concat_ofNames filled named
  have written : (ofNames names).text ≠ "" := by
    intro empty
    rw [empty] at spelled
    simp at spelled
  have unended : ((ofNames names).text.isEmpty ||
      decide ((ofNames names).text.toList.getLast? = some '/')) = false := by
    simp [spelled, other, written]
  rw [join, relative, unended]
  simp

/-- What stands behind a slash means the same behind every text with this slash. -/
theorem componentsOf_append_cons (first rest : List Char) :
    componentsOf (first ++ '/' :: rest) =
      componentsOf (first ++ ['/']) ++ (pieces rest).filterMap component? := by
  cases first with
  | nil => rfl
  | cons c more =>
    have filled := List.cons_ne_nil c more
    rw [componentsOf_append_slash filled, componentsOf_append_slash filled]
    simp [pieces, component?]

/-- What a relative path below another means: first the other, and then its own steps. -/
theorem components_join {base file : Path} (filled : base.text ≠ "")
    (relative : file.isAbsolute = false) :
    (base.join file).components =
      base.components ++ (pieces file.text.toList).filterMap component? := by
  have some : base.text.toList ≠ [] := by simpa using filled
  by_cases ends : base.text.toList.getLast? = .some '/'
  · -- The slash between the two is the last one of the first.
    obtain ⟨front, spelled⟩ := List.getLast?_eq_some_iff.1 ends
    have joined : (base.join file).text.toList = front ++ '/' :: file.text.toList := by
      simp [join, relative, spelled]
    rw [components, joined, componentsOf_append_cons, ← spelled, ← components]
  · have joined : (base.join file).text.toList =
        base.text.toList ++ '/' :: file.text.toList := by
      simp [join, relative, ends, filled]
    rw [components, joined, componentsOf_append_slash some, ← components]

/-- What a relative path below names means: first the names, and then its own steps. -/
theorem components_join_ofNames (filled : names ≠ []) (named : ∀ name ∈ names, IsName name)
    {file : Path} (relative : file.isAbsolute = false) :
    ((ofNames names).join file).components =
      names.map .name ++ (pieces file.text.toList).filterMap component? := by
  have written : (ofNames names).text ≠ "" := by
    intro empty
    have steps := components_ofNames named
    rw [components, empty] at steps
    exact filled (List.map_eq_nil_iff.1 steps.symm)
  rw [components_join written relative, components_ofNames named]

/-- The first piece of a relative path stands for the same step as elsewhere, except that a leading
dot is one. -/
theorem components_eq_or (file : Path) (relative : file.isAbsolute = false) :
    file.components = (pieces file.text.toList).filterMap component? ∨
      file.components = .current :: (pieces file.text.toList).filterMap component? := by
  have relative : isRooted file.text.toList = false := relative
  rw [components, componentsOf]
  cases split : pieces file.text.toList with
  | nil => exact absurd split (pieces_ne_nil _)
  | cons first rest =>
    by_cases dot : first = ['.']
    · exact .inr (by simp [relative, start, dot, component?])
    · refine .inl ?_
      cases step : component? first <;> simp [relative, start, dot, step]

/-- A place at which a directive file of this name may apply to templates. -/
def IsPlace (directiveFilename : String) (place : Path) : Prop :=
  ∃ names, (∀ name ∈ names, IsName name) ∧ place = (ofNames names).join ⟨directiveFilename⟩

/-- A place for a directive file is spelled in one way only. -/
theorem IsPlace.eq_of_components {directiveFilename : String} {place other : Path}
    (first : IsPlace directiveFilename place) (second : IsPlace directiveFilename other)
    (same : place.components = other.components) : place = other := by
  obtain ⟨above, named, rfl⟩ := first
  obtain ⟨below, titled, rfl⟩ := second
  by_cases rooted : (Path.mk directiveFilename).isAbsolute = true
  · rw [join, if_pos rooted, join, if_pos rooted]
  · have relative : (Path.mk directiveFilename).isAbsolute = false := by simpa using rooted
    -- Below the empty path a leading dot is a step, but never a name.
    have apart {names : List String} (filled : names ≠ []) (entries : ∀ name ∈ names, IsName name) :
        (Path.mk directiveFilename).components ≠
          ((ofNames names).join ⟨directiveFilename⟩).components := by
      rw [components_join_ofNames filled entries relative]
      rcases components_eq_or _ relative with plain | dotted
      · rw [plain, Ne, List.self_eq_append_left, List.map_eq_nil_iff]
        exact filled
      · obtain ⟨outer, more, rfl⟩ := List.exists_cons_of_ne_nil filled
        rw [dotted]
        intro same
        cases same
    by_cases top : above = []
    · by_cases bottom : below = []
      · rw [top, bottom]
      · rw [top, join_ofNames_nil] at same
        exact absurd same (apart bottom titled)
    · by_cases bottom : below = []
      · rw [bottom, join_ofNames_nil] at same
        exact absurd same.symm (apart top named)
      · rw [components_join_ofNames top named relative,
          components_join_ofNames bottom titled relative, List.append_cancel_right_eq] at same
        have injective : Function.Injective Component.name := fun _ _ => Component.name.inj
        rw [List.map_injective_iff.2 injective same]

end Path

namespace Resolver

theorem normalize_eq_ok_iff {resolver : Resolver} {path relative : Path} :
    resolver.normalize path = .ok relative ↔
      Path.normalize resolver.root path = .ok relative := by
  rw [normalize]
  split <;> simp [*]

/-- Where directive files may apply to a template given by names: below those it begins with. -/
theorem candidates_ofNames {names : List String} (named : ∀ name ∈ names, Path.IsName name)
    (directiveFilename : String) :
    candidates directiveFilename (Path.ofNames names) =
      (names.inits.dropLast.map fun above => (Path.ofNames above).join ⟨directiveFilename⟩).filter
        (·.components ≠ names.map .name) := by
  rw [candidates, Path.ancestors_ofNames named, List.map_map, Path.components_ofNames named]
  rfl

/-- Directive files are looked for in their places. -/
theorem isPlace_of_mem_candidates {directiveFilename : String} {template place : Path}
    (normal : template.IsNormal) (member : place ∈ candidates directiveFilename template) :
    place.IsPlace directiveFilename := by
  obtain ⟨names, -, named, rfl⟩ := normal
  rw [candidates_ofNames named] at member
  obtain ⟨above, begins, rfl⟩ := List.mem_map.1 (List.mem_of_mem_filter member)
  have inside := (List.mem_inits above names).1 (List.mem_of_mem_dropLast begins)
  exact ⟨above, fun name here => named name (inside.mem here), rfl⟩

/-- A directive file is looked for in the places of its name only. -/
theorem isPlace_of_directivePaths {resolver : Resolver} {path place : Path}
    {places : List Path} (found : resolver.directivePaths path = .ok places)
    (member : place ∈ places) : place.IsPlace resolver.directiveFilename := by
  rw [directivePaths, normalize] at found
  cases normal : Path.normalize resolver.root path with
  | error rejection =>
    rw [normal] at found
    cases found
  | ok relative =>
    rw [normal] at found
    cases found
    exact isPlace_of_mem_candidates (Path.isNormal_of_normalize normal) member

end Resolver

end TemplateTree
