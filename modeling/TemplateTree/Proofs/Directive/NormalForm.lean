import Mathlib.Data.List.Forall2
import Mathlib.Data.List.Nodup
import Mathlib.Data.Nat.Find
import TemplateTree.DirectiveFile
import TemplateTree.Proofs.Directive.Declared

/-!
# The normal form of directives

What is kept of the directives of a file, written as directives again, declares the same, and
nothing in it is said twice or overridden. `Overrides` says which directive of a file makes which
other one void. Main statement: `ofDirectives_normalizes`.
-/

namespace TemplateTree

namespace Directive

/-- The kind of the directive at a position. -/
def kindAt? (directives : List Directive) (position : Nat) : Option Kind :=
  directives[position]?.map (·.kind)

/-- The last directive of a kind stands at this position. -/
structure LastAt (kind : Kind) (directives : List Directive) (position : Nat) : Prop where
  here : kindAt? directives position = some kind
  noLater : ∀ later, position < later → kindAt? directives later ≠ some kind

/-- The directive at `later` overrides the one at `earlier`: only one of their kind can count, and
among those before `later` the one at `earlier` is the last of this kind. -/
def Overrides (directives : List Directive) (earlier later : Nat) : Prop :=
  ∃ kind, kind ≠ .namespaceImport ∧ kindAt? directives later = some kind ∧
    LastAt kind (directives.take later) earlier

/-- All directives that are overridden and those that override them, by their positions and in the
order in which that happens. -/
structure AreOverridings (directives : List Directive) (pairs : List (Nat × Nat)) : Prop where
  ordered : pairs.Pairwise fun first second => first.2 < second.2
  complete : ∀ earlier later, (earlier, later) ∈ pairs ↔ Overrides directives earlier later

variable {directives : List Directive} {directive : Directive} {kind : Kind}
variable {position earlier later : Nat} {pairs : List (Nat × Nat)}

theorem lt_of_kindAt? (found : kindAt? directives position = some kind) :
    position < directives.length := by
  obtain ⟨directive, there, -⟩ := Option.map_eq_some_iff.1 found
  exact (List.getElem?_eq_some_iff.1 there).1

/-- The kinds of directives with one more at the end. -/
theorem kindAt?_concat (directives : List Directive) (directive : Directive) (position : Nat) :
    kindAt? (directives ++ [directive]) position =
      if position = directives.length then some directive.kind
      else kindAt? directives position := by
  rw [kindAt?, kindAt?]
  split
  · next last => rw [last, List.getElem?_concat_length, Option.map_some]
  · next other =>
    rcases Nat.lt_or_gt_of_ne other with inside | beyond
    · rw [List.getElem?_append_left inside]
    · have outside : (directives ++ [directive]).length ≤ position := by
        simpa [Nat.succ_le_iff] using beyond
      rw [List.getElem?_eq_none outside, List.getElem?_eq_none (Nat.le_of_lt beyond)]

theorem kindAt?_take (directives : List Directive) (count position : Nat) :
    kindAt? (directives.take count) position =
      if position < count then kindAt? directives position else none := by
  rw [kindAt?, kindAt?, List.getElem?_take]
  split <;> rfl

/-- The last directive of a kind is the one at the end, or else the last one before. -/
theorem lastAt_concat_iff :
    LastAt kind (directives ++ [directive]) position ↔
      directive.kind = kind ∧ position = directives.length ∨
        directive.kind ≠ kind ∧ LastAt kind directives position := by
  constructor
  · rintro ⟨here, noLater⟩
    by_cases same : directive.kind = kind
    · refine .inl ⟨same, Nat.le_antisymm ?_ (Nat.le_of_not_lt fun inside => ?_)⟩
      · simpa [Nat.lt_succ_iff] using lt_of_kindAt? here
      · exact noLater _ inside (by rw [kindAt?_concat, if_pos rfl, same])
    · have inside : position ≠ directives.length := by
        rintro rfl
        rw [kindAt?_concat, if_pos rfl] at here
        exact same (Option.some.inj here)
      rw [kindAt?_concat, if_neg inside] at here
      refine .inr ⟨same, here, fun later behind found => ?_⟩
      refine noLater later behind ?_
      rwa [kindAt?_concat, if_neg (Nat.ne_of_lt (lt_of_kindAt? found))]
  · rintro (⟨same, rfl⟩ | ⟨other, here, noLater⟩)
    · refine ⟨by rw [kindAt?_concat, if_pos rfl, same], fun later behind found => ?_⟩
      have within := lt_of_kindAt? found
      simp only [List.length_append, List.length_singleton] at within
      omega
    · have inside := lt_of_kindAt? here
      refine ⟨by rwa [kindAt?_concat, if_neg (Nat.ne_of_lt inside)], fun later behind => ?_⟩
      rw [kindAt?_concat]
      split
      · exact fun found => other (Option.some.inj found)
      · exact noLater later behind

/-- The last argument of a kind is that of the last directive of the kind. -/
theorem getLast?_argumentsOf_eq_some_iff {argument : String} :
    (argumentsOf kind directives).getLast? = some argument ↔
      ∃ position, LastAt kind directives position ∧
        directives[position]? = some ⟨kind, argument⟩ := by
  induction directives using List.reverseRecOn with
  | nil => simp [argumentsOf]
  | append_singleton rest directive inductionHypothesis =>
    by_cases same : directive.kind = kind
    · have ends : argumentsOf kind (rest ++ [directive]) =
          argumentsOf kind rest ++ [directive.argument] := by
        simp [argumentsOf, same]
      rw [ends, List.getLast?_concat]
      simp only [lastAt_concat_iff]
      constructor
      · rintro ⟨⟩
        exact ⟨rest.length, .inl ⟨same, rfl⟩, by rw [List.getElem?_concat_length, ← same]⟩
      · rintro ⟨position, ⟨-, rfl⟩ | ⟨other, -⟩, there⟩
        · rw [List.getElem?_concat_length] at there
          exact congrArg (some ·.argument) (Option.some.inj there)
        · exact absurd same other
    · have ends : argumentsOf kind (rest ++ [directive]) = argumentsOf kind rest := by
        simp [argumentsOf, same]
      rw [ends, inductionHypothesis]
      simp only [lastAt_concat_iff, same, false_and, ne_eq, not_false_eq_true, true_and, false_or]
      refine exists_congr fun position => and_congr_right fun last => ?_
      rw [List.getElem?_append_left (lt_of_kindAt? last.here)]

theorem LastAt.unique {other : Nat} (first : LastAt kind directives position)
    (second : LastAt kind directives other) : position = other :=
  Nat.le_antisymm (Nat.le_of_not_lt fun behind => second.noLater _ behind first.here)
    (Nat.le_of_not_lt fun behind => first.noLater _ behind second.here)

theorem Overrides.lt_length (overrides : Overrides directives earlier later) :
    later < directives.length := by
  obtain ⟨kind, -, here, -⟩ := overrides
  exact lt_of_kindAt? here

/-- One more directive at the end overrides the last one of its kind, and nothing else becomes void
by it. -/
theorem overrides_concat_iff :
    Overrides (directives ++ [directive]) earlier later ↔
      Overrides directives earlier later ∨
        later = directives.length ∧ directive.kind ≠ .namespaceImport ∧
          LastAt directive.kind directives earlier := by
  constructor
  · rintro ⟨kind, single, here, last⟩
    have within : later ≤ directives.length := by
      simpa [Nat.lt_succ_iff] using lt_of_kindAt? here
    rcases Nat.lt_or_eq_of_le within with inside | rfl
    · rw [kindAt?_concat, if_neg (Nat.ne_of_lt inside)] at here
      rw [List.take_append_of_le_length within] at last
      exact .inl ⟨kind, single, here, last⟩
    · rw [kindAt?_concat, if_pos rfl] at here
      obtain rfl := Option.some.inj here
      rw [List.take_left] at last
      exact .inr ⟨rfl, single, last⟩
  · rintro (overrides | ⟨rfl, single, last⟩)
    · have inside := overrides.lt_length
      obtain ⟨kind, single, here, last⟩ := overrides
      refine ⟨kind, single, ?_, ?_⟩
      · rwa [kindAt?_concat, if_neg (Nat.ne_of_lt inside)]
      · rwa [List.take_append_of_le_length (Nat.le_of_lt inside)]
    · exact ⟨directive.kind, single, by rw [kindAt?_concat, if_pos rfl], by rwa [List.take_left]⟩

/-- The last directive of a kind before a position: behind it the kind does not occur up to there.
-/
theorem lastAt_take_iff :
    LastAt kind (directives.take later) earlier ↔
      earlier < later ∧ kindAt? directives earlier = some kind ∧
        ∀ between, earlier < between → between < later →
          kindAt? directives between ≠ some kind := by
  constructor
  · rintro ⟨here, noLater⟩
    rw [kindAt?_take] at here
    split at here
    · next before =>
      refine ⟨before, here, fun between behind inside found => noLater between behind ?_⟩
      rwa [kindAt?_take, if_pos inside]
    · cases here
  · rintro ⟨before, here, none⟩
    refine ⟨by rwa [kindAt?_take, if_pos before], fun between behind found => ?_⟩
    rw [kindAt?_take] at found
    split at found
    · next inside => exact none between behind inside found
    · cases found

/-- A directive is overridden by one other at most. -/
theorem Overrides.unique {other : Nat} (first : Overrides directives earlier later)
    (second : Overrides directives earlier other) : later = other := by
  obtain ⟨kind, -, here, last⟩ := first
  obtain ⟨same, -, there, again⟩ := second
  obtain ⟨before, found, none⟩ := lastAt_take_iff.1 last
  obtain ⟨below, twice, nothing⟩ := lastAt_take_iff.1 again
  obtain rfl : kind = same := Option.some.inj (found.symm.trans twice)
  exact Nat.le_antisymm (Nat.le_of_not_lt fun nearer => none _ below nearer there)
    (Nat.le_of_not_lt fun nearer => nothing _ before nearer here)

/-- A directive is overridden if another of its kind follows and only one of the kind can count. -/
theorem exists_overrides_iff :
    (∃ later, Overrides directives earlier later) ↔
      ∃ kind later, kind ≠ .namespaceImport ∧ earlier < later ∧
        kindAt? directives earlier = some kind ∧ kindAt? directives later = some kind := by
  constructor
  · rintro ⟨later, kind, single, there, last⟩
    obtain ⟨before, here, -⟩ := lastAt_take_iff.1 last
    exact ⟨kind, later, single, before, here, there⟩
  · rintro ⟨kind, later, single, before, here, there⟩
    -- The next one of the kind overrides it.
    have follows : ∃ later, earlier < later ∧ kindAt? directives later = some kind :=
      ⟨later, before, there⟩
    obtain ⟨behind, found⟩ := Nat.find_spec follows
    refine ⟨Nat.find follows, kind, single, found, lastAt_take_iff.2 ⟨behind, here, ?_⟩⟩
    exact fun between after inside same => Nat.find_min follows inside ⟨after, same⟩

theorem AreOverridings.nodup (overridings : AreOverridings directives pairs) :
    (pairs.map Prod.fst).Nodup := by
  refine List.pairwise_map.2 (overridings.ordered.imp_of_mem ?_)
  rintro ⟨earlier, later⟩ ⟨other, last⟩ first second below rfl
  have same := ((overridings.complete ..).1 first).unique ((overridings.complete ..).1 second)
  exact absurd same (Nat.ne_of_lt below)

theorem AreOverridings.mem_iff (overridings : AreOverridings directives pairs) :
    earlier ∈ pairs.map Prod.fst ↔
      ∃ kind later, kind ≠ .namespaceImport ∧ earlier < later ∧
        kindAt? directives earlier = some kind ∧ kindAt? directives later = some kind := by
  rw [← exists_overrides_iff]
  simp only [← overridings.complete, List.mem_map, Prod.exists, exists_and_right, exists_eq_right]

/-- Nothing is overridden where no two directives are of a kind of which only one can count. -/
theorem AreOverridings.eq_nil (overridings : AreOverridings directives pairs)
    (single : directives.Pairwise fun first second =>
      first.kind = second.kind → first.kind = .namespaceImport) : pairs = [] := by
  rw [List.eq_nil_iff_forall_not_mem]
  rintro ⟨earlier, later⟩ member
  obtain ⟨kind, other, there, last⟩ := (overridings.complete ..).1 member
  obtain ⟨before, here, -⟩ := lastAt_take_iff.1 last
  obtain ⟨first, found, rfl⟩ := Option.map_eq_some_iff.1 here
  obtain ⟨second, next, same⟩ := Option.map_eq_some_iff.1 there
  obtain ⟨low, rfl⟩ := List.getElem?_eq_some_iff.1 found
  obtain ⟨high, rfl⟩ := List.getElem?_eq_some_iff.1 next
  exact other (List.pairwise_iff_getElem.1 single earlier later low high before same.symm)

theorem argumentsOf_map_mk (kind other : Kind) (arguments : List String) :
    argumentsOf kind (arguments.map (⟨other, ·⟩)) = if other = kind then arguments else [] := by
  by_cases same : other = kind <;> simp [argumentsOf, List.filter_map, Function.comp_def, same]

theorem argumentsOf_append (kind : Kind) (first second : List Directive) :
    argumentsOf kind (first ++ second) = argumentsOf kind first ++ argumentsOf kind second := by
  simp [argumentsOf]

end Directive

namespace Declarations

open Directive (LastAt Overrides AreOverridings)

variable {directives : List Directive} {directive found : Directive}

/-- A further directive overrides the last one of its kind, if only one of the kind can count. -/
theorem overridden?_ofDirectives_eq_some_iff :
    (ofDirectives directives).overridden? directive = some found ↔
      directive.kind ≠ .namespaceImport ∧
        ∃ position, LastAt directive.kind directives position ∧
          directives[position]? = some found := by
  have last (kind : Directive.Kind) :
      (Directive.argumentsOf kind directives).getLast?.map (⟨kind, ·⟩) = some found ↔
        ∃ position, LastAt kind directives position ∧ directives[position]? = some found := by
    simp only [Option.map_eq_some_iff, Directive.getLast?_argumentsOf_eq_some_iff]
    constructor
    · rintro ⟨argument, ⟨position, last, there⟩, rfl⟩
      exact ⟨position, last, there⟩
    · rintro ⟨position, last, there⟩
      have here := last.here
      rw [Directive.kindAt?, there] at here
      obtain rfl := Option.some.inj here
      exact ⟨found.argument, ⟨position, last, there⟩, rfl⟩
  obtain ⟨kind, argument⟩ := directive
  rw [ofDirectives_eq]
  cases kind with
  | baseType => simpa [overridden?] using last .baseType
  | modelType => simpa [overridden?] using last .modelType
  | namespaceImport => simp [overridden?]

/-- What directives override, with one more at the end. -/
theorem overridden_concat (outer : Declarations) (directives : List Directive)
    (directive : Directive) :
    outer.overridden (directives ++ [directive]) =
      outer.overridden directives ++
        ((directives.foldl add outer).overridden? directive).toList := by
  induction directives generalizing outer with
  | nil => simp [overridden]
  | cons first rest inductionHypothesis =>
    rw [List.cons_append, overridden, overridden, inductionHypothesis, List.append_assoc]
    rfl

/-- The directives that are overridden are those of the overridings, in their order. -/
theorem exists_areOverridings (directives : List Directive) :
    ∃ pairs, AreOverridings directives pairs ∧
      List.Forall₂ (fun pair directive => directives[pair.1]? = some directive) pairs
        (empty.overridden directives) := by
  induction directives using List.reverseRecOn with
  | nil => exact ⟨[], ⟨.nil, fun _ _ => by simp [Overrides, Directive.kindAt?]⟩, .nil⟩
  | append_singleton rest directive inductionHypothesis =>
    obtain ⟨pairs, ⟨ordered, complete⟩, named⟩ := inductionHypothesis
    have same : List.Forall₂ (fun pair found => (rest ++ [directive])[pair.1]? = some found) pairs
        (empty.overridden rest) := by
      refine List.Forall₂.imp (fun pair found there => ?_) named
      rwa [List.getElem?_append_left (List.getElem?_eq_some_iff.1 there).1]
    rw [overridden_concat, ← ofDirectives]
    cases result : (ofDirectives rest).overridden? directive with
    | none =>
      refine ⟨pairs, ⟨ordered, fun earlier later => ?_⟩, by simpa using same⟩
      rw [complete, Directive.overrides_concat_iff, iff_self_or]
      rintro ⟨-, single, last⟩
      obtain ⟨found, there, -⟩ := Option.map_eq_some_iff.1 last.here
      have := overridden?_ofDirectives_eq_some_iff.2 ⟨single, earlier, last, there⟩
      cases result.symm.trans this
    | some found =>
      obtain ⟨single, position, last, there⟩ := overridden?_ofDirectives_eq_some_iff.1 result
      refine ⟨pairs ++ [(position, rest.length)], ⟨?_, fun earlier later => ?_⟩, ?_⟩
      · refine List.pairwise_append.2 ⟨ordered, List.pairwise_singleton _ _, ?_⟩
        rintro ⟨earlier, later⟩ member other last
        rw [List.mem_singleton.1 last]
        exact ((complete earlier later).1 member).lt_length
      · rw [List.mem_append, List.mem_singleton, complete, Directive.overrides_concat_iff,
          Prod.mk.injEq]
        refine or_congr_right ⟨?_, ?_⟩
        · rintro ⟨rfl, rfl⟩
          exact ⟨rfl, single, last⟩
        · rintro ⟨rfl, -, again⟩
          exact ⟨again.unique last, rfl⟩
      · refine List.rel_append same (.cons ?_ .nil)
        rwa [List.getElem?_append_left (List.getElem?_eq_some_iff.1 there).1]

/-- The arguments of each kind in declarations written as directives. -/
theorem argumentsOf_toDirectives (declarations : Declarations) (kind : Directive.Kind) :
    Directive.argumentsOf kind declarations.toDirectives =
      match kind with
      | .baseType => declarations.baseType.toList
      | .modelType => declarations.modelType.toList
      | .namespaceImport => declarations.namespaces := by
  simp only [toDirectives, Directive.argumentsOf_append, Directive.argumentsOf_map_mk]
  cases kind <;> simp

/-- What directives declare declares itself when it is written as directives. -/
theorem ofDirectives_toDirectives (directives : List Directive) :
    ofDirectives (ofDirectives directives).toDirectives = ofDirectives directives := by
  have once := addNames_of_eraseDups [] (Directive.argumentsOf .namespaceImport directives)
  rw [addNames_nil, addNames_nil] at once
  have last (setting : Option String) : setting.toList.getLast? = setting := by
    cases setting <;> rfl
  rw [ofDirectives_eq (ofDirectives directives).toDirectives]
  simp only [argumentsOf_toDirectives, last]
  rw [ofDirectives_eq, once]

/-- Declarations written as directives have no two directives of a kind of which only one can
count. -/
theorem pairwise_toDirectives (declarations : Declarations) :
    declarations.toDirectives.Pairwise fun first second =>
      first.kind = second.kind → first.kind = .namespaceImport := by
  obtain ⟨baseType, modelType, namespaces⟩ := declarations
  have imports : (namespaces.map (Directive.mk .namespaceImport)).Pairwise fun first second =>
      first.kind = second.kind → first.kind = .namespaceImport := by
    rw [List.pairwise_map]
    exact List.pairwise_of_forall fun _ _ _ => rfl
  cases baseType <;> cases modelType <;>
    simp [toDirectives, List.pairwise_append, imports]

/-- They repeat nothing if no namespace is repeated. -/
theorem nodup_toDirectives {declarations : Declarations} (nodup : declarations.namespaces.Nodup) :
    declarations.toDirectives.Nodup := by
  obtain ⟨baseType, modelType, namespaces⟩ := declarations
  have imports : (namespaces.map (Directive.mk .namespaceImport)).Nodup :=
    List.Nodup.map (fun _ _ same => congrArg Directive.argument same) nodup
  cases baseType <;> cases modelType <;>
    simp [toDirectives, List.nodup_append, imports]

end Declarations

namespace DirectiveFile

open Directive (kindAt? AreOverridings argumentsOf)

/-- Of the directives of a file, the last base type, the last model type and every namespace where
it is first imported are kept. There is one warning for every base type and every model type that
another one follows, in the order in which they are overridden, and it names the one that is. What
is kept, written as directives, repeats nothing, makes the same file again, and gives no warning. -/
theorem ofDirectives_normalizes (path : Path) (contentHash : String)
    (directives : List Directive) :
    let file := ofDirectives path contentHash directives
    let normal := file.declarations.toDirectives
    (file.declarations.baseType = (argumentsOf .baseType directives).getLast? ∧
      file.declarations.modelType = (argumentsOf .modelType directives).getLast? ∧
      file.declarations.namespaces = (argumentsOf .namespaceImport directives).eraseDups) ∧
    (∃ pairs, AreOverridings directives pairs ∧
      (pairs.map Prod.fst).Nodup ∧
      (∀ earlier, earlier ∈ pairs.map Prod.fst ↔
        ∃ kind later, kind ≠ .namespaceImport ∧ earlier < later ∧
          kindAt? directives earlier = some kind ∧ kindAt? directives later = some kind) ∧
      List.Forall₂ (fun pair warning => ∃ directive, directives[pair.1]? = some directive ∧
        warning = directive.overrideWarning path.text) pairs
          (Directive.warnings path.text directives)) ∧
    normal.Nodup ∧ ofDirectives path contentHash normal = file ∧
      Directive.warnings path.text normal = [] := by
  intro file normal
  have kept := Declarations.ofDirectives_eq directives
  refine ⟨?_, ?_, ?_, ?_, ?_⟩
  · simp only [file, ofDirectives, kept, and_self]
  · obtain ⟨pairs, overridings, named⟩ := Declarations.exists_areOverridings directives
    refine ⟨pairs, overridings, overridings.nodup, fun earlier => overridings.mem_iff, ?_⟩
    rw [Directive.warnings, List.forall₂_map_right_iff]
    exact named.imp fun pair directive there => ⟨directive, there, rfl⟩
  · refine Declarations.nodup_toDirectives ?_
    simp only [file, ofDirectives, kept]
    exact nodup_eraseDups _
  · exact congrArg (DirectiveFile.mk path contentHash)
      (Declarations.ofDirectives_toDirectives directives)
  · obtain ⟨pairs, overridings, named⟩ := Declarations.exists_areOverridings normal
    obtain rfl := overridings.eq_nil (Declarations.pairwise_toDirectives _)
    rw [Directive.warnings, List.forall₂_nil_left_iff.1 named]
    rfl

/-- A base type that is declared earlier can be overridden later. -/
example : Declarations.empty.overridden
    [⟨.baseType, "A"⟩, ⟨.modelType, "M"⟩, ⟨.modelType, "N"⟩, ⟨.baseType, "B"⟩] =
      [⟨.modelType, "M"⟩, ⟨.baseType, "A"⟩] := by
  decide

end DirectiveFile

end TemplateTree
