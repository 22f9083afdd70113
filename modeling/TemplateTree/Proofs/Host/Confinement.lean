import TemplateTree.Proofs.Host.Inline
import TemplateTree.Proofs.Path.Confined
import TemplateTree.Proofs.Storage.Answers
import TemplateTree.Proofs.Workspace.Similar
import TemplateTree.Storage.Memory

/-!
# Hosts that stay inside of the storage

Which paths a host asks the storage about shows in what it learns from it: a request stays inside if
storages that agree on all confined paths cannot be told apart by it. Templates are normalized, so
that they never lead out of the storage; the name of directive files is taken as it is, and below
the root itself it is the whole path. `walks_stay_inside_iff` says that the walks stay inside if
this name is confined, and that none of them does if it is not.
-/

namespace TemplateTree

/-- Storages are alike if they agree on all confined paths. -/
def Likeness.inside (Store Agenda : Type) [Storage Store] : Likeness Store Agenda Agenda where
  places := Path.IsConfined
  storages one two := ∀ path : Path, path.IsConfined →
    Storage.stamp one path = Storage.stamp two path ∧
      Storage.stream one path = Storage.stream two path
  agendas := Eq
  normal := Path.IsNormal.isConfined
  stamp_eq same confined := (same _ confined).1
  stream_eq same confined := (same _ confined).2

/-- Whether a request walks up from a template, or compiles one from its source. -/
def Request.walks : Request → Bool
  | .compile .. | .compileFile _ | .compileBatch _ | .resolve _ | .chain _ | .levels _ => true
  | _ => false

namespace Host

/-- A request is answered from confined paths only: where storages agree on these, and others act
the same, the answer and everything it leaves behind is the same. -/
def StaysInside (host : Host) (request : Request) : Prop :=
  ∀ {Store Agenda : Type} [Storage Store] (first second : Interrupt Store Agenda),
    (Likeness.inside Store Agenda).Matches first second →
    ∀ one two, (Likeness.inside Store Agenda).Similar one two →
      (Likeness.inside Store Agenda).Same (host.answer first request one)
        (host.answer second request two)

variable {host : Host}

/-- Under a confined name of directive files, walks stay inside. -/
theorem staysInside_of_walks (confined : (Path.mk host.directiveFilename).IsConfined)
    {request : Request} (walks : request.walks = true) : host.StaysInside request := by
  intro Store Agenda _ first second others one two similar
  have own : (Likeness.inside Store Agenda).Covers host.directiveFilename :=
    fun place found => Path.isConfined_of_isPlace_iff.2 confined place found
  have asks : (Likeness.inside Store Agenda).Asks request := by
    cases request with
    | stamp | hasFile | read | lookUp | replaceResolver => cases walks
    | _ => exact trivial
  exact similar.answer own others asks

end Host

/-- A list of answers with a failure among them fails. -/
theorem exists_error_of_listedAll {File : Type}
    {answer : Path → Except CompileError (Option File)} {paths : List Path} {place : Path}
    (member : place ∈ paths) {error : CompileError} (failed : answer place = .error error) :
    ∃ failure, listedAll answer paths = .error failure := by
  induction paths with
  | nil => cases member
  | cons path rest inductionHypothesis =>
    rcases List.mem_cons.1 member with rfl | later
    · exact ⟨error, by rw [listedAll, failed, listed]⟩
    · obtain ⟨failure, others⟩ := inductionHypothesis later
      rw [listedAll, others]
      cases answer path with
      | error error => exact ⟨error, rfl⟩
      | ok found => exact ⟨failure, rfl⟩

namespace Host

/-- The files of a storage with an empty template. -/
def bare (template : Path) : Memory :=
  ({} : Memory).insert template []

/-- The files of a storage with an empty template, and with a malformed file beside it. -/
def spoilt (template outside : Path) : Memory :=
  (bare template).insert outside [64]

/-- A workspace in which nothing has happened. -/
def fresh (memory : Memory) : Workspace Memory Unit where
  storage := memory
  agenda := ()

variable {host : Host} {path template : Path} (normal : Path.normalize host.root path = .ok template)
  (unconfined : ¬ (Path.mk host.directiveFilename).IsConfined)

omit normal in
/-- Storages that differ in an unconfined place agree on all confined ones. -/
theorem similar_fresh (template : Path) {outside : Path} (unconfined : ¬ outside.IsConfined) :
    (Likeness.inside Memory Unit).Similar (fresh (bare template))
      (fresh (spoilt template outside)) where
  storage place confined := by
    have apart : outside.components ≠ place.components := by
      intro same
      rw [Path.IsConfined, same] at unconfined
      exact unconfined confined
    have same : Memory.SameAt place (bare template) (spoilt template outside) :=
      Memory.sameAt_insert apart [64]
    exact ⟨same.stamp.symm, same.stream.symm⟩
  caches := rfl
  installed := rfl
  aside := rfl
  builds := rfl
  warnings := rfl
  agenda := rfl
  covers resolver put := by rcases put with put | put <;> cases put

include unconfined in
/-- An unconfined name leads out of the storage from its root, above every template. -/
theorem mem_candidates_of_unconfined (named : template.IsNormal) :
    Path.mk host.directiveFilename ∈
      Resolver.candidates host.directiveFilename template := by
  obtain ⟨names, filled, entries, rfl⟩ := named
  rw [Resolver.candidates_ofNames entries, List.mem_filter]
  constructor
  · obtain ⟨first, rest, rfl⟩ := List.exists_cons_of_ne_nil filled
    refine List.mem_map.2 ⟨[], ?_, Path.join_ofNames_nil _⟩
    rw [Path.dropLast_inits]
    exact List.mem_map.2 ⟨0, List.mem_range.2 (Nat.succ_pos _), rfl⟩
  · have apart : (Path.mk host.directiveFilename).components ≠ names.map .name := by
      intro same
      have inside := Path.isConfined_ofNames entries
      rw [Path.IsConfined, Path.components_ofNames entries, ← same] at inside
      exact unconfined inside
    simpa using apart

/-- There is no directive file beside the empty template. -/
theorem stamp_bare {directiveFilename : String} {template place : Path}
    (candidate : place ∈ Resolver.candidates directiveFilename template) :
    Storage.stamp (bare template) place = .ok none := by
  have apart : place.components ≠ template.components := by
    simpa using (List.mem_filter.1 candidate).2
  have nothing : (bare template).file? place = none := by
    rw [bare, Memory.file?_insert, if_neg apart]
    rfl
  change (bare template).stamp place = _
  rw [Memory.stamp, nothing]
  rfl

theorem file?_spoilt (template outside : Path) :
    (spoilt template outside).file? outside = some ⟨[64], 2⟩ := by
  rw [spoilt, Memory.file?_insert, if_pos rfl]
  rfl

theorem stamp_spoilt (template outside : Path) :
    Storage.stamp (spoilt template outside) outside = .ok (some ⟨2, 1⟩) := by
  change (spoilt template outside).stamp outside = _
  rw [Memory.stamp, file?_spoilt]
  rfl

/-- The malformed file is malformed under every name. -/
theorem answer_spoilt (template outside : Path) {workspace : Workspace Memory Unit}
    (storage : workspace.storage = spoilt template outside) (empty : workspace.cache 0 = .empty) :
    ∃ error, workspace.answer 0 outside = .error error := by
  have content : Storage.content (spoilt template outside) outside = .ok [64] := by
    rw [Storage.content, (Memory.faultless_of_entries rfl).stream_eq, file?_spoilt]
    rfl
  have malformed : ∃ error, DirectiveFile.ofContent outside [64] = .error error := ⟨_, rfl⟩
  obtain ⟨error, malformed⟩ := malformed
  have nothing : (Cache.empty).find? outside = none := rfl
  refine ⟨error, ?_⟩
  rw [Workspace.answer, storage, stamp_spoilt, content, empty, nothing]
  simp only [Cache.answer, Option.filter_none, malformed]
  rfl

include unconfined in
/-- A walk from the template meets the malformed file. -/
theorem lookUpAll_spoilt (named : template.IsNormal) {workspace : Workspace Memory Unit}
    (storage : workspace.storage = spoilt template ⟨host.directiveFilename⟩)
    (empty : workspace.cache 0 = .empty) :
    ∃ error, (Resolver.lookUpAll .none 0 workspace
      (Resolver.candidates host.directiveFilename template).reverse).1 = .error error := by
  obtain ⟨error, failed⟩ := answer_spoilt template _ storage empty
  have walked := Workspace.lookUpAll_alone (Interrupt.idle_none workspace.agenda) 0
    (fun place other (first : place.IsPlace host.directiveFilename) second same =>
      first.eq_of_components second same)
    (fun place member => Resolver.isPlace_of_mem_candidates named (List.mem_reverse.1 member))
  rw [walked.1]
  exact exists_error_of_listedAll
    (List.mem_reverse.2 (mem_candidates_of_unconfined unconfined named)) failed

/-- The walks that start from the template at a path, whose source is empty where one is given. -/
def walksFrom (path : Path) : List Request :=
  [.compile (some path) (some ⟨[], none⟩), .compileFile path, .resolve path, .chain path,
    .levels path]

/-- The work on the empty template comes to something where there is nothing else. -/
theorem exists_work_bare {Result : Type} (host : Host) (make : Configuration → Template → Result)
    {workspace : Workspace Memory Unit} (storage : workspace.storage = bare template)
    (resolver : Resolver) :
    ∃ result, (host.work .none resolver make template [] workspace).1 = .ok result := by
  have absent (place : Path) (candidate : place ∈ Resolver.candidates resolver.directiveFilename
      template) : Storage.stamp workspace.storage place = .ok none :=
    storage ▸ stamp_bare candidate
  have parsed : ∃ read, parse template [] = .ok read := ⟨_, rfl⟩
  obtain ⟨read, parsed⟩ := parsed
  exact ⟨_, by rw [host.fst_work_of_absent absent, parsed, Except.map]⟩

include unconfined in
/-- The work on the empty template fails beside the malformed file. -/
theorem exists_work_spoilt {Result : Type} (make : Configuration → Template → Result)
    (named : template.IsNormal) {workspace : Workspace Memory Unit}
    (storage : workspace.storage = spoilt template ⟨host.directiveFilename⟩)
    (empty : workspace.cache 0 = .empty) :
    ∃ error, (host.work .none ⟨host.root, host.directiveFilename, 0⟩ make template [] workspace).1 =
      .error error := by
  obtain ⟨error, failed⟩ := lookUpAll_spoilt unconfined named storage empty
  have parsed : ∃ read, parse template [] = .ok read := ⟨_, rfl⟩
  obtain ⟨read, parsed⟩ := parsed
  refine ⟨error, ?_⟩
  rw [work, parsed]
  dsimp only
  split
  · next failure after looked =>
    rw [looked] at failed
    cases failed
    rfl
  · next files after looked =>
    rw [looked] at failed
    cases failed

omit normal in
/-- A template without text is opened and worked on. -/
theorem reading_of_empty {Result : Type} (workspace : Workspace Memory Unit)
    (stream : Storage.stream workspace.storage template = .ok ⟨[], none⟩)
    (goOn : List Char → Workspace Memory Unit →
      Except CompileError Result × Workspace Memory Unit) :
    reading .none template goOn workspace = goOn [] workspace := by
  have opened : Workspace.openFile .none template workspace = (.ok ⟨[], none⟩, workspace) := by
    rw [Workspace.openFile, Interrupt.none, stream]
  have read : readSource template ⟨[], none⟩ = .ok [] := rfl
  simp only [reading, opened, read]

/-- A result is not told as a failure is. -/
theorem ofResult_ne {Result : Type} {told : Result → Answer}
    (success : ∀ result error, told result ≠ .failure error)
    {one two : Except CompileError Result} (succeeds : ∃ result, one = .ok result)
    (fails : ∃ error, two = .error error) :
    Answer.ofResult told one ≠ Answer.ofResult told two := by
  obtain ⟨result, rfl⟩ := succeeds
  obtain ⟨error, rfl⟩ := fails
  exact success result error

include normal unconfined in
/-- A walk from a template tells the two storages apart, if the name of directive files leads out of
them. -/
theorem answer_ne_of_unconfined {request : Request} (walk : request ∈ walksFrom path) :
    (host.answer .none request (fresh (bare template))).1 ≠
      (host.answer .none request (fresh (spoilt template ⟨host.directiveFilename⟩))).1 := by
  have named := Path.isNormal_of_normalize normal
  have placed (memory : Memory) :
      (host.resolver (fresh memory)).1.normalize path = .ok template :=
    Resolver.normalize_eq_ok_iff.2 normal
  have listed (memory : Memory) : (host.resolver (fresh memory)).1.directivePaths path =
      .ok (Resolver.candidates host.directiveFilename template) := by
    rw [Resolver.directivePaths, placed]
    rfl
  have decoded : Text.Utf8.decode? [] = some [] := rfl
  have opened : Storage.stream (bare template) template = .ok ⟨[], none⟩ := by
    rw [(Memory.faultless_of_entries rfl).stream_eq, bare, Memory.file?_insert, if_pos rfl]
  have reopened : Storage.stream (spoilt template ⟨host.directiveFilename⟩) template =
      .ok ⟨[], none⟩ :=
    (((similar_fresh template unconfined).storage template named.isConfined).2).symm.trans opened
  simp only [walksFrom, List.mem_cons, List.not_mem_nil, or_false] at walk
  rcases walk with rfl | rfl | rfl | rfl | rfl
  · simp only [answer, host.compile_eq_codeAt (placed _) decoded, codeAt]
    exact ofResult_ne (fun _ _ same => by cases same) (host.exists_work_bare _ rfl _)
      (exists_work_spoilt unconfined _ named rfl rfl)
  · simp only [answer, host.compileFile_eq_reading normal,
      reading_of_empty (fresh (bare template)) opened,
      reading_of_empty (fresh (spoilt template ⟨host.directiveFilename⟩)) reopened, codeAt]
    exact ofResult_ne (fun _ _ same => by cases same) (host.exists_work_bare _ rfl _)
      (exists_work_spoilt unconfined _ named rfl rfl)
  · simp only [answer, host.resolve_eq_reading (placed _),
      reading_of_empty (host.resolver (fresh (bare template))).2 opened,
      reading_of_empty (host.resolver (fresh (spoilt template ⟨host.directiveFilename⟩))).2 reopened]
    exact ofResult_ne (fun _ _ same => by cases same) (host.exists_work_bare _ rfl _)
      (exists_work_spoilt unconfined _ named rfl rfl)
  · simp only [answer, Resolver.chain_eq, listed]
    exact ofResult_ne (fun _ _ same => by cases same)
      ⟨[], Resolver.lookUpAll_of_absent (fun _ member => stamp_bare (List.mem_reverse.1 member)) _⟩
      (lookUpAll_spoilt unconfined named rfl rfl)
  · simp only [answer, levels, listed, Answer.ofResult, ne_eq, Answer.levels.injEq]
    intro same
    have there := mem_candidates_of_unconfined unconfined named
    have flags := List.map_inj_left.1 same _ there
    have absent : Storage.hasFile (bare template) ⟨host.directiveFilename⟩ = false := by
      rw [Storage.hasFile, stamp_bare there]
    have present : Storage.hasFile (spoilt template ⟨host.directiveFilename⟩)
        ⟨host.directiveFilename⟩ = true := by
      rw [Storage.hasFile, stamp_spoilt]
    have equal := (Prod.mk.inj flags).2
    exact Bool.false_ne_true (absent.symm.trans (equal.trans present))

/-- Whatever the root is, a walk from a template stays inside of the storage if the name of
directive files is confined; if it is not, no walk from any template of the tree does. -/
theorem walks_stay_inside_iff (host : Host) :
    (∀ request : Request, request.walks = true →
      (Path.mk host.directiveFilename).IsConfined → host.StaysInside request) ∧
    ∀ path template, Path.normalize host.root path = .ok template →
      ∀ request ∈ walksFrom path,
        (host.StaysInside request ↔ (Path.mk host.directiveFilename).IsConfined) := by
  have inside (request : Request) (walks : request.walks = true)
      (confined : (Path.mk host.directiveFilename).IsConfined) : host.StaysInside request :=
    staysInside_of_walks confined walks
  refine ⟨inside, fun path template normal request walk => ⟨fun stays => ?_, inside request ?_⟩⟩
  · by_contra unconfined
    obtain ⟨answer, left, right, left_eq, right_eq, -⟩ :=
      stays .none .none Likeness.matches_none _ _ (similar_fresh template unconfined)
    have same := answer_ne_of_unconfined normal unconfined walk
    rw [left_eq, right_eq] at same
    exact same rfl
  · simp only [walksFrom, List.mem_cons, List.not_mem_nil, or_false] at walk
    rcases walk with rfl | rfl | rfl | rfl | rfl <;> rfl

/-- Under the standard name walks stay inside. Under a name that leads above the root they do not,
and a file that lies there sets the model of a template of the tree. -/
theorem walks_stay_inside_iff_above_root :
    let tidy : Host := { root := ⟨"views"⟩ }
    let leaky : Host := { root := ⟨"views"⟩, directiveFilename := "../shared.tmpl" }
    let page : Path := ⟨"pages/../page.tmpl"⟩
    let memory := (bare ⟨"page.tmpl"⟩).insert ⟨"../shared.tmpl"⟩
      (Text.Utf8.encode "@model Leaked".toList)
    (∀ request ∈ walksFrom page, tidy.StaysInside request) ∧
      (∀ request ∈ walksFrom page, ¬ leaky.StaysInside request) ∧
      (leaky.resolve .none page (fresh memory)).1.toOption.map (·.modelType) = some "Leaked" := by
  intro tidy leaky page memory
  have normal (host : Host) (rooted : host.root = ⟨"views"⟩) :
      Path.normalize host.root page = .ok ⟨"page.tmpl"⟩ := by
    rw [rooted]
    decide +kernel
  refine ⟨fun request walk => ?_, fun request walk => ?_, by decide +kernel⟩
  · exact (((walks_stay_inside_iff tidy).2 page _ (normal tidy rfl)) request walk).2
      (by decide +kernel)
  · rw [((walks_stay_inside_iff leaky).2 page _ (normal leaky rfl)) request walk]
    decide +kernel

end Host

end TemplateTree
