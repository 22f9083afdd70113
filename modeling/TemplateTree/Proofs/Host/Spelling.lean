import TemplateTree.Proofs.Host.Work
import TemplateTree.Proofs.Path.Spelling
import TemplateTree.Proofs.Session.Chronicle

/-!
# Hosts and the spelling of paths

Whatever a host is asked about a template, it first brings the path into its normal form, and from
then on it works with that. Main statement: `answers_ignore_spelling`.
-/

namespace TemplateTree

namespace Host

variable {Store Agenda : Type} [Storage Store]

/-- Two paths are one to a host: it makes the same code and the same configuration for them, finds
the same directive files, looks for them in the same places, and changes the workspace alike. -/
structure AnswersAlike (host : Host) (interrupt : Interrupt Store Agenda)
    (workspace : Workspace Store Agenda) (path other : Path) : Prop where
  compileFile : host.compileFile interrupt path workspace =
    host.compileFile interrupt other workspace
  resolve : host.resolve interrupt path workspace = host.resolve interrupt other workspace
  chain : (host.resolver workspace).1.chain interrupt path (host.resolver workspace).2 =
    (host.resolver workspace).1.chain interrupt other (host.resolver workspace).2
  directivePaths : (host.resolver workspace).1.directivePaths path =
    (host.resolver workspace).1.directivePaths other
  levels : host.levels path workspace = host.levels other workspace

variable {host : Host} {interrupt : Interrupt Store Agenda} {workspace : Workspace Store Agenda}
  {path other relative : Path}

/-- Paths with one normal form, for the host as for the resolver in use, are one. -/
theorem answersAlike_of_normalize (here : Path.normalize host.root path = .ok relative)
    (there : Path.normalize host.root other = .ok relative)
    (inUse : (host.resolver workspace).1.root.components = host.root.components) :
    host.AnswersAlike interrupt workspace path other := by
  have resolved {path : Path} (normal : Path.normalize host.root path = .ok relative) :
      (host.resolver workspace).1.normalize path = .ok relative := by
    rw [Resolver.normalize_eq_ok_iff, ← Path.within?_eq_some_iff, Path.within?_congr inUse,
      Path.within?_eq_some_iff, normal]
  have places : (host.resolver workspace).1.directivePaths path =
      (host.resolver workspace).1.directivePaths other := by
    rw [Resolver.directivePaths, Resolver.directivePaths, resolved here, resolved there]
  exact {
    compileFile := by rw [host.compileFile_eq_reading here, host.compileFile_eq_reading there]
    resolve := by
      rw [host.resolve_eq_reading (resolved here), host.resolve_eq_reading (resolved there)]
    chain := by rw [Resolver.chain_eq, Resolver.chain_eq, places]
    directivePaths := places
    levels := by simp only [levels, places] }

/-- The spelling of a path does not matter. Below an absolute root a relative path and the absolute
one that it stands for are normalized alike, and so are all paths that differ in slashes, in dots,
and in steps that are taken back. If the resolver in use is for the tree of the host, or if there is
none yet, a path that names a file is one with its normal path to the host, and with every other
path that has the same. -/
theorem answers_ignore_spelling (host : Host) (interrupt : Interrupt Store Agenda)
    (workspace : Workspace Store Agenda) :
    (∀ root path : Path, root.isAbsolute = true → path.isAbsolute = false →
      Path.normalize root (root.join path) = Path.normalize root path) ∧
    (∀ root path other, Relation.EqvGen (Path.Respelled root) path other →
      Path.normalize root path = Path.normalize root other) ∧
    ((∀ resolver, workspace.installed = some resolver →
        resolver.root.components = host.root.components) →
      ∀ path relative, Path.normalize host.root path = .ok relative →
        host.AnswersAlike interrupt workspace path relative ∧
          ∀ other, Path.normalize host.root other = .ok relative →
            host.AnswersAlike interrupt workspace path other) := by
  refine ⟨fun root path rooted relative => ?_, fun root path other respelled => ?_,
    fun sameTree path relative normal => ?_⟩
  · exact (Path.Respelled.absolute rooted relative).normalize_eq
  · exact Path.normalize_eq_of_respelled respelled
  · have inUse : (host.resolver workspace).1.root.components = host.root.components := by
      cases installed : workspace.installed with
      | none => rw [resolver, installed]; rfl
      | some resolver => rw [host.resolver_of_installed installed, sameTree resolver installed]
    have again := (Path.isNormal_of_normalize normal).normalize_eq host.root
    exact ⟨answersAlike_of_normalize normal again inUse,
      fun other same => answersAlike_of_normalize normal same inUse⟩

/-- Under a resolver whose root is spelled with a slash at its end, a path from the root of the
machine with all kinds of detours is one with the path from the root of the tree. -/
theorem answers_ignore_spelling_with_detours :
    let host : Host := { root := ⟨"/views"⟩ }
    let long : Path := ⟨"/views//A/./x/../page.tmpl/"⟩
    let short : Path := ⟨"A/page.tmpl"⟩
    let dotted : Path := ⟨"./A/page.tmpl"⟩
    let state := Session.finish host [.ask (.replaceResolver ⟨"/views/"⟩ "_imports.tmpl")]
      (Session.start [(short, [64, 120]), (⟨"A/_imports.tmpl"⟩, [64, 109])] false)
    (host.root.isAbsolute = true ∧ short.isAbsolute = false ∧
      Path.normalize host.root (host.root.join short) = Path.normalize host.root short) ∧
    (Relation.EqvGen (Path.Respelled host.root) long short ∧
      Path.normalize host.root long = Path.normalize host.root short) ∧
    (∀ resolver, state.installed = some resolver →
      resolver.root.components = host.root.components) ∧
    Path.normalize host.root long = .ok short ∧ Path.normalize host.root dotted = .ok short ∧
    host.AnswersAlike .none state long short ∧ host.AnswersAlike .none state long dotted := by
  intro host long short dotted state
  have rooted : host.root.isAbsolute = true := by decide +kernel
  have relative : short.isAbsolute = false := by decide +kernel
  have normal : Path.normalize host.root long = .ok short := by decide +kernel
  have same : Path.normalize host.root dotted = .ok short := by decide +kernel
  have sameTree : ∀ resolver, state.installed = some resolver →
      resolver.root.components = host.root.components := by
    rintro resolver ⟨⟩
    decide +kernel
  have entry : Path.IsName "x" := ⟨by decide, by decide⟩
  have opens (rest : String) : Path.Opens "/views/A/" rest := .inl ⟨"/views/A", by simp⟩
  have inside : Path.StepsBelow host.root ⟨"/views/A/"⟩ [.name "A"] := by
    rw [← Path.relativeTo?_eq_ok_iff]
    decide +kernel
  have respelled : Relation.EqvGen (Path.Respelled host.root) long short := by
    have unended : Path.Respelled host.root long ⟨"/views//A/./x/../page.tmpl"⟩ := by
      simpa using @Path.Respelled.trailing host.root "/views//A/./x/../page.tmpl" (by decide)
    have single : Path.Respelled host.root ⟨"/views//A/./x/../page.tmpl"⟩
        ⟨"/views/A/./x/../page.tmpl"⟩ := by
      simpa using @Path.Respelled.slash host.root "/views" "A/./x/../page.tmpl"
    have plain : Path.Respelled host.root ⟨"/views/A/./x/../page.tmpl"⟩
        ⟨"/views/A/x/../page.tmpl"⟩ := by
      simpa using @Path.Respelled.dot host.root _ _ (opens "x/../page.tmpl")
    have direct : Path.Respelled host.root ⟨"/views/A/x/../page.tmpl"⟩ ⟨"/views/A/page.tmpl"⟩ := by
      simpa using @Path.Respelled.back host.root _ _ _ (opens "page.tmpl") entry ⟨_, inside⟩
    have below : Path.Respelled host.root ⟨"/views/A/page.tmpl"⟩ short := by
      have written : host.root.join short = ⟨"/views/A/page.tmpl"⟩ := by decide +kernel
      exact written ▸ .absolute rooted relative
    exact .trans _ _ _ (.rel _ _ unended) (.trans _ _ _ (.rel _ _ single)
      (.trans _ _ _ (.rel _ _ plain) (.trans _ _ _ (.rel _ _ direct) (.rel _ _ below))))
  obtain ⟨joined, spelled, alike⟩ := answers_ignore_spelling host Interrupt.none state
  obtain ⟨withNormal, withOther⟩ := alike sameTree long short normal
  exact ⟨⟨rooted, relative, joined _ _ rooted relative⟩, ⟨respelled, spelled _ _ _ respelled⟩,
    sameTree, normal, same, withNormal, withOther dotted same⟩

end Host

end TemplateTree
