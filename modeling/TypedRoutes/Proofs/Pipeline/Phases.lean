import TypedRoutes.Proofs.Pipeline.Hooks
import TypedRoutes.Proofs.Route.Completion

/-!
Runs of any phases, in any order and as often as one likes. Each phase says once what it makes of a
context; from that follows what every run keeps, when it fails, and which of the phases decides on
the documents and on the transformer that are left.
-/

set_option autoImplicit false
set_option relaxedAutoImplicit false

namespace TypedRoutes

open Declaration (Tree)
open OpenApi (Schema)
open Route (Inputs)

namespace Route

private theorem Plugin.preProcess_preProcess (schemas : List Schema) :
    (preProcess (preProcess schemas).value).value = (preProcess schemas).value := by
  simp only [preProcess, completeSchemas_eq, List.map_map]
  refine List.map_congr_left fun schema _ => ?_
  simp only [Function.comp_apply, completeDocument_completeDocument]

end Route

namespace Pipeline

/-- What a phase makes of a context. Only the last phase needs something: a tree. -/
inductive Advances (context : Context) : Phase → Context → Prop
  | completed : Advances context .preProcess { context with
      schemas := (Route.Plugin.preProcess context.schemas).value
      diagnostics := context.diagnostics ++ (Route.Plugin.preProcess context.schemas).log }
  | decided : Advances context .metadata { context with
      transformer :=
        (Route.Plugin.postProcess context.option (Inputs.ofSchemas context.schemas)).value
      diagnostics := context.diagnostics ++
        (Route.Plugin.postProcess context.option (Inputs.ofSchemas context.schemas)).log }
  | extended {tree : Tree} : context.tree = some tree → Advances context .append { context with
      tree := some (Route.Plugin.extend context.transformer tree).value
      diagnostics := context.diagnostics ++ (Route.Plugin.extend context.transformer tree).log }

private theorem Phase.run_eq_ok_iff {context next : Context} {phase : Phase} :
    phase.run context = .ok next ↔ Advances context phase next := by
  constructor
  · intro ran
    cases phase with
    | preProcess =>
      cases ran
      exact .completed
    | metadata =>
      cases ran
      exact .decided
    | append =>
      cases attached : context.tree with
      | none => simp [Phase.run, attached] at ran
      | some tree =>
        rw [Phase.run_append attached] at ran
        cases ran
        exact .extended attached
  · intro advances
    cases advances with
    | completed => rfl
    | decided => rfl
    | extended attached => exact Phase.run_append attached

private theorem Phase.run_eq_error_iff {context : Context} {phase : Phase} {cause : Failure} :
    phase.run context = .error cause ↔ phase = .append ∧ context.tree = none := by
  cases phase with
  | preProcess => simp [Phase.run]
  | metadata => simp [Phase.run]
  | append =>
    cases attached : context.tree with
    | none => cases cause; simp [Phase.run, attached]
    | some tree => simp [Phase.run_append attached]

/-- What no phase and no run takes from a context. -/
structure Keeps (before after : Context) : Prop where
  findings : before.diagnostics <+: after.diagnostics
  option : after.option = before.option
  tree : after.tree.isSome = before.tree.isSome

theorem Keeps.refl (context : Context) : Keeps context context :=
  ⟨List.prefix_rfl, rfl, rfl⟩

theorem Keeps.trans {first second third : Context} (earlier : Keeps first second)
    (later : Keeps second third) : Keeps first third where
  findings := earlier.findings.trans later.findings
  option := later.option.trans earlier.option
  tree := later.tree.trans earlier.tree

namespace Advances

variable {context next : Context} {phase : Phase}

theorem keeps (advances : Advances context phase next) : Keeps context next := by
  cases advances with
  | completed => exact ⟨List.prefix_append .., rfl, rfl⟩
  | decided => exact ⟨List.prefix_append .., rfl, rfl⟩
  | extended attached => exact ⟨List.prefix_append .., rfl, by rw [attached]; rfl⟩

private theorem schemas_eq (advances : Advances context phase next) :
    next.schemas = if phase = .preProcess then (Route.Plugin.preProcess context.schemas).value
      else context.schemas := by
  cases advances <;> rfl

private theorem transformer_eq (advances : Advances context phase next) :
    next.transformer = if phase = .metadata
      then (Route.Plugin.postProcess context.option (Inputs.ofSchemas context.schemas)).value
      else context.transformer := by
  cases advances <;> rfl

private theorem tree_eq (advances : Advances context .append next)
    (off : context.transformer = none) :
    next.tree = context.tree := by
  cases advances with
  | extended attached =>
    rw [attached, off]
    rfl

end Advances

private theorem run_cons_eq_ok_iff {context result : Context} {phase : Phase}
    {phases : List Phase} :
    run context (phase :: phases) = .ok result ↔
      ∃ next, Advances context phase next ∧ run next phases = .ok result := by
  rw [run]
  constructor
  · intro ran
    split at ran
    case h_1 next first => exact ⟨next, Phase.run_eq_ok_iff.mp first, ran⟩
    case h_2 => cases ran
  · rintro ⟨next, advances, ran⟩
    rw [Phase.run_eq_ok_iff.mpr advances]
    exact ran

private theorem run_append_eq_ok_iff {context result : Context} {first second : List Phase} :
    run context (first ++ second) = .ok result ↔
      ∃ middle, run context first = .ok middle ∧ run middle second = .ok result := by
  induction first generalizing context with
  | nil => simp [run]
  | cons phase rest ih =>
    rw [List.cons_append, run_cons_eq_ok_iff]
    simp only [ih, run_cons_eq_ok_iff]
    constructor
    · rintro ⟨next, advances, middle, earlier, later⟩
      exact ⟨middle, ⟨next, advances, earlier⟩, later⟩
    · rintro ⟨middle, ⟨next, advances, earlier⟩, later⟩
      exact ⟨next, advances, middle, earlier, later⟩

private theorem keeps_of_run {context result : Context} {phases : List Phase}
    (ran : run context phases = .ok result) : Keeps context result := by
  induction phases generalizing context with
  | nil =>
    cases ran
    exact Keeps.refl _
  | cons phase rest ih =>
    obtain ⟨next, advances, later⟩ := run_cons_eq_ok_iff.mp ran
    exact advances.keeps.trans (ih later)

private theorem run_eq_error_iff {context : Context} {phases : List Phase} {error : Error} :
    run context phases = .error error ↔
      error = ⟨.append, .noTree⟩ ∧ .append ∈ phases ∧ context.tree = none := by
  induction phases generalizing context with
  | nil => simp [run]
  | cons phase rest ih =>
    rw [run]
    cases first : phase.run context with
    | ok next =>
      have advances := Phase.run_eq_ok_iff.mp first
      have kept : next.tree = none ↔ context.tree = none := by
        rw [← Option.isNone_iff_eq_none, ← Option.isNone_iff_eq_none, ← Option.not_isSome,
          ← Option.not_isSome, advances.keeps.tree]
      have other : context.tree = none → .append ≠ phase := by
        rintro absent rfl
        have fails : Phase.append.run context = .error .noTree :=
          Phase.run_eq_error_iff.mpr ⟨rfl, absent⟩
        rw [fails] at first
        cases first
      simp only [ih, kept, List.mem_cons]
      constructor
      · rintro ⟨rfl, later, absent⟩
        exact ⟨rfl, .inr later, absent⟩
      · rintro ⟨rfl, here | later, absent⟩
        · exact absurd here (other absent)
        · exact ⟨rfl, later, absent⟩
    | error cause =>
      obtain ⟨rfl, absent⟩ := Phase.run_eq_error_iff.mp first
      cases cause
      simp [absent, eq_comm]

/-- The documents are completed once, however often the first phase runs. -/
private theorem schemas_of_run {context result : Context} {phases : List Phase}
    (ran : run context phases = .ok result) :
    result.schemas = if .preProcess ∈ phases then (Route.Plugin.preProcess context.schemas).value
      else context.schemas := by
  induction phases generalizing context with
  | nil =>
    cases ran
    rfl
  | cons phase rest ih =>
    obtain ⟨next, advances, later⟩ := run_cons_eq_ok_iff.mp ran
    rw [ih later, advances.schemas_eq]
    by_cases here : phase = .preProcess
    · simp [here, Route.Plugin.preProcess_preProcess]
    · simp [here, Ne.symm here]

private theorem transformer_of_run {context result : Context} {phases : List Phase}
    (ran : run context phases = .ok result) (absent : .metadata ∉ phases) :
    result.transformer = context.transformer := by
  induction phases generalizing context with
  | nil =>
    cases ran
    rfl
  | cons phase rest ih =>
    obtain ⟨next, advances, later⟩ := run_cons_eq_ok_iff.mp ran
    rw [List.mem_cons, not_or] at absent
    rw [ih later absent.2, advances.transformer_eq, if_neg (Ne.symm absent.1)]

/--
A run of any phases fails exactly if the last phase is among them and there is no tree. Otherwise
it keeps the findings, the option and whether there is a tree; its documents are completed once if
the first phase is among the phases, and not at all if it is not; its transformer is that of the
last time the second phase ran, made from the documents of that moment, or the one that was there if
it never did. As long as there is no transformer, the last phase leaves the tree as it is.
-/
theorem run_of_any_phases (context : Context) (phases : List Phase) :
    (.append ∈ phases ∧ context.tree = none → ∃ error, run context phases = .error error ∧
      error.chain = ["rewrite phase failed", "no declaration tree to rewrite"]) ∧
    (¬ (.append ∈ phases ∧ context.tree = none) → ∃ result, run context phases = .ok result ∧
      context.diagnostics <+: result.diagnostics ∧
      result.option = context.option ∧
      (result.tree.isSome ↔ context.tree.isSome) ∧
      (.preProcess ∉ phases → result.schemas = context.schemas) ∧
      (.preProcess ∈ phases → result.schemas = (Route.Plugin.preProcess context.schemas).value) ∧
      (.metadata ∉ phases → result.transformer = context.transformer) ∧
      (∀ before after, phases = before ++ .metadata :: after → .metadata ∉ after →
        ∃ middle, run context before = .ok middle ∧ result.transformer =
          (Route.Plugin.postProcess context.option (Inputs.ofSchemas middle.schemas)).value) ∧
      ∀ before after, phases = before ++ .append :: after →
        ∃ middle next, run context before = .ok middle ∧ Phase.append.run middle = .ok next ∧
          run next after = .ok result ∧ (middle.transformer = none → next.tree = middle.tree)) := by
  constructor
  · intro fails
    exact ⟨⟨.append, .noTree⟩, run_eq_error_iff.mpr ⟨rfl, fails⟩, rfl⟩
  · intro succeeds
    cases ran : run context phases with
    | error error => exact absurd (run_eq_error_iff.mp ran).2 succeeds
    | ok result =>
      have kept := keeps_of_run ran
      have documents := schemas_of_run ran
      refine ⟨result, rfl, kept.findings, kept.option, by rw [kept.tree], ?_, ?_,
        transformer_of_run ran, ?_, ?_⟩
      · intro never
        rw [documents, if_neg never]
      · intro once
        rw [documents, if_pos once]
      · rintro before after rfl last
        obtain ⟨middle, earlier, later⟩ := run_append_eq_ok_iff.mp ran
        obtain ⟨next, advances, rest⟩ := run_cons_eq_ok_iff.mp later
        refine ⟨middle, earlier, ?_⟩
        rw [transformer_of_run rest last, advances.transformer_eq, if_pos rfl,
          (keeps_of_run earlier).option]
      · rintro before after rfl
        obtain ⟨middle, earlier, later⟩ := run_append_eq_ok_iff.mp ran
        obtain ⟨next, advances, rest⟩ := run_cons_eq_ok_iff.mp later
        exact ⟨middle, next, earlier, Phase.run_eq_ok_iff.mpr advances, rest, advances.tree_eq⟩

/-- A document whose operation has no id, and a tree with a path of the id that it will get. -/
def unfinishedContext : Context where
  option := some (.toggle true)
  schemas := [⟨"pets.json", ⟨.empty, .ofList [("/pets", ⟨[.operation .get {}]⟩)]⟩⟩]
  tree := some ⟨[.namespaceDecl { name := "Paths", body := some [.namespaceDecl
    { name := "GetPets", body := some [.interfaceDecl { name := "Responses" }] }] }]⟩

/-- The last phase before there is a transformer, the second one before the documents are
completed, and the first one twice. -/
def unusualPhases : List Phase := [.append, .metadata, .preProcess, .append, .preProcess]

theorem run_of_any_phases_pets :
    (∃ result, run unfinishedContext unusualPhases = .ok result ∧
      result.schemas = (Route.Plugin.preProcess unfinishedContext.schemas).value ∧
      result.transformer = (Route.Plugin.postProcess unfinishedContext.option
        (Inputs.ofSchemas unfinishedContext.schemas)).value ∧
      ∃ next, Phase.append.run unfinishedContext = .ok next ∧
        next.tree = unfinishedContext.tree) ∧
    ∃ error, run { unfinishedContext with tree := none } unusualPhases = .error error ∧
      error.chain = ["rewrite phase failed", "no declaration tree to rewrite"] := by
  obtain ⟨result, ran, -, -, -, -, completed, -, transformer, trees⟩ :=
    (run_of_any_phases unfinishedContext unusualPhases).2 (by decide)
  obtain ⟨start, next, none, appended, -, same⟩ := trees [] _ rfl
  cases none
  obtain ⟨middle, earlier, decided⟩ := transformer [.append] _ rfl (by decide)
  have documents : middle.schemas = unfinishedContext.schemas := by
    rw [schemas_of_run earlier]
    rfl
  rw [documents] at decided
  refine ⟨⟨result, ran, completed (by decide), decided, next, appended, same rfl⟩, ?_⟩
  exact (run_of_any_phases { unfinishedContext with tree := none } unusualPhases).1 ⟨by decide, rfl⟩

end Pipeline

end TypedRoutes
