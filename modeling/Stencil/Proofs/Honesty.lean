import Stencil.Markup.Compiler
import Stencil.Proofs.Super
import Stencil.Render.Step

set_option autoImplicit false

/-
Procedures that start without templates, and use none but those they are given. A handle to a template
comes from a request and from nowhere else, so all procedures are of this kind, and so are compilers;
but a script or a recipe that is taken as a mere tree of requests might name any template. Steps and
instructions do not, and neither does the compiler of markup, nor what it makes.
-/

namespace Stencil

/-- The script compiles and renders no templates but its own and those it is given. -/
def Script.Honest : Script → List Template → Prop
  | .done _, _ => True
  | .look next, own => ∀ view, (next view).Honest own
  | .filter _ _ _ next, own => ∀ result, (next result).Honest own
  | .block _ next, own => ∀ result, (next result).Honest own
  | .super next, own => ∀ result, (next result).Honest own
  | .fetch _ _ next, own => ∀ result, (next result).Honest (own ++ result.toOption.toList)
  | .clear next, own => next.Honest own
  | .compile template next, own => template ∈ own ∧ ∀ result, (next result).Honest own
  | .render template _ next, own => template ∈ own ∧ ∀ result, (next result).Honest own

/-- A body that starts without templates. -/
def Body.Honest : Body → Prop
  | .code _ => True
  | .native script => script.Honest []

/-- A procedure that starts without templates. -/
def Procedure.Honest (procedure : Procedure) : Prop := procedure.body.Honest

def Module.All (P : Procedure → Prop) (m : Module) : Prop := ∀ entry ∈ m.exports, P entry.2

structure Compiled.All (P : Procedure → Prop) (form : Compiled) : Prop where
  root : P form.root
  bodies : ∀ name, ∀ procedure ∈ form.blocks.stack name, P procedure

/-- The recipe compiles and renders no templates but those it is given, and the procedures that it makes
and exports start without templates. -/
def Recipe.Honest : Recipe → List Template → Prop
  | .done result, _ => ∀ m, result = .ok m → m.All Procedure.Honest
  | .make body next, own =>
    body.Honest ∧ ∀ procedure, procedure.Honest → (next procedure).Honest own
  | .fetch _ _ next, own => ∀ result, (next result).Honest (own ++ result.toOption.toList)
  | .look next, own => ∀ view, (next view).Honest own
  | .clear next, own => next.Honest own
  | .compile template next, own => template ∈ own ∧ ∀ result, (next result).Honest own
  | .render template _ next, own => template ∈ own ∧ ∀ result, (next result).Honest own
  | .again _ _ next, own =>
    ∀ result, (∀ m, result = .ok m → m.All Procedure.Honest) → (next result).Honest own

def Compiler.Honest (compiler : Compiler) : Prop := ∀ name text, (compiler.recipe name text).Honest []

def Environment.Honest (environment : Environment) : Prop :=
  ∀ compiler, environment.compiler = some compiler → compiler.Honest

/-- All bodies in the scope are honest. -/
def Scope.Honest (scope : Scope) : Prop :=
  ∀ name, ∀ procedure ∈ scope.context.blocks.stack name, procedure.Honest

/-! ### Procedures that are honest -/

theorem Script.Honest.bind {script : Script} {next : Except Error String → Script}
    {own : List Template} (first : script.Honest own)
    (rest : ∀ result more, own ⊆ more → (next result).Honest more) :
    (script.bind next).Honest own := by
  induction script generalizing own with
  | done result => exact rest result own (List.Subset.refl own)
  | look ask ih => exact fun view => ih view (first view) rest
  | filter name value args ask ih => exact fun result => ih result (first result) rest
  | block name ask ih => exact fun result => ih result (first result) rest
  | super ask ih => exact fun result => ih result (first result) rest
  | fetch name eager ask ih =>
      intro result
      apply ih result (first result)
      intro reply more owned
      exact rest reply more (List.Subset.trans (List.subset_append_left own _) owned)
  | clear ask ih => exact ih first rest
  | compile template ask ih => exact ⟨first.1, fun result => ih result (first.2 result) rest⟩
  | render template data ask ih => exact ⟨first.1, fun result => ih result (first.2 result) rest⟩

theorem Script.Honest.append {first second : Script} {own : List Template}
    (honest : first.Honest own) (also : ∀ more, second.Honest more) :
    (first.append second).Honest own := by
  apply honest.bind
  intro result more _
  cases result with
  | error error => trivial
  | ok before =>
      apply (also more).bind
      intro result last _
      cases result <;> trivial

theorem Action.script_honest (action : Action) (own : List Template) :
    action.script.Honest own := by
  cases action with
  | text => trivial
  | lookup | block | super => exact fun _ => trivial
  | filter => exact fun _ _ => trivial

mutual

theorem Step.script_honest : ∀ (step : Step) (own : List Template), step.script.Honest own
  | .act action, own => action.script_honest own
  | .name, _ | .current, _ | .depth, _ | .bindings, _ | .blocks, _ | .inspect, _ => fun _ => trivial
  | .fail _, _ => trivial
  | .embed template data, own => by
      intro result
      cases result with
      | error error => trivial
      | ok found => exact ⟨List.mem_concat_self, fun _ => trivial⟩
  | .guard steps kind fallback, own => by
      apply (Step.scripts_honest steps own).bind
      intro result more _
      cases result with
      | ok output => trivial
      | error error =>
          change Script.Honest (if _ then _ else _) more
          split <;> trivial

/-- Native procedures that are made of steps are honest. -/
theorem Step.scripts_honest : ∀ (steps : List Step) (own : List Template),
    (Step.scripts steps).Honest own
  | [], _ => trivial
  | step :: rest, own => (Step.script_honest step own).append (Step.scripts_honest rest)

end

/-- What becomes a procedure that starts without templates. -/
def Recipe.Draft.Honest : Draft → Prop
  | .fresh body => body.Honest
  | .shared procedure => procedure.Honest

theorem Recipe.exports_honest {drafts : List (String × Draft)}
    (honest : ∀ entry ∈ drafts, entry.2.Honest) {next : List (String × Procedure) → Recipe}
    {own : List Template}
    (rest : ∀ made, (∀ entry ∈ made, entry.2.Honest) → (next made).Honest own) :
    (exports next drafts).Honest own := by
  induction drafts generalizing next with
  | nil => exact rest [] fun _ impossible => absurd impossible List.not_mem_nil
  | cons entry drafts ih =>
      obtain ⟨first, others⟩ := List.forall_mem_cons.1 honest
      have behind : ∀ procedure : Procedure, procedure.Honest → (exports (fun made =>
          next ((entry.1, procedure) :: made)) drafts).Honest own := by
        intro procedure given
        apply ih others
        intro made all
        exact rest _ (List.forall_mem_cons.2 ⟨given, all⟩)
      obtain ⟨name, draft⟩ := entry
      cases draft with
      | fresh body => exact ⟨first, behind⟩
      | shared procedure => exact behind procedure first

theorem Recipe.build_honest {drafts : List (String × Draft)}
    (honest : ∀ entry ∈ drafts, entry.2.Honest) (own : List Template) :
    (build drafts).Honest own := by
  apply exports_honest honest
  intro made all m same
  cases same
  exact all

/-- The compiler of markup texts is honest: it makes instructions only. -/
theorem Markup.compiler_honest : Markup.compiler.Honest := by
  intro name text
  change (Markup.recipe text).Honest []
  unfold Markup.recipe
  cases Markup.Document.parse text with
  | error mistake =>
      intro m impossible
      cases impossible
  | ok doc =>
      apply Recipe.exports_honest
      · intro entry member
        obtain ⟨block, -, rfl⟩ := List.mem_map.1 member
        trivial
      · intro bodies all
        unfold Markup.Document.finish
        cases doc.parent with
        | none =>
            refine ⟨trivial, ?_⟩
            intro root given m same
            cases same
            exact List.forall_mem_append.2 ⟨all, List.forall_mem_singleton.2 given⟩
        | some parent =>
            intro result
            cases result with
            | error error =>
                intro m impossible
                cases impossible
            | ok template =>
                intro answer exported
                cases answer with
                | error error =>
                    intro m impossible
                    cases impossible
                | ok inherited =>
                    intro m same
                    cases same
                    exact List.forall_mem_append.2 ⟨all, exported inherited rfl⟩

/-- Where the root of exports comes from. -/
theorem Module.readRoot_mem {exports : List (String × Procedure)} {root : Option Procedure}
    {procedure : Procedure} (read : exports.foldlM readRoot root = .ok (some procedure)) :
    root = some procedure ∨ ∃ entry ∈ exports, entry.2 = procedure := by
  induction exports generalizing root with
  | nil => exact Or.inl (Except.ok.inj read)
  | cons entry rest ih =>
      rw [List.foldlM_cons] at read
      cases first : readRoot root entry with
      | error error =>
          rw [first] at read
          cases read
      | ok next =>
          rw [first] at read
          rcases ih read with same | ⟨other, member, same⟩
          · unfold readRoot at first
            split at first
            · split at first
              · cases first
              · cases first
                exact Or.inr ⟨entry, List.mem_cons_self, Option.some.inj same⟩
            · split at first
              · cases first
              · cases first
                exact Or.inl same
            · cases first
              exact Or.inl same
          · exact Or.inr ⟨other, List.mem_cons_of_mem entry member, same⟩

/-- The procedures of a form are exported by its module. -/
theorem Module.All.compiled {P : Procedure → Prop} {m : Module} (all : m.All P) {form : Compiled}
    (sorted : m.compiled = .ok form) : form.All P := by
  unfold Module.compiled at sorted
  cases read : m.exports.foldlM readRoot none with
  | error error =>
      rw [read] at sorted
      cases sorted
  | ok root =>
      rw [read] at sorted
      cases root with
      | none => cases sorted
      | some root =>
          cases sorted
          constructor
          · rcases readRoot_mem read with impossible | ⟨entry, member, rfl⟩
            · cases impossible
            · exact all entry member
          · intro name procedure member
            unfold Blocks.stack at member
            rw [Blocks.stack_ofBodies] at member
            obtain ⟨body, filtered, rfl⟩ := List.mem_map.1 member
            obtain ⟨entry, exported, named⟩ := List.mem_filterMap.1 (List.mem_filter.1 filtered).1
            split at named
            · cases named
              exact all entry exported
            · cases named

end Stencil
