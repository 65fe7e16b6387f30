import Stencil.Proofs.Inheritance

set_option autoImplicit false

namespace Stencil

/-- What may go wrong while a form of sound documents is rendered, after the calls that were made:
a filter is unknown, or it failed and its call is the latest, or `super` has nowhere to go. -/
inductive Setting.RenderFault (setting : Setting) : List Event → Error → Prop
  | unknownFilter {name : String} (unknown : setting.environment.filters.get? name = none)
      (events : List Event) : RenderFault setting events (.unknownFilter name)
  | filter {name : String} {filter : Filter} {value : Value} {args : List Value} {error : Error}
      (known : setting.environment.filters.get? name = some filter)
      (failed : filter.apply value args = .error error) (events : List Event) :
      RenderFault setting (.filter name value args :: events) error
  | noSuperBlock (name : String) (events : List Event) :
      RenderFault setting events (.noSuperBlock name)
  | superOutsideBlock (events : List Event) : RenderFault setting events .superOutsideBlock

def Setting.renderFaults (setting : Setting) : Run.Faults where
  allowed := setting.RenderFault
  older := by
    intro events error earlier fault
    cases fault with
    | unknownFilter unknown => exact .unknownFilter unknown _
    | filter known failed => exact .filter known failed _
    | noSuperBlock name => exact .noSuperBlock name _
    | superOutsideBlock => exact .superOutsideBlock _

theorem Setting.allowsFilters_renderFaults (setting : Setting) :
    setting.AllowsFilters setting.renderFaults where
  unknown := fun _ unknown => .unknownFilter unknown []
  failed := fun _ _ _ _ _ known failed => .filter known failed []

/-- A form whose blocks all have bodies, made of instructions that find enough values. -/
structure Compiled.Sound (form : Compiled) : Prop where
  root : ∃ code : Code, form.root.body = .code code ∧ code.Balanced ∧
    ∀ name, .block name ∈ code → form.blocks.stack name ≠ []
  bodies : ∀ name, ∀ procedure ∈ form.blocks.stack name, ∃ code : Code,
    procedure.body = .code code ∧ code.Balanced ∧ ∀ other, .block other ∉ code

namespace Markup

theorem mem_bodiesOf {docs : List Document} {block : String} {code : Code} :
    code ∈ bodiesOf docs block ↔ ∃ doc ∈ docs, (block, code) ∈ doc.blocks := by
  simp only [bodiesOf, Document.bodiesOf, List.mem_flatMap, List.mem_map, List.mem_filter,
    decide_eq_true_eq, Prod.exists]
  constructor
  · rintro ⟨doc, member, name, body, ⟨written, rfl⟩, rfl⟩
    exact ⟨doc, member, written⟩
  · rintro ⟨doc, member, written⟩
    exact ⟨doc, member, block, code, ⟨written, rfl⟩, rfl⟩

theorem Flattens.sound {form : Compiled} {docs : List Document} (flattens : Flattens form docs)
    (sound : ∀ doc ∈ docs, doc.Sound) : form.Sound := by
  constructor
  · obtain ⟨last, same, interpreted⟩ := flattens.root
    have member := List.mem_of_getLast? same
    refine ⟨last.root, interpreted, (sound last member).root, ?_⟩
    intro name called empty
    obtain ⟨⟨block, body⟩, written, rfl⟩ := List.mem_map.1 ((sound last member).called name called)
    have stacked := flattens.stacked block
    rw [empty, List.map_nil, eq_comm, List.map_eq_nil_iff] at stacked
    have found : body ∈ bodiesOf docs block := mem_bodiesOf.2 ⟨last, member, written⟩
    rw [stacked] at found
    cases found
  · intro name procedure member
    have listed := List.mem_map_of_mem (f := (·.body)) member
    rw [flattens.stacked name] at listed
    obtain ⟨code, written, interpreted⟩ := List.mem_map.1 listed
    obtain ⟨doc, inChain, written⟩ := mem_bodiesOf.1 written
    have body := (sound doc inChain).bodies _ written
    exact ⟨code, interpreted.symm, body.balanced, body.flat⟩

/-- Whatever the compiler accepts is a chain of sound documents. -/
theorem flattened_of_compile {setting : Setting} {level : Nat} {name text : String}
    {state after : State} {m : Module}
    (accepted : (setting.calls level).compile compiler name text state = some (.ok m, after)) :
    ∃ docs, Flattened docs m ∧ ∀ doc ∈ docs, doc.Sound := by
  induction level generalizing name text state after m with
  | zero => cases accepted
  | succ level ih =>
      change (recipe text).run setting (setting.calls level) compiler state = _ at accepted
      cases parsed : Document.parse text with
      | error mistake =>
          unfold recipe at accepted
          rw [parsed] at accepted
          cases accepted
      | ok doc =>
          have sound := Document.parse_sound parsed
          obtain ⟨made, middle, written, -, same⟩ :=
            recipe_run setting (setting.calls level) parsed state
          rw [same] at accepted
          cases parent : doc.parent with
          | none =>
              obtain ⟨root, last, interpreted, -, finished⟩ :=
                finish_run_root setting (setting.calls level) parent made middle
              rw [finished] at accepted
              cases accepted
              refine ⟨[doc], .root written interpreted, ?_⟩
              intro other member
              rw [List.mem_singleton.1 member]
              exact sound
          | some parent =>
              rw [finish_run_child setting (setting.calls level) parent made middle] at accepted
              split at accepted
              · cases accepted
              · cases accepted
              · split at accepted
                · cases accepted
                · cases accepted
                · rename_i inherited final answered
                  cases accepted
                  obtain ⟨docs, flattened, others⟩ := ih answered
                  refine ⟨doc :: docs, .child written flattened, ?_⟩
                  intro other member
                  rcases List.mem_cons.1 member with rfl | later
                  · exact sound
                  · exact others other later

end Markup

section Rendering

variable {form : Compiled} (sound : form.Sound) {context : Context}
variable (same : context.blocks = form.blocks) (setting : Setting)

include sound same

/-- The induction is on the number of bodies that stand at the depth or behind it, which `super`
makes smaller. -/
theorem Compiled.Sound.body_settles (name : String) (left depth level : Nat)
    {procedure : Procedure} (stands : (form.blocks.stack name)[depth]? = some procedure)
    (few : (form.blocks.stack name).length ≤ depth + left) (enough : left ≤ level) :
    ((setting.calls level).invoke procedure (.inside context ⟨name, depth, procedure⟩)).Settles
      setting.renderFaults fun _ => True := by
  induction left generalizing depth level procedure with
  | zero =>
      have inside := (List.getElem?_eq_some_iff.1 stands).1
      omega
  | succ left ih =>
      obtain ⟨below, rfl⟩ : ∃ below, level = below + 1 := ⟨level - 1, by omega⟩
      obtain ⟨code, interpreted, balanced, flat⟩ :=
        sound.bodies name procedure (List.mem_of_getElem? stands)
      change (procedure.run setting (setting.calls below) _).Settles _ _
      simp only [Procedure.run, interpreted]
      apply balanced.run_settles setting.allowsFilters_renderFaults
      · intro other called
        exact absurd called (flat other)
      · intro _
        have found : context.super ⟨name, depth, procedure⟩ = _ :=
          Context.super_eq (by rw [same]; exact stands)
        change Run.Settles _ _ (Run.ofExcept (context.super ⟨name, depth, procedure⟩) >>= _)
        rw [found, same]
        cases behind : (form.blocks.stack name)[depth + 1]? with
        | none => exact Run.settles_fail (.noSuperBlock name [])
        | some other => exact ih (depth + 1) below behind (by omega) (by omega)

theorem Compiled.Sound.root_settles :
    ∃ depth, ∀ level, depth ≤ level →
      ((setting.calls level).invoke form.root (.outside context)).Settles setting.renderFaults
        fun _ => True := by
  obtain ⟨code, interpreted, balanced, defined⟩ := sound.root
  obtain ⟨bound, below⟩ := form.blocks.bounded
  refine ⟨bound + 1, ?_⟩
  intro level enough
  obtain ⟨lower, rfl⟩ : ∃ lower, level = lower + 1 := ⟨level - 1, by omega⟩
  change (form.root.run setting (setting.calls lower) _).Settles _ _
  simp only [Procedure.run, interpreted]
  apply balanced.run_settles setting.allowsFilters_renderFaults
  · intro name called
    change Run.Settles _ _ (Run.ofExcept (context.block name) >>= _)
    rw [Context.block_eq, same]
    cases known : form.blocks.stack name with
    | nil => exact absurd known (defined name called)
    | cons procedure rest =>
        have few := below name
        have stands : (form.blocks.stack name)[0]? = some procedure := by rw [known]; rfl
        exact sound.body_settles same setting name bound 0 lower stands (by omega) (by omega)
  · intro _
    exact Run.settles_fail (.superOutsideBlock [])

end Rendering

/-- Rendering a form of sound documents with a map or with null ends, within some depth. -/
theorem Compiled.Sound.render_ends {form : Compiled} (sound : form.Sound) (setting : Setting)
    (name : String) {value : Value} {bindings : Dict Value}
    (converted : value.toVariables = .ok bindings) (state : State) :
    ∃ depth, ∀ level, depth ≤ level → ∃ result final events,
      form.render (setting.calls level) name value state = some (result, final) ∧
      final.record = events ++ state.record ∧
      ∀ error, result = .error error →
        ∃ reason, error = reason.inTemplate name ∧ setting.RenderFault events reason := by
  have same : Context.blocks ⟨some name, bindings, form.blocks⟩ = form.blocks := rfl
  obtain ⟨depth, settles⟩ := sound.root_settles same setting
  refine ⟨depth, ?_⟩
  intro level enough
  obtain ⟨result, final, events, ended, grown, right⟩ := settles level enough state
  refine ⟨result.mapError (·.inTemplate name), final, events, ?_, grown, ?_⟩
  · unfold Compiled.render Run.blame
    rw [converted]
    exact congrArg (Option.map _) ended
  · intro error blamed
    cases result with
    | ok output => cases blamed
    | error reason =>
        cases blamed
        exact ⟨reason, rfl, right⟩

namespace Markup

/-- Nothing goes wrong with what the compiler accepts. Its module can be sorted, and a template with
that form renders to an output, or fails because a filter is unknown or failed itself, or because
`super` has nowhere to go. -/
theorem accepted_renders {setting : Setting} {level : Nat} {name text : String}
    {state after : State} {m : Module}
    (accepted : (setting.calls level).compile compiler name text state = some (.ok m, after)) :
    ∃ form, m.compiled = .ok form ∧
      ∀ (renderer : Setting) (template : Template) (before middle : State) (value : Value)
        (shallow : Nat),
        (value = .null ∨ ∃ fields, value = .object fields) →
        renderer.compiledForm (renderer.calls shallow) template before = some (.ok form, middle) →
        ∃ depth, ∀ deeper, depth ≤ deeper → ∃ result final events,
          renderer.render (renderer.calls deeper) template (.ok value) before =
            some (result, final) ∧
          final.record = events ++ middle.record ∧
          ∀ error, result = .error error →
            ∃ reason, error = reason.inTemplate template.name ∧
              renderer.RenderFault events reason := by
  obtain ⟨docs, flattened, sound⟩ := flattened_of_compile accepted
  obtain ⟨form, compiled, flattens⟩ := flattened.compiled sound
  refine ⟨form, compiled, ?_⟩
  intro renderer template before middle value shallow data found
  obtain ⟨bindings, converted⟩ : ∃ bindings, value.toVariables = .ok bindings := by
    rcases data with rfl | ⟨fields, rfl⟩
    · exact ⟨∅, rfl⟩
    · exact ⟨fields, rfl⟩
  obtain ⟨depth, ends⟩ :=
    (flattens.sound sound).render_ends renderer template.name converted middle
  refine ⟨max depth shallow, ?_⟩
  intro deeper enough
  have related := renderer.calls_below (show shallow ≤ deeper by omega)
  have alsoFound := Setting.compiledForm_related Run.below_lifts related renderer template before _
    found
  obtain ⟨result, final, events, rendered, grown, right⟩ := ends deeper (by omega)
  refine ⟨result, final, events, ?_, grown, right⟩
  rw [Setting.render_eq, alsoFound]
  exact rendered

/-- The derived page is accepted, and rendering it with null ends. -/
theorem accepted_renders_derivedPage :
    ∃ m after form, (shelf.calls 2).compile compiler "page" derivedPage .initial =
        some (.ok m, after) ∧ m.compiled = .ok form ∧
      let template : Template := ⟨0, "page", .ofText derivedPage⟩
      let before := State.initial.keepCompiled 0 form
      shelf.compiledForm (shelf.calls 0) template before = some (.ok form, before) ∧
      ∃ depth, ∀ deeper, depth ≤ deeper → ∃ result final events,
        shelf.render (shelf.calls deeper) template (.ok .null) before = some (result, final) ∧
        final.record = events ++ before.record ∧
        ∀ error, result = .error error →
          ∃ reason, error = reason.inTemplate "page" ∧ shelf.RenderFault events reason := by
  obtain ⟨m, after, accepted, -⟩ :=
    lineage_derivedPage.compile (Nat.le_refl 2) "page" ⟨⟨_, _, rfl⟩, rfl⟩
  obtain ⟨form, compiled, renders⟩ := accepted_renders accepted
  let template : Template := ⟨0, "page", .ofText derivedPage⟩
  let before := State.initial.keepCompiled 0 form
  have kept : before.compiledForm? template.id = some form := rfl
  have found := Setting.compiledForm_of_some kept shelf (shelf.calls 0)
  exact ⟨m, after, form, accepted, compiled, found,
    renders shelf template before before .null 0 (Or.inl rfl) found⟩

end Markup

end Stencil
