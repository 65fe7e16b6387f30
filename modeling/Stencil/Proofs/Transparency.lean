import Stencil.Proofs.Sessions

set_option autoImplicit false

namespace Stencil

/-- Rendering the template ends with the result, within some depth. -/
def Engine.RendersTo (engine : Engine) (template : Template) (data : Data)
    (result : Except Error String) : Prop :=
  ∃ limit after, engine.render limit template data = some (result, after)

theorem Engine.rendersTo_iff (engine : Engine) (template : Template) (data : Data)
    (result : Except Error String) :
    engine.RendersTo template data result ↔
      engine.setting.RendersTo engine.state template data result := by
  constructor
  · rintro ⟨limit, after, rendered⟩
    exact ⟨limit, after.state, (Engine.perform_eq rendered).1⟩
  · rintro ⟨level, after, rendered⟩
    exact ⟨level, { engine with state := after }, Engine.perform_of rendered⟩

/-- What a lookup gives renders like a new template of the same name and text. -/
theorem Engine.rendersTo_ofText {engine : Engine} {compiler : Compiler}
    (function : compiler.IsFunction) (known : engine.environment.compiler = some compiler)
    {handles : List Template} (knows : engine.state.KnowsForms compiler handles)
    {template : Template} (member : template ∈ handles) (data : Data)
    (result : Except Error String) :
    let issued := engine.ofText template.name template.source.text
    engine.RendersTo template data result ↔ issued.2.RendersTo issued.1 data result := by
  intro issued
  have alsoKnows := knows.newTemplate template.name (.ofText template.source.text)
  have alsoMember : issued.1 ∈ handles ++ [issued.1] := List.mem_concat_self
  have name : issued.1.name = template.name := rfl
  have text : issued.1.source.text = template.source.text := rfl
  rw [Engine.rendersTo_iff, Engine.rendersTo_iff]
  constructor
  · exact Setting.render_same function known name text knows member alsoKnows alsoMember
  · exact Setting.render_same function known name.symm text.symm alsoKnows alsoMember knows member

/-- Keeping templates cannot be noticed. After any operations, a lookup that compiles nothing ends;
it fails only if no listed store has the name, and otherwise gives a template with a text that one
of them has, which renders to what a new template of this text renders to. -/
theorem lookups_transparent {compiler : Compiler} (function : compiler.IsFunction)
    (stores : Nat) (listed : List Nat) (filters : Filters) (policy : Policy) {limit : Nat}
    {operations : List Operation} {session : Session}
    (room : ∀ store, operations.countP (·.addsTo store) < 2 ^ 64)
    (ran : (Session.start stores listed compiler filters policy).run limit operations =
      some session) (depth : Nat) (name : String) :
    ∃ result engine, session.engine.fetch depth name false = some (result, engine) ∧
      (result = .error (.templateNotFound name) ↔
        ∀ text, ¬ session.engine.sources.Hold listed name text) ∧
      (∀ error, result = .error error → error = .templateNotFound name) ∧
      ∀ template, result = .ok template →
        template.name = name ∧ session.engine.sources.Hold listed name template.source.text ∧
        ∀ data outcome,
          let issued := engine.ofText name template.source.text
          engine.RendersTo template data outcome ↔ issued.2.RendersTo issued.1 data outcome := by
  have started := Session.coherent_start stores listed compiler filters policy
  have enough : ∀ store, 0 + operations.countP (·.addsTo store) < 2 ^ 64 := by
    intro store
    rw [Nat.zero_add]
    exact room store
  obtain ⟨additions, coherent⟩ := started.run function enough ran
  have loaders : session.engine.setting.environment.loaders = listed.map .memory :=
    coherent.loaders
  obtain ⟨result, state, ended, lookup⟩ := Setting.fetch_lazy loaders
    (session.engine.setting.calls depth) name session.engine.state
  let engine : Engine := { session.engine with state := state }
  have fetched : session.engine.fetch depth name false = some (result, engine) :=
    Engine.perform_of ended
  have known : engine.environment.compiler = some compiler := coherent.known
  obtain ⟨-, serves⟩ := coherent.fetch function fetched
  refine ⟨result, engine, fetched, ?_⟩
  rcases lookup with ⟨template, rfl⟩ | ⟨missing, rfl⟩
  · obtain ⟨named, held, still⟩ := serves
    refine ⟨?_, ?_, ?_⟩
    · constructor
      · intro impossible
        cases impossible
      · intro missing
        exact absurd held (missing _)
    · intro error impossible
      cases impossible
    · intro other same
      cases same
      refine ⟨named, held, ?_⟩
      intro data outcome
      subst named
      exact Engine.rendersTo_ofText function known still.knows List.mem_concat_self
        data outcome
  · refine ⟨⟨fun _ => missing, fun _ => rfl⟩, ?_, ?_⟩
    · intro error same
      cases same
      rfl
    · intro template impossible
      cases impossible

/-- The compiler that puts out the text and then the variable `x`. -/
def Compiler.echo : Compiler :=
  ⟨fun _ text => .make (.code [.text text, .lookup "x", .emit]) fun root =>
    .done (.ok ⟨[(Module.rootName, root)]⟩)⟩

theorem Compiler.isFunction_echo : Compiler.echo.IsFunction := by
  intro name text
  apply Recipe.Alike.make
  intro procedure body interpreted alsoInterpreted
  exact .done (.cons ⟨rfl, _, interpreted, alsoInterpreted⟩ .nil)

/-- A template is looked up and rendered, removed, looked up in vain and added again with another
text: the next lookup finds this text, and renders like it. -/
theorem lookups_transparent_readded :
    let operations : List Operation := [.add 1 "page" "old", .fetch "page" true,
      .render 0 (.ok .null), .remove 1 "page", .fetch "page" false, .add 0 "page" "new",
      .addFilter "upper" Filter.upper, .setPolicy .assumeFresh]
    Compiler.echo.IsFunction ∧ (∀ store, operations.countP (·.addsTo store) < 2 ^ 64) ∧
    ∃ session, (Session.start 2 [1, 0] .echo ∅ .assumeStale).run 3 operations = some session ∧
      ∃ template engine, session.engine.fetch 3 "page" false = some (.ok template, engine) ∧
        template.source.text = "new" ∧
        ∀ data outcome,
          let issued := engine.ofText "page" "new"
          engine.RendersTo template data outcome ↔ issued.2.RendersTo issued.1 data outcome := by
  intro operations
  have room : ∀ store, operations.countP (·.addsTo store) < 2 ^ 64 := by
    intro store
    exact Nat.lt_of_le_of_lt List.countP_le_length (by decide)
  let template : Template := ⟨1, "page", "new", none, some (.revision 0 "page" 1)⟩
  obtain ⟨session, ran, after, expected⟩ :
      ∃ session, (Session.start 2 [1, 0] .echo ∅ .assumeStale).run 3 operations = some session ∧
        ∃ after, session.engine.fetch 3 "page" false = some (.ok template, after) :=
    ⟨_, rfl, _, rfl⟩
  obtain ⟨result, engine, fetched, -, -, found⟩ :=
    lookups_transparent Compiler.isFunction_echo 2 [1, 0] ∅ .assumeStale room ran 3 "page"
  rw [expected] at fetched
  cases fetched
  obtain ⟨-, -, same⟩ := found template rfl
  exact ⟨Compiler.isFunction_echo, room, session, ran, template, after, expected, rfl, same⟩

end Stencil
