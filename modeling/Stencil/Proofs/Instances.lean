import Stencil.Proofs.Attempts
import Stencil.Proofs.Ownership

set_option autoImplicit false

namespace Stencil

/-- What can be done in a session: an operation, a change of anything that the engine is set up with
or that its loaders read from, and taking another handle to a template. -/
inductive Activity where
  | operate (operation : Operation)
  | setUp (environment : Environment) (sources : Sources)
  | clone (handle : Nat)

/-- Compilers that are set are honest. -/
def Activity.Honest : Activity → Prop
  | .setUp environment _ => environment.Honest
  | _ => True

namespace Session

/-- A session in which nothing was done yet. -/
def opened (environment : Environment) (sources : Sources) : Session :=
  ⟨.new environment sources, []⟩

/-- What an activity makes of a session, unless calls nest deeper than `limit`. -/
def act (limit : Nat) (session : Session) : Activity → Option Session
  | .operate operation => session.step limit operation
  | .setUp environment sources =>
    some { session with engine := ⟨environment, sources, session.engine.state⟩ }
  | .clone handle =>
    some { session with handles := session.handles ++ session.handles[handle]?.toList }

/-- What activities make of a session, one after the other. -/
def live (limit : Nat) (session : Session) (activities : List Activity) : Option Session :=
  activities.foldlM (act limit) session

/-- All templates that were given out in a session are on the list, and compilers are honest. -/
structure Registers (session : Session) (issued : List Template) : Prop where
  environment : session.engine.environment.Honest
  state : session.engine.state.Registers issued
  handles : session.handles ⊆ issued

end Session

section Steps

variable {α : Type} {engine final : Engine} {limit : Nat} {work : Setting → Calls → Run α}
variable {result : Except Error α}

theorem Engine.perform_grows {own : String → Prop}
    (regular : (work engine.setting (engine.setting.calls limit)).Regular engine.setting own)
    (ended : engine.perform limit work = some (result, final)) :
    ∃ made, engine.state.Grows final.state made := by
  obtain ⟨made, follows, -⟩ := regular _ _ _ (Engine.perform_eq ended).1
  exact ⟨made, follows.toGrows⟩

theorem Engine.perform_registers {issued : List Template} {right : List Template → α → Prop}
    (registers : (work engine.setting (engine.setting.calls limit)).Registers issued right)
    (before : engine.state.Registers issued)
    (ended : engine.perform limit work = some (result, final)) :
    final = { engine with state := final.state } ∧ ∃ known, issued ⊆ known ∧
      final.state.Registers known ∧ ∀ value, result = .ok value → right known value := by
  obtain ⟨worked, only⟩ := Engine.perform_eq ended
  exact ⟨only, registers _ _ _ _ (List.Subset.refl issued) before worked⟩

end Steps

namespace Session

variable {limit : Nat} {session after : Session}

theorem use_grows {α : Type} {handle : Nat} {work : Template → Setting → Calls → Run α}
    {own : String → Prop} (regular : ∀ template, (work template session.engine.setting
      (session.engine.setting.calls limit)).Regular session.engine.setting own)
    (used : session.use handle (fun engine template => engine.perform limit (work template)) =
      some after) : ∃ made, session.engine.state.Grows after.engine.state made := by
  unfold use at used
  split at used
  · cases used
    exact ⟨[], .refl _⟩
  · rename_i template given
    obtain ⟨⟨result, engine⟩, worked, same⟩ := Option.map_eq_some_iff.1 used
    cases same
    exact Engine.perform_grows (regular template) worked

theorem step_grows {operation : Operation} (stepped : session.step limit operation = some after) :
    ∃ made, session.engine.state.Grows after.engine.state made := by
  have regular := session.engine.setting.calls_regular limit
  cases operation with
  | add | remove | addFilter | removeFilter | setPolicy =>
      cases stepped
      exact ⟨[], .refl _⟩
  | ofText name text =>
      cases stepped
      exact ⟨[], (State.Grows.refl _).of_same rfl rfl (Nat.le_succ _)⟩
  | clearTemplates =>
      cases stepped
      exact ⟨[.clear], session.engine.state.grows_forgetTemplates⟩
  | fetch name eager =>
      obtain ⟨⟨result, engine⟩, fetched, same⟩ := Option.map_eq_some_iff.1 stepped
      cases same
      exact Engine.perform_grows (Setting.fetch_regular regular name eager) fetched
  | compile handle => exact use_grows (Setting.compileTemplate_regular regular) stepped
  | render handle data =>
      exact use_grows (fun template => Setting.render_regular regular template data) stepped

theorem act_grows {activity : Activity} (acted : session.act limit activity = some after) :
    ∃ made, session.engine.state.Grows after.engine.state made := by
  cases activity with
  | operate operation => exact step_grows acted
  | setUp | clone =>
      cases acted
      exact ⟨[], .refl _⟩

theorem live_grows {activities : List Activity}
    (lived : session.live limit activities = some after) :
    ∃ made, session.engine.state.Grows after.engine.state made := by
  induction activities generalizing session with
  | nil =>
      cases lived
      exact ⟨[], .refl _⟩
  | cons activity rest ih =>
      obtain ⟨middle, acted, lived⟩ := Option.bind_eq_some_iff.1 lived
      obtain ⟨made, early⟩ := act_grows acted
      obtain ⟨more, late⟩ := ih lived
      exact ⟨made ++ more, early.trans late⟩

namespace Registers

variable {issued : List Template}

theorem opened {environment : Environment} (honest : environment.Honest) (sources : Sources) :
    (Session.opened environment sources).Registers [] where
  environment := honest
  state := {
    numbered := rfl
    cached := by
      intro name template impossible
      cases impossible
    called := by
      intro id name text impossible
      cases impossible
    forms := by
      intro id form impossible
      cases impossible }
  handles := List.Subset.refl []

theorem use {α : Type} {handle : Nat} {work : Template → Setting → Calls → Run α}
    (registers : session.Registers issued)
    (honest : ∀ template ∈ issued, (work template session.engine.setting
      (session.engine.setting.calls limit)).Registers issued fun _ _ => True)
    (used : session.use handle (fun engine template => engine.perform limit (work template)) =
      some after) : ∃ known, issued ⊆ known ∧ after.Registers known := by
  unfold Session.use at used
  split at used
  · cases used
    exact ⟨issued, List.Subset.refl issued, registers⟩
  · rename_i template given
    obtain ⟨⟨result, engine⟩, worked, same⟩ := Option.map_eq_some_iff.1 used
    cases same
    have member := registers.handles (List.mem_of_getElem? given)
    obtain ⟨only, known, grown, state, -⟩ :=
      Engine.perform_registers (honest template member) registers.state worked
    refine ⟨known, grown, ?_, state, List.Subset.trans registers.handles grown⟩
    rw [only]
    exact registers.environment

theorem step (registers : session.Registers issued) {operation : Operation}
    (stepped : session.step limit operation = some after) :
    ∃ known, issued ⊆ known ∧ after.Registers known := by
  have faithful : session.engine.setting.environment.Honest := registers.environment
  have honest := Setting.calls_honest faithful limit
  have same := List.Subset.refl issued
  cases operation with
  | add | remove | addFilter | removeFilter | setPolicy =>
      cases stepped
      exact ⟨issued, same, registers.environment, registers.state, registers.handles⟩
  | clearTemplates =>
      cases stepped
      exact ⟨issued, same, registers.environment, registers.state.forgetTemplates,
        registers.handles⟩
  | ofText name text =>
      cases stepped
      have grown := List.subset_append_left issued
        [(session.engine.state.newTemplate name (.ofText text)).1]
      refine ⟨_, grown, registers.environment, registers.state.newTemplate name (.ofText text), ?_⟩
      exact List.append_subset.2 ⟨List.Subset.trans registers.handles grown,
        List.subset_append_right issued _⟩
  | fetch name eager =>
      obtain ⟨⟨result, engine⟩, fetched, given⟩ := Option.map_eq_some_iff.1 stepped
      cases given
      obtain ⟨only, known, grown, state, found⟩ := Engine.perform_registers
        (Setting.fetch_registers faithful honest name eager) registers.state fetched
      refine ⟨known, grown, ?_, state, ?_⟩
      · rw [only]
        exact registers.environment
      · exact List.append_subset.2
          ⟨List.Subset.trans registers.handles grown, Run.given_subset found⟩
  | compile handle =>
      exact registers.use (fun template member =>
        Setting.compileTemplate_registers faithful honest member) stepped
  | render handle data =>
      exact registers.use (fun template member =>
        Setting.render_registers faithful honest member data) stepped

theorem act (registers : session.Registers issued) {activity : Activity} (honest : activity.Honest)
    (acted : session.act limit activity = some after) :
    ∃ known, issued ⊆ known ∧ after.Registers known := by
  cases activity with
  | operate operation => exact registers.step acted
  | setUp environment sources =>
      cases acted
      exact ⟨issued, List.Subset.refl issued, honest, registers.state, registers.handles⟩
  | clone handle =>
      cases acted
      refine ⟨issued, List.Subset.refl issued, registers.environment, registers.state, ?_⟩
      refine List.append_subset.2 ⟨registers.handles, ?_⟩
      intro template member
      exact registers.handles (List.mem_of_getElem? (Option.mem_toList.1 member))

theorem live (registers : session.Registers issued) {activities : List Activity}
    (honest : ∀ activity ∈ activities, activity.Honest)
    (lived : session.live limit activities = some after) :
    ∃ known, issued ⊆ known ∧ after.Registers known := by
  induction activities generalizing session issued with
  | nil =>
      cases lived
      exact ⟨issued, List.Subset.refl issued, registers⟩
  | cons activity rest ih =>
      obtain ⟨middle, acted, lived⟩ := Option.bind_eq_some_iff.1 lived
      obtain ⟨first, others⟩ := List.forall_mem_cons.1 honest
      obtain ⟨known, grown, between⟩ := registers.act first acted
      obtain ⟨all, further, final⟩ := ih between others lived
      exact ⟨all, List.Subset.trans grown further, final⟩

end Registers

end Session

/-- What the record says of a template, of all calls of the compiler for it: those that are asked for,
those of an eager lookup, and those within a rendering or another compilation. -/
structure State.CompiledOnce (state : State) (template : Template) : Prop where
  /-- The compiler is called with the template's own name and text. -/
  called : ∀ name text, .compile (some template.id) name text ∈ state.events →
    name = template.name ∧ text = template.source.text
  /-- Each call was answered. -/
  answered : state.events.countP (Event.calls template.id) =
    state.events.countP (Event.answers template.id)
  /-- The first valid answer is the form of the template, which has none as long as there is no valid
  answer. -/
  form : state.compiledForm? template.id = state.events.findSome? (Event.form? template.id)
  /-- After a valid answer there is no further call. -/
  last : ∀ early answer late form,
    state.events = early ++ .answer (some template.id) answer :: late →
    Compiled.ofAnswer answer = .ok form → ∀ name text, .compile (some template.id) name text ∉ late

theorem Session.Registers.compiledOnce {session : Session} {issued : List Template}
    (registers : session.Registers issued)
    (grows : State.initial.Grows session.engine.state session.engine.state.events)
    {template : Template} (member : template ∈ issued) :
    session.engine.state.CompiledOnce template where
  called := by
    intro name text called
    obtain ⟨other, alsoMember, same, named, read⟩ :=
      registers.state.called _ name text (List.mem_reverse.1 called)
    obtain rfl := registers.state.unique alsoMember member same
    exact ⟨named.symm, read.symm⟩
  answered := grows.balanced template.id
  form := (grows.forms template.id).trans Option.none_or
  last := by
    intro early answer late form events valid name text called
    have ordered := grows.ordered
    rw [events] at ordered
    have behind := (List.pairwise_cons.1 (List.pairwise_append.1 ordered).2.1).1 _ called
    apply behind template.id form name text _ rfl
    rw [Event.form?_answer, if_pos rfl, valid]
    rfl

/-- A template is compiled once. Until then all that needs its form calls the compiler for it, at the
end of the session as within any run; after that its form stays, whatever is done, and the compiler is
not called for it again. A form of instructions renders data to what it yields with the filters of the
moment. -/
theorem compiled_once {limit : Nat} {environment : Environment} {sources : Sources}
    {activities : List Activity} {session : Session} (honest : environment.Honest)
    (allHonest : ∀ activity ∈ activities, activity.Honest)
    (lived : (Session.opened environment sources).live limit activities = some session) :
    ∃ issued, session.handles ⊆ issued ∧
      (∀ name template, session.engine.state.cache.get? name = some template → template ∈ issued) ∧
      issued.map Template.id = List.range session.engine.state.templates ∧
      ∀ template ∈ issued, session.engine.state.CompiledOnce template ∧
        (∀ compiler before, session.engine.environment.compiler = some compiler →
          before.compiledForm? template.id = none →
          session.engine.setting.CallsCompiler template before) ∧
        ∀ form, session.engine.state.compiledForm? template.id = some form →
          ∀ further later reached, (∀ activity ∈ later, activity.Honest) →
            session.live further later = some reached →
            (∀ handle ∈ reached.handles, handle.id = template.id → handle = template) ∧
            reached.engine.state.compiledForm? template.id = some form ∧
            (∃ made, reached.engine.state.events = session.engine.state.events ++ made ∧
              ∀ name text, .compile (some template.id) name text ∉ made) ∧
            (form.All Procedure.Interpreted → ∀ data,
              let yields := form.Yields reached.engine.environment.filters template.name data
              (∀ result, reached.engine.RendersTo template data result ↔ yields result) ∧
              ∀ result other, yields result → yields other → result = other) := by
  obtain ⟨issued, -, registers⟩ := (Session.Registers.opened honest sources).live allHonest lived
  obtain ⟨all, whole⟩ := Session.live_grows lived
  obtain rfl : session.engine.state.events = all := whole.events
  refine ⟨issued, registers.handles, registers.state.cached, registers.state.numbered, ?_⟩
  intro template member
  refine ⟨registers.compiledOnce whole member,
    fun compiler before known unknown => Setting.callsCompiler known unknown, ?_⟩
  intro form kept further later reached laterHonest livedOn
  obtain ⟨known, grown, final⟩ := registers.live laterHonest livedOn
  obtain ⟨made, grows⟩ := Session.live_grows livedOn
  have still := grows.still kept
  refine ⟨?_, still, ⟨made, grows.events, grows.kept template.id form kept⟩, ?_⟩
  · intro handle given same
    exact final.state.unique (final.handles given) (grown member) same
  · intro interpreted data
    refine ⟨?_, fun result other => Compiled.Yields.unique interpreted⟩
    intro result
    rw [Engine.rendersTo_iff]
    exact Setting.rendersTo_iff_yields interpreted reached.engine.setting still data result

/-- The compiler that puts out the text of `base` before each text. -/
def Compiler.layout : Compiler :=
  ⟨fun _ text => .fetch "base" false fun
    | .error error => .done (.error error)
    | .ok base => .build [(Module.rootName, .fresh (.code [.text base.source.text, .text text]))]⟩

theorem Compiler.honest_layout : Compiler.layout.Honest := by
  intro name text result
  cases result with
  | error error =>
      intro m impossible
      cases impossible
  | ok base =>
      apply Recipe.build_honest
      intro entry member
      rw [List.mem_singleton.1 member]
      trivial

/-- The compiler that has each text put out, and `page` rendered after it. -/
def Compiler.frames : Compiler :=
  ⟨fun _ text => .build [(Module.rootName,
    .fresh (.native (Step.scripts [.act (.text text), .embed "page" (.ok .null)])))]⟩

theorem Compiler.honest_frames : Compiler.frames.Honest := by
  intro name text
  apply Recipe.build_honest
  intro entry member
  rw [List.mem_singleton.1 member]
  exact Step.scripts_honest _ []

/-- An environment with templates of the listed names, whose texts are their names. -/
def Environment.ofPages (compiler : Compiler) (names : List String) : Environment where
  loaders := [.custom "pages" fun name => .ok (if name ∈ names then some (.ofText name) else none)]
  compiler := some compiler
  filters := ∅
  policy := .assumeFresh

theorem Environment.honest_ofPages {compiler : Compiler} (honest : compiler.Honest)
    (names : List String) : (Environment.ofPages compiler names).Honest := by
  intro other same
  cases same
  exact honest

/-- While a frame around it is rendered a page is compiled in vain, as long as there is no base, and
then once. After that it renders the same although nothing of it is there any more and the compiler is
another one. -/
theorem compiled_once_baseless :
    let page : Template := ⟨1, "page", .ofText "page"⟩
    let activities : List Activity := [.operate (.ofText "frame" "["), .operate (.compile 0),
      .setUp (.ofPages .layout ["page"]) .empty, .operate (.render 0 (.ok .null)),
      .setUp (.ofPages .layout ["base"]) .empty, .operate (.render 0 (.ok .null)),
      .operate (.fetch "page" false)]
    let later : List Activity :=
      [.setUp (.ofPages Markup.compiler []) .empty, .operate .clearTemplates, .clone 1]
    ∃ session reached,
      (Session.opened (.ofPages .frames []) .empty).live 3 activities = some session ∧
      session.engine.state.events.countP (Event.calls 1) = 2 ∧
      session.live 3 later = some reached ∧
      reached.handles = [⟨0, "frame", .ofText "["⟩, page, page] ∧
      reached.engine.RendersTo page (.ok .null) (.ok "basepage") := by
  intro page activities later
  have honest : ∀ {compiler : Compiler}, compiler.Honest → ∀ names,
      (Environment.ofPages compiler names).Honest := Environment.honest_ofPages
  have allHonest : ∀ activity ∈ activities, activity.Honest := by
    simp only [activities, List.forall_mem_cons]
    exact ⟨trivial, trivial, honest Compiler.honest_layout _, trivial,
      honest Compiler.honest_layout _, trivial, trivial, List.forall_mem_nil _⟩
  have laterHonest : ∀ activity ∈ later, activity.Honest := by
    simp only [later, List.forall_mem_cons]
    exact ⟨honest Markup.compiler_honest _, trivial, trivial, List.forall_mem_nil _⟩
  let form : Compiled := ⟨⟨1, .code [.text "base", .text "page"]⟩, ∅⟩
  obtain ⟨session, reached, lived, called, given, kept, livedOn, handles, filters⟩ :
      ∃ session reached,
        (Session.opened (.ofPages .frames []) .empty).live 3 activities = some session ∧
        session.engine.state.events.countP (Event.calls 1) = 2 ∧
        session.handles = [⟨0, "frame", .ofText "["⟩, page] ∧
        session.engine.state.compiledForm? page.id = some form ∧
        session.live 3 later = some reached ∧
        reached.handles = [⟨0, "frame", .ofText "["⟩, page, page] ∧
        reached.engine.environment.filters = ∅ :=
    ⟨_, _, rfl, rfl, rfl, rfl, rfl, rfl, rfl⟩
  refine ⟨session, reached, lived, called, livedOn, handles, ?_⟩
  obtain ⟨issued, owned, -, -, all⟩ :=
    compiled_once (honest Compiler.honest_frames []) allHonest lived
  obtain ⟨-, -, rest⟩ := all page (owned (by rw [given]; exact List.mem_of_getElem? (i := 1) rfl))
  obtain ⟨-, -, -, renders⟩ := rest form kept 3 later reached laterHonest livedOn
  have interpreted : form.All Procedure.Interpreted := by
    refine ⟨⟨_, rfl⟩, ?_⟩
    intro name procedure impossible
    cases impossible
  obtain ⟨renders, -⟩ := renders interpreted (.ok .null)
  apply (renders (.ok "basepage")).2
  rw [filters]
  exact ⟨1, _, rfl⟩

/-- The compiler that has each template compiled within the first compilation of it, which fails after
that. It knows the first one by `mark`, which is not among the templates then. -/
def Compiler.reentrant : Compiler :=
  ⟨fun name text => .look fun view =>
    if "mark" ∈ view.templates then .build [(Module.rootName, .fresh (.code [.text text]))]
    else .fetch "mark" false fun _ => .fetch name true fun _ =>
      .done (.error (.new .compileError "late"))⟩

/-- A failed attempt to compile a template is not always followed by another. A render of data that
cannot be converted fails before it needs the template, and does nothing at all. And a template may be
compiled although the first attempt fails, by one that the compiler has made within it. -/
theorem failures_excepted :
    let page : Template := ⟨0, "page", .ofText "page"⟩
    let call : Event := .compile (some 0) "page" "page"
    (∃ session error, (Session.opened (.ofPages .layout ["page"]) .empty).live 3
        [.operate (.fetch "page" false), .operate (.compile 0)] = some session ∧
      session.handles = [page] ∧ session.engine.state.compiledForm? 0 = none ∧
      session.engine.environment.compiler = some .layout ∧
      session.engine.render 3 page (.error "boom") = some (.error error, session.engine)) ∧
    ∃ session error after m form, (Session.opened (.ofPages .reentrant ["page", "mark"]) .empty).live 3
        [.operate (.fetch "page" false)] = some session ∧
      session.handles = [page] ∧ session.engine.state.compiledForm? 0 = none ∧
      session.engine.compile 3 page = some (.error error, after) ∧
      after.state.events = session.engine.state.events ++ [call, .request "mark", .load 0 "mark",
        .request "page", call, .answer (some 0) (.ok m),
        .answer (some 0) (.error (.new .compileError "late"))] ∧
      after.state.compiledForm? 0 = some form :=
  ⟨⟨_, _, rfl, rfl, rfl, rfl, rfl⟩, _, _, _, _, _, rfl, rfl, rfl, rfl, rfl, rfl⟩

end Stencil
