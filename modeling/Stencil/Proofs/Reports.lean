import Stencil.Proofs.Eagerness
import Stencil.Proofs.Partition

set_option autoImplicit false

namespace Stencil

/-! ### Chains of errors -/

/-- The first error, caused by the second, which is caused by the third, and so on. -/
def Error.nest (first : Error) : List Error → Error
  | [] => first
  | second :: rest => first.causedBy (nest second rest)

/-- The messages of an error and of all its causes, the outermost first. -/
def Error.chainMessages (error : Error) : List String :=
  error.message :: error.causes.map Cause.message

theorem Error.chainMessages_nest (first : Error) (rest : List Error) :
    (nest first rest).chainMessages =
      (first :: rest).map Error.message ++ (rest.getLastD first).causes.map Cause.message := by
  induction rest generalizing first with
  | nil => rfl
  | cons second rest ih =>
      have behind : (nest first (second :: rest)).chainMessages =
          first.message :: (nest second rest).chainMessages := rfl
      rw [behind, ih second, List.getLastD_cons]
      rfl

/-- One line for each cause, however long the chain is. -/
theorem Error.fullMessage_eq (error : Error) :
    error.fullMessage = String.intercalate "\n  caused by: " error.chainMessages := by
  have lines : ∀ (causes : List Cause) (first : String),
      first ++ String.join (causes.map fun cause => "\n  caused by: " ++ cause.message) =
        String.intercalate "\n  caused by: " (first :: causes.map Cause.message) := by
    intro causes
    induction causes with
    | nil => exact fun first => String.append_empty
    | cons cause rest ih =>
        intro first
        rw [List.map_cons, List.map_cons, String.intercalate_cons_cons, ← ih, String.join_cons]
        simp only [String.append_assoc]
  exact lines error.causes error.message

/-! ### Failed compilations -/

/-- What a compilation that fails comes to, before a template is blamed. -/
inductive Setting.CompileFails (setting : Setting) (calls : Calls) (template : Template)
    (before : State) : Error → State → Prop where
  /-- There is no compiler. -/
  | noCompiler (none : setting.environment.compiler = none) :
      CompileFails setting calls template before
        (.new .compileError "no template compiler configured") before
  /-- The compiler fails with a compile error, which stays as it is. -/
  | passed {compiler : Compiler} {error : Error} {after : State}
      (known : setting.environment.compiler = some compiler)
      (fails : callCompiler calls compiler (some template.id) template.name template.source.text
        before = some (.error error, after))
      (kind : error.kind = .compileError) :
      CompileFails setting calls template before error after
  /-- The compiler fails with another error, which becomes the nearest cause of a new one. -/
  | wrapped {compiler : Compiler} {error : Error} {after : State}
      (known : setting.environment.compiler = some compiler)
      (fails : callCompiler calls compiler (some template.id) template.name template.source.text
        before = some (.error error, after))
      (kind : error.kind ≠ .compileError) :
      CompileFails setting calls template before
        ⟨⟨.compileError, some "template failed to compile", none⟩,
          .fault error.toFault :: error.causes⟩ after
  /-- The compiler answers with a module that cannot be sorted. -/
  | rejected {compiler : Compiler} {m : Module} {error : Error} {after : State}
      (known : setting.environment.compiler = some compiler)
      (answers : callCompiler calls compiler (some template.id) template.name template.source.text
        before = some (.ok m, after))
      (invalid : m.compiled = .error error) :
      CompileFails setting calls template before error after

theorem Compiled.ofAnswer_of_compileError {error : Error} (kind : error.kind = .compileError) :
    ofAnswer (.error error) = .error error := by
  change Except.error error.asCompileError = _
  rw [Error.asCompileError, if_pos kind]

theorem Compiled.ofAnswer_of_other {error : Error} (kind : error.kind ≠ .compileError) :
    ofAnswer (.error error) = .error ⟨⟨.compileError, some "template failed to compile", none⟩,
      .fault error.toFault :: error.causes⟩ := by
  change Except.error error.asCompileError = _
  rw [Error.asCompileError, if_neg kind]
  rfl

namespace Setting

variable {setting : Setting} {calls : Calls} {template : Template} {before after : State}
variable {error : Error}

theorem compile_of_answer {compiler : Compiler}
    (known : setting.environment.compiler = some compiler) :
    setting.compile calls template before =
      (callCompiler calls compiler (some template.id) template.name template.source.text before).map
        fun outcome => (Compiled.ofAnswer outcome.1, outcome.2) := by
  rw [Setting.compile_of_some known, Setting.callCompiler_eq, Option.map_map]
  rfl

theorem compile_fails_iff : setting.compile calls template before = some (.error error, after) ↔
    setting.CompileFails calls template before error after := by
  constructor
  · intro failed
    cases known : setting.environment.compiler with
    | none =>
        unfold Setting.compile at failed
        rw [known] at failed
        cases failed
        exact .noCompiler known
    | some compiler =>
        rw [compile_of_answer known] at failed
        obtain ⟨⟨answer, left⟩, called, same⟩ := Option.map_eq_some_iff.1 failed
        obtain ⟨result, rfl⟩ := Prod.mk.inj same
        cases answer with
        | error raw =>
            by_cases kind : raw.kind = .compileError
            · rw [Compiled.ofAnswer_of_compileError kind] at result
              cases result
              exact .passed known called kind
            · rw [Compiled.ofAnswer_of_other kind] at result
              cases result
              exact .wrapped known called kind
        | ok m => exact .rejected known called result
  · intro fails
    cases fails with
    | noCompiler none =>
        unfold Setting.compile
        rw [none]
        rfl
    | passed known called kind =>
        rw [compile_of_answer known, called, Option.map_some, Compiled.ofAnswer_of_compileError kind]
    | wrapped known called kind =>
        rw [compile_of_answer known, called, Option.map_some, Compiled.ofAnswer_of_other kind]
    | rejected known called invalid =>
        rw [compile_of_answer known, called, Option.map_some]
        exact congrArg (fun result => some (result, after)) invalid

theorem CompileFails.kind (fails : setting.CompileFails calls template before error after) :
    error.kind = .compileError := by
  cases fails with
  | noCompiler none => rfl
  | passed known called kind => exact kind
  | wrapped known called kind => rfl
  | rejected known called invalid => exact Module.kind_of_compiled_error invalid

/-- A template that is not compiled yet is reported to fail as its compilation does, and is blamed for
it unless another one is. -/
theorem compileTemplate_fails_iff :
    setting.compileTemplate calls template before = some (.error error, after) ↔
      before.compiledForm? template.id = none ∧
      ∃ raw, setting.CompileFails calls template before raw after ∧
        error = { raw with name := some (raw.name.getD template.name) } := by
  rw [Setting.compileTemplate_eq]
  cases known : before.compiledForm? template.id with
  | some form =>
      rw [Setting.compiledForm_of_some known]
      constructor
      · intro impossible
        cases impossible
      · rintro ⟨impossible, -⟩
        cases impossible
  | none =>
      rw [Setting.compiledForm_of_none known]
      constructor
      · intro failed
        cases compiled : setting.compile calls template before with
        | none =>
            rw [compiled] at failed
            cases failed
        | some outcome =>
            obtain ⟨result, left⟩ := outcome
            rw [compiled] at failed
            cases result with
            | ok form => cases failed
            | error raw =>
                cases failed
                exact ⟨rfl, raw, compile_fails_iff.1 compiled, rfl⟩
      · rintro ⟨-, raw, fails, rfl⟩
        rw [compile_fails_iff.2 fails]
        rfl

/-- Rendering data that converts is to compile the template, and then to render it. -/
theorem render_eq_compile_render {data : Data} {value : Value} (converts : data.toValue = .ok value) :
    setting.render calls template data =
      (do setting.compileTemplate calls template; setting.render calls template data) := by
  funext before
  have compiled := Setting.compileTemplate_eq setting calls template before
  rw [Setting.render_eq, converts]
  cases formed : setting.compiledForm calls template before with
  | none =>
      rw [formed] at compiled
      exact (Run.bind_of_none _ compiled).symm
  | some outcome =>
      obtain ⟨result, middle⟩ := outcome
      rw [formed] at compiled
      cases result with
      | error error => exact (Run.bind_of_error _ compiled).symm
      | ok form =>
          have kept := Setting.kept_of_compiledForm formed
          refine ((Run.bind_of_ok _ compiled).trans ?_).symm
          rw [Setting.render_eq, converts, Setting.compiledForm_of_some kept]

/-- A lookup that compiles at once what is kept fails as that does. -/
theorem fetch_fails_iff_of_current {name : String} (current : setting.Current before name template) :
    setting.fetch calls name true before = some (.error error, after) ↔
      setting.compileTemplate calls template (before.log (setting.checksOf before name)) =
        some (.error error, after) := by
  rw [Setting.fetch_of_kept _ _ current.1, if_pos current.2, Setting.checksOf_of_current current]
  change (setting.compileTemplate calls template _).map _ = _ ↔ _
  cases setting.compileTemplate calls template (before.log (setting.checks before template)) with
  | none => simp
  | some outcome => obtain ⟨_ | _, _⟩ := outcome <;> simp

/-- A lookup that compiles at once what it loads fails as that does. -/
theorem fetch_fails_iff_of_loads {name : String} {source : Source}
    (loads : setting.Loads before name source) :
    let issued := setting.issue before name source
    setting.fetch calls name true before = some (.error error, after) ↔
      setting.compileTemplate calls issued.1 issued.2 = some (.error error, after) := by
  intro issued
  rw [Setting.fetch_of_loads loads]
  change (setting.compileTemplate calls issued.1 issued.2).map _ = _ ↔ _
  cases setting.compileTemplate calls issued.1 issued.2 with
  | none => simp
  | some outcome => obtain ⟨_ | _, _⟩ := outcome <;> simp

end Setting

/-- How a failed compilation is reported, whatever the compiler does. A template that fails to compile
fails with a compile error, which says what the compilation came to, and which blames the template
unless it blames another. Rendering and eager lookups compile first, and fail in the same way. The
full message of any error gives the messages of its chain, one for each error that was nested. -/
theorem failed_compilations_reported (setting : Setting) (calls : Calls) :
    (∀ template before error after,
      setting.compileTemplate calls template before = some (.error error, after) ↔
        before.compiledForm? template.id = none ∧
        ∃ raw, setting.CompileFails calls template before raw after ∧
          error = { raw with name := some (raw.name.getD template.name) }) ∧
    (∀ template before error after,
      setting.compileTemplate calls template before = some (.error error, after) →
        error.kind = .compileError) ∧
    (∀ template (data : Data) value, data.toValue = .ok value →
      setting.render calls template data =
        (do setting.compileTemplate calls template; setting.render calls template data)) ∧
    (∀ name before error after,
      (∀ template, setting.Current before name template →
        (setting.fetch calls name true before = some (.error error, after) ↔
          setting.compileTemplate calls template (before.log (setting.checksOf before name)) =
            some (.error error, after))) ∧
      ∀ source, setting.Loads before name source →
        let issued := setting.issue before name source
        (setting.fetch calls name true before = some (.error error, after) ↔
          setting.compileTemplate calls issued.1 issued.2 = some (.error error, after))) ∧
    (∀ error : Error,
      error.fullMessage = String.intercalate "\n  caused by: " error.chainMessages) ∧
    ∀ (first : Error) (rest : List Error),
      (first.nest rest).chainMessages =
        (first :: rest).map Error.message ++ (rest.getLastD first).causes.map Cause.message := by
  refine ⟨fun _ _ _ _ => Setting.compileTemplate_fails_iff, ?_,
    fun _ _ _ converts => Setting.render_eq_compile_render converts, ?_,
    Error.fullMessage_eq, Error.chainMessages_nest⟩
  · intro template before error after failed
    obtain ⟨-, raw, fails, rfl⟩ := Setting.compileTemplate_fails_iff.1 failed
    exact fails.kind
  · intro name before error after
    exact ⟨fun _ current => Setting.fetch_fails_iff_of_current current,
      fun _ loads => Setting.fetch_fails_iff_of_loads loads⟩

/-- The compiler that fails for every template, because a template that it includes goes wrong. -/
def Compiler.including : Compiler :=
  ⟨fun _ _ => .done (.error ((Error.new .invalidOperation "cannot include").inTemplate "partial"
    |>.nest [.unknownFilter "f", .notConvertible "broken"]))⟩

/-- The error is kept with all its causes, also in a lookup that compiles at once, where each of them
has a line of its own. -/
theorem failed_compilations_reported_including :
    let loaders : List Loader := [.custom "all" fun _ => .ok (some (.ofText "new"))]
    let setting : Setting := ⟨⟨loaders, some .including, ∅, .assumeStale⟩, .empty⟩
    ∃ error after,
      setting.fetch (setting.calls 1) "page" true .initial = some (.error error, after) ∧
      error.kind = .compileError ∧ error.name = some "page" ∧
      error.fullMessage = "compile error: template failed to compile (in page)\n" ++
        "  caused by: invalid operation: cannot include (in partial)\n" ++
        "  caused by: unknown filter: filter f is unknown\n" ++
        "  caused by: could not serialize to value: could not convert value\n" ++
        "  caused by: broken" := by
  intro loaders setting
  have loads : setting.Loads .initial "page" (.ofText "new") := by
    refine ⟨?_, rfl⟩
    rintro template ⟨kept, -⟩
    cases kept
  let issued := setting.issue .initial "page" (.ofText "new")
  obtain ⟨fails, kinds, -, lookups, full, -⟩ :=
    failed_compilations_reported setting (setting.calls 1)
  have compiles : setting.CompileFails (setting.calls 1) issued.1 issued.2 _ _ :=
    .wrapped rfl rfl (by decide)
  have failed := (fails issued.1 issued.2 _ _).2 ⟨rfl, _, compiles, rfl⟩
  have looked := ((lookups "page" .initial _ _).2 _ loads).2 failed
  refine ⟨_, _, looked, kinds _ _ _ _ failed, rfl, ?_⟩
  rw [full]
  decide +kernel

end Stencil
