import Stencil.Proofs.Atomicity
import Stencil.Proofs.Sites

set_option autoImplicit false

/-
Which template is blamed. Every rendering puts the name of its template on the errors that it fails
with, unless they carry one. So an error that passes through renderings which are nested in each
other carries the name of the innermost.
-/

namespace Stencil

/-- The rendering of a template with data, from the state in which it starts. -/
structure Rendering where
  template : Template
  data : Data
  state : State

/-- Renders a form with a value, and blames nobody. -/
def Compiled.unblamed (calls : Calls) (name : String) (value : Value) (form : Compiled) :
    Run String := do
  let bindings ← Run.ofExcept value.toVariables
  calls.invoke form.root (.outside ⟨some name, bindings, form.blocks⟩)

/-- Renders a template with data, and blames nobody. -/
def Setting.unblamed (setting : Setting) (calls : Calls) (template : Template) (data : Data) :
    Run String := do
  let value ← Run.ofExcept data.toValue
  let form ← setting.compiledForm calls template
  form.unblamed calls template.name value

namespace Rendering

/-- A rendering starts with the root of its template, once the data is converted and the template is
compiled. -/
inductive Opens (setting : Setting) (rendering : Rendering) : Site × State → Prop
  | root {value : Value} {form : Compiled} {bindings : Dict Value} {state : State}
      (converts : rendering.data.toValue = .ok value)
      (compiles : setting.Ends (fun calls => setting.compiledForm calls rendering.template)
        rendering.state (.ok form) state)
      (binds : value.toVariables = .ok bindings) :
      Opens setting rendering
        (.start form.root (.outside ⟨some rendering.template.name, bindings, form.blocks⟩), state)

/-- In the root of the template, or in a body at any depth, the rendering comes to a site. -/
def Reaches (setting : Setting) (rendering : Rendering) (last : Site × State) : Prop :=
  ∃ first, rendering.Opens setting first ∧ Relation.ReflTransGen setting.ComesTo first last

/-- The rendering comes to another one, the errors of which it passes on. -/
def Includes (setting : Setting) (outer inner : Rendering) : Prop :=
  outer.Reaches setting (.render inner.template inner.data, inner.state)

/-- Before anybody is blamed, the rendering fails with the error. -/
inductive FailsWithin (setting : Setting) (rendering : Rendering) (error : Error) : Prop
  /-- The data does not convert. -/
  | conversion (fails : rendering.data.toValue = .error error)
  /-- The template does not compile. -/
  | compilation {value : Value} (converts : rendering.data.toValue = .ok value)
      (fails : setting.Fails (fun calls => setting.compiledForm calls rendering.template)
        rendering.state error)
  /-- The data is not made of variables. -/
  | binds {value : Value} {form : Compiled} {after : State}
      (converts : rendering.data.toValue = .ok value)
      (compiles : setting.Ends (fun calls => setting.compiledForm calls rendering.template)
        rendering.state (.ok form) after)
      (fails : value.toVariables = .error error)
  /-- Something fails that the rendering comes to. -/
  | site {site : Site} {state : State} (reaches : rendering.Reaches setting (site, state))
      (fails : site.Fails setting state error)

/-- The rendering fails with the error, whose name is filled in if it has none. -/
def Reports (setting : Setting) (rendering : Rendering) (error : Error) (name : String) : Prop :=
  ∃ reported : Error, reported.kind = error.kind ∧ reported.detail = error.detail ∧
    reported.causes = error.causes ∧ reported.name = some (error.name.getD name) ∧
    ∀ result, setting.RendersTo rendering.state rendering.template rendering.data result ↔
      result = .error reported

end Rendering

/-- The first to blame a template is the only one. -/
theorem Error.inTemplate_inTemplate (error : Error) (name other : String) :
    (error.inTemplate name).inTemplate other = error.inTemplate name := rfl

section Unblamed

variable {setting : Setting} {template : Template} {data : Data} {state : State} {error : Error}

theorem Setting.unblamed_of_converts {value : Value} (converts : data.toValue = .ok value)
    (calls : Calls) :
    setting.unblamed calls template data =
      setting.compiledForm calls template >>= fun form =>
        form.unblamed calls template.name value := by
  unfold Setting.unblamed
  rw [converts]
  rfl

theorem Setting.unblamed_fails {value : Value} {form : Compiled} {after : State}
    (converts : data.toValue = .ok value)
    (compiles : setting.Ends (fun calls => setting.compiledForm calls template) state (.ok form)
      after)
    (fails : setting.Fails (fun calls => form.unblamed calls template.name value) after error) :
    setting.Fails (fun calls => setting.unblamed calls template data) state error := by
  obtain ⟨final, rest⟩ := fails
  simp only [Setting.unblamed_of_converts converts]
  refine ⟨final, compiles.bind (setting.compiledForm_deepens template) ?_ rest⟩
  intro form level deeper le
  apply Run.below_lifts.bind (Run.below_lifts.refl _)
  intro bindings
  exact setting.invoke_deepens _ _ level deeper le

/-- The rendering puts its name on what it fails with. -/
theorem Setting.render_fails
    (fails : setting.Fails (fun calls => setting.unblamed calls template data) state error) :
    setting.Fails (fun calls => setting.render calls template data) state
      (error.inTemplate template.name) := by
  obtain ⟨after, level, ended⟩ := fails
  beta_reduce at ended
  refine ⟨after, level, ?_⟩
  change Run.blame template.name (setting.unblamed (setting.calls level) template data) state = _
  unfold Run.blame
  rw [ended]
  rfl

end Unblamed

namespace Rendering

variable {setting : Setting} {rendering : Rendering} {error : Error}

theorem Reaches.fails {site : Site} {state : State} (reaches : rendering.Reaches setting (site, state))
    (fails : site.Fails setting state error) :
    setting.Fails (fun calls => setting.unblamed calls rendering.template rendering.data)
      rendering.state error := by
  obtain ⟨first, opens, path⟩ := reaches
  have rootFails := Setting.fails_of_comesTo path fails
  cases opens with
  | root converts compiles binds =>
      apply Setting.unblamed_fails converts compiles
      unfold Compiled.unblamed
      rw [binds]
      exact rootFails

/-- These are all the ways in which a rendering fails. -/
theorem failsWithin_iff :
    rendering.FailsWithin setting error ↔
      setting.Fails (fun calls => setting.unblamed calls rendering.template rendering.data)
        rendering.state error := by
  constructor
  · intro fails
    cases fails with
    | conversion fails =>
        refine ⟨rendering.state, 0, ?_⟩
        unfold Setting.unblamed
        rw [fails]
        rfl
    | compilation converts fails =>
        simp only [Setting.unblamed_of_converts converts]
        exact fails.bind
    | binds converts compiles fails =>
        apply Setting.unblamed_fails converts compiles
        unfold Compiled.unblamed
        rw [fails]
        exact ⟨_, 0, rfl⟩
    | site reaches fails => exact reaches.fails fails
  · rintro ⟨after, level, ended⟩
    beta_reduce at ended
    cases converts : rendering.data.toValue with
    | error failure =>
        unfold Setting.unblamed at ended
        rw [converts] at ended
        cases ended
        exact .conversion converts
    | ok value =>
        rw [Setting.unblamed_of_converts converts] at ended
        cases compiled : setting.compiledForm (setting.calls level) rendering.template
            rendering.state with
        | none =>
            rw [Run.bind_of_none _ compiled] at ended
            cases ended
        | some outcome =>
            obtain ⟨answer, middle⟩ := outcome
            cases answer with
            | error failure =>
                rw [Run.bind_of_error _ compiled] at ended
                cases ended
                exact .compilation converts ⟨_, level, compiled⟩
            | ok form =>
                rw [Run.bind_of_ok _ compiled, Compiled.unblamed] at ended
                cases binds : value.toVariables with
                | error failure =>
                    rw [binds] at ended
                    cases ended
                    exact .binds converts ⟨level, compiled⟩ binds
                | ok bindings =>
                    rw [binds] at ended
                    exact .site ⟨_, .root converts ⟨level, compiled⟩ binds, .refl⟩
                      ⟨after, level, ended⟩

/-- Through renderings that are nested in each other, an error passes with the name that it got
first. -/
theorem render_fails_of_includes {first last : Rendering}
    (nested : Relation.ReflTransGen (Includes setting) first last)
    (fails : last.FailsWithin setting error) :
    setting.Fails (fun calls => setting.render calls first.template first.data) first.state
      (error.inTemplate last.template.name) := by
  induction nested using Relation.ReflTransGen.head_induction_on with
  | refl => exact Setting.render_fails (failsWithin_iff.1 fails)
  | @head outer inner includes _ ih =>
      have named := Setting.render_fails (Reaches.fails includes ih)
      rw [Error.inTemplate_inTemplate] at named
      exact named

end Rendering

/-- A lookup that compiles nothing fails with what the loaders fail with, and blames nobody. -/
theorem Setting.fetch_fails_iff {setting : Setting} {name : String} {state : State} {error : Error} :
    setting.Fails (fun calls => setting.fetch calls name false) state error ↔
      (∀ template, ¬ setting.Current state name template) ∧
        Loader.find setting.sources name setting.environment.loaders = .error error := by
  constructor
  · rintro ⟨after, level, ended⟩
    beta_reduce at ended
    by_cases current : ∃ template, setting.Current state name template
    · obtain ⟨template, kept, fresh⟩ := current
      rw [Setting.fetch_of_kept _ _ kept, if_pos fresh] at ended
      cases ended
    · have stale := not_exists.1 current
      refine ⟨stale, ?_⟩
      rw [Setting.fetch_of_stale stale, Setting.load_eq] at ended
      cases found : Loader.find setting.sources name setting.environment.loaders with
      | error failure =>
          rw [found] at ended
          cases ended
          rfl
      | ok source =>
          rw [found] at ended
          cases ended
  · rintro ⟨stale, failed⟩
    exact ⟨_, 0, Setting.fetch_of_failed stale failed _ false⟩

/-- An error without a name gets that of the innermost template. When renderings are nested in each
other, each passing on the errors of the next, and the last of them fails at any stage, be it at the
request for a further template, then the first fails with that very error, and with the name of the
last template unless the error has a name already. A lookup alone gives no name to the error of a
loader. -/
theorem innermost_blamed (setting : Setting) (error : Error) :
    (∀ name state, setting.Fails (fun calls => setting.fetch calls name false) state error ↔
      (∀ template, ¬ setting.Current state name template) ∧
        Loader.find setting.sources name setting.environment.loaders = .error error) ∧
    ∀ first last, Relation.ReflTransGen (Rendering.Includes setting) first last →
      last.FailsWithin setting error → first.Reports setting error last.template.name := by
  constructor
  · intro name state
    exact Setting.fetch_fails_iff
  · intro first last nested fails
    refine ⟨error.inTemplate last.template.name, rfl, rfl, rfl, rfl, ?_⟩
    obtain ⟨final, ends⟩ := Rendering.render_fails_of_includes nested fails
    intro result
    constructor
    · rintro ⟨level, after, ended⟩
      have alsoEnds : setting.Ends (fun calls => setting.render calls first.template first.data)
          first.state result after := ⟨level, ended⟩
      exact alsoEnds.unique (setting.render_deepens first.template first.data) ends
    · rintro rfl
      obtain ⟨level, ended⟩ := ends
      exact ⟨level, final, ended⟩

/-- A page embeds a letter from the second body of a block, and the letter embeds a template that is
lost. Nobody is blamed by the lookup, and the page blames the letter. -/
theorem innermost_blamed_lost :
    let second : Procedure := ⟨2, .native (Step.script (.embed "letter" (.ok .null)))⟩
    let page : Compiled := ⟨⟨0, .code [.text "Dear", .block "body"]⟩,
      (∅ : Blocks).insert "body" [⟨1, .code [.super]⟩, second]⟩
    let letter : Compiled := ⟨⟨3, .native (Step.script (.embed "lost" (.ok .null)))⟩, ∅⟩
    let setting : Setting := ⟨⟨[], none, ∅, .assumeFresh⟩, .empty⟩
    let state : State := { State.initial with
      cache := (∅ : Dict Template).insert "letter" ⟨1, "letter", .ofText ""⟩
      compiled := [(0, page), (1, letter)]
      templates := 2
      procedures := 4 }
    ∃ reported : Error, reported.name = some "letter" ∧ reported.kind = .templateNotFound ∧
      setting.RendersTo state ⟨0, "page", .ofText ""⟩ (.ok .null) (.error reported) := by
  intro second page letter setting state
  let outer : Rendering := ⟨⟨0, "page", .ofText ""⟩, .ok .null, state⟩
  let asked := state.note (.request "letter")
  let inner : Rendering := ⟨⟨1, "letter", .ofText ""⟩, .ok .null, asked⟩
  obtain ⟨lookups, blamed⟩ := innermost_blamed setting (.templateNotFound "lost")
  have includes : outer.Includes setting inner := by
    refine ⟨_, .root rfl ⟨0, rfl⟩ rfl, ?_⟩
    refine .head (.interpreted rfl _ _) ?_
    refine .head (.step ⟨0, rfl⟩ _) ?_
    refine .head (.callBlock rfl _ _ _) ?_
    refine .head (.interpreted rfl _ _) ?_
    refine .head (.callSuper rfl _ _ _) ?_
    refine .head (.native rfl _ _) ?_
    exact Step.embed_render ⟨0, rfl⟩ _
  have reaches : inner.Reaches setting (.fetch "lost" false, asked.note (.request "lost")) := by
    refine ⟨_, .root rfl ⟨0, rfl⟩ rfl, ?_⟩
    refine .head (.native rfl _ _) ?_
    exact .single (Step.embed_fetch _)
  have lost : setting.Fails (fun calls => setting.fetch calls "lost" false)
      (asked.note (.request "lost")) (.templateNotFound "lost") := by
    refine (lookups "lost" _).2 ⟨?_, rfl⟩
    intro template current
    cases current.1
  obtain ⟨reported, kind, -, -, name, reports⟩ :=
    blamed outer inner (.single includes) (.site reaches lost)
  exact ⟨reported, name, kind, (reports _).2 rfl⟩

end Stencil
