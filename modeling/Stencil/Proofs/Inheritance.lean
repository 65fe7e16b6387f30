import Stencil.Proofs.Interpreted
import Stencil.Proofs.Lineage

set_option autoImplicit false

namespace Stencil

theorem Context.of_ofData {name : Option String} {data : Data} {blocks : Blocks}
    {context : Context} (made : Context.ofData name data blocks = .ok context) :
    ∃ value bindings, data.toValue = .ok value ∧ value.toVariables = .ok bindings ∧
      context = ⟨name, bindings, blocks⟩ := by
  unfold Context.ofData at made
  cases converted : data.toValue with
  | error error =>
      rw [converted] at made
      cases made
  | ok value =>
      rw [converted] at made
      change (value.toVariables >>= fun bindings => Except.ok _) = _ at made
      cases bound : value.toVariables with
      | error error =>
          rw [bound] at made
          cases made
      | ok bindings =>
          rw [bound] at made
          cases made
          exact ⟨value, bindings, rfl, bound, rfl⟩

/-- Running the instructions outside of any block ends with the result, within some depth, where
errors are blamed on the name. -/
def Code.EvaluatesTo (code : Code) (setting : Setting) (state : State) (context : Context)
    (name : String) (result : Except Error String) : Prop :=
  ∃ level after, Run.blame name (Code.run setting (setting.calls level) (.outside context) code)
    state = some (result, after)

namespace Markup

theorem alike_of_bodies {codes : List Code} {stack other : List Procedure}
    (bodies : stack.map (·.body) = codes.map .code)
    (alsoBodies : other.map (·.body) = codes.map .code) :
    List.Forall₂ Procedure.Alike stack other := by
  induction codes generalizing stack other with
  | nil =>
      rw [List.map_nil, List.map_eq_nil_iff] at bodies alsoBodies
      rw [bodies, alsoBodies]
      exact .nil
  | cons code rest ih =>
      rw [List.map_cons] at bodies alsoBodies
      obtain ⟨procedure, behind, rfl, interpreted, bodies⟩ := List.map_eq_cons_iff.1 bodies
      obtain ⟨twin, others, rfl, alsoInterpreted, alsoBodies⟩ := List.map_eq_cons_iff.1 alsoBodies
      exact .cons ⟨code, interpreted, alsoInterpreted⟩ (ih bodies alsoBodies)

theorem Stacked.alike {docs : List Document} {blocks other : Blocks} (stacked : Stacked docs blocks)
    (alsoStacked : Stacked docs other) : blocks.Alike other :=
  fun name => alike_of_bodies (stacked name) (alsoStacked name)

/-- The form of a chain renders to what the root of the last document evaluates to. -/
theorem Flattens.render_agree {form : Compiled} {docs : List Document}
    (flattens : Flattens form docs) {last : Document} (same : docs.getLast? = some last)
    {blocks : Blocks} (stacked : Stacked docs blocks) (setting : Setting) (level : Nat)
    (name : String) {value : Value} {bindings : Dict Value}
    (converted : value.toVariables = .ok bindings) :
    Run.Agree Eq (form.render (setting.calls (level + 1)) name value)
      (Run.blame name (Code.run setting (setting.calls level)
        (.outside ⟨some name, bindings, blocks⟩) last.root)) := by
  obtain ⟨other, alsoLast, interpreted⟩ := flattens.root
  rw [same] at alsoLast
  cases alsoLast
  apply Run.Agree.blame
  rw [converted]
  change Run.Agree Eq (form.root.run setting (setting.calls level)
    (.outside ⟨some name, bindings, form.blocks⟩)) _
  simp only [Procedure.run, interpreted]
  apply Code.run_agree rfl (Setting.invoke_agree rfl level)
  exact Scope.alike_outside rfl (flattens.stacked.alike stacked)

/-- A text that is rendered for the first time renders to what the root of the last text of its
chain evaluates to. -/
theorem Lineage.render_iff {setting : Setting} {template : Template} {state : State}
    {docs : List Document} (known : setting.environment.compiler = some compiler)
    (lineage : Lineage setting state template.source.text docs)
    (unknown : state.compiledForm? template.id = none) {last : Document}
    (same : docs.getLast? = some last) {blocks : Blocks} (stacked : Stacked docs blocks)
    {data : Data} {context : Context}
    (made : Context.ofData (some template.name) data blocks = .ok context)
    (result : Except Error String) :
    setting.RendersTo state template data result ↔
      last.root.EvaluatesTo setting state context template.name result := by
  obtain ⟨value, bindings, converted, bound, rfl⟩ := Context.of_ofData made
  constructor
  · rintro ⟨level, after, rendered⟩
    let depth := max level docs.length
    obtain ⟨form, middle, found, -, flattens⟩ :=
      lineage.compiledForm known unknown (show docs.length ≤ depth + 1 by omega)
    have related := setting.calls_below (show level ≤ depth + 1 by omega)
    have deeper := Setting.render_related Run.below_lifts Scope.closed_true related setting template
      data state _ rendered
    rw [Setting.render_eq, converted, found] at deeper
    have agree := flattens.render_agree same stacked setting depth template.name bound
    obtain ⟨final, evaluated⟩ := (agree.result_iff middle state result).1 ⟨after, deeper⟩
    exact ⟨depth, final, evaluated⟩
  · rintro ⟨level, after, evaluated⟩
    let depth := max level docs.length
    obtain ⟨form, middle, found, -, flattens⟩ :=
      lineage.compiledForm known unknown (show docs.length ≤ depth + 1 by omega)
    have related := setting.calls_below (show level ≤ depth by omega)
    have deeper := Run.below_lifts.blame template.name (Code.run_related Run.below_lifts
      Scope.closed_true related setting _ trivial last.root) state _ evaluated
    have agree := flattens.render_agree same stacked setting depth template.name bound
    obtain ⟨final, rendered⟩ := (agree.result_iff middle state result).2 ⟨after, deeper⟩
    refine ⟨depth + 1, final, ?_⟩
    rw [Setting.render_eq, converted, found]
    exact rendered

theorem Stacked.of_bodiesOf {docs others : List Document} {blocks : Blocks}
    (stacked : Stacked docs blocks) (bodies : ∀ block, bodiesOf others block = bodiesOf docs block) :
    Stacked others blocks := by
  intro block
  rw [bodies]
  exact stacked block

/-- Chains with the same bodies and the same root at their end render the same, whatever else their
texts say. -/
theorem Lineage.render_iff_of_same_bodies {setting : Setting} {template twin : Template}
    {state : State} {docs others : List Document}
    (known : setting.environment.compiler = some compiler)
    (lineage : Lineage setting state template.source.text docs)
    (unknown : state.compiledForm? template.id = none)
    (alsoLineage : Lineage setting state twin.source.text others)
    (alsoUnknown : state.compiledForm? twin.id = none) (name : twin.name = template.name)
    (bodies : ∀ block, bodiesOf others block = bodiesOf docs block) {last : Document}
    (same : docs.getLast? = some last) {alsoLast : Document}
    (alsoSame : others.getLast? = some alsoLast) (root : alsoLast.root = last.root)
    {blocks : Blocks} (stacked : Stacked docs blocks) {data : Data} {context : Context}
    (made : Context.ofData (some template.name) data blocks = .ok context)
    (result : Except Error String) :
    setting.RendersTo state template data result ↔ setting.RendersTo state twin data result := by
  have alsoMade : Context.ofData (some twin.name) data blocks = .ok context := by
    rw [name]
    exact made
  have evaluates := lineage.render_iff known unknown same stacked made result
  have alsoEvaluates := alsoLineage.render_iff known alsoUnknown alsoSame
    (stacked.of_bodiesOf bodies) alsoMade result
  rw [root, name] at alsoEvaluates
  exact evaluates.trans alsoEvaluates.symm

/-- Compiling the first text of a chain succeeds and flattens the chain. Rendering it is evaluating
the root of the last text with the stacks of all of them, so that another chain with these bodies and
this root renders the same, whatever stands outside of its blocks; and `super` goes from each body to
the one that follows it in the chain. -/
theorem chains_flatten {setting : Setting} {template : Template} {state : State}
    {docs : List Document} (known : setting.environment.compiler = some compiler)
    (unknown : state.compiledForm? template.id = none)
    (lineage : Lineage setting state template.source.text docs) :
    (∀ level, docs.length ≤ level → ∃ form after,
      setting.compileTemplate (setting.calls level) template state = some (.ok (), after) ∧
      after.compiledForm? template.id = some form ∧ Flattens form docs) ∧
    ∀ blocks, Stacked docs blocks →
      (∀ last data context result, docs.getLast? = some last →
        Context.ofData (some template.name) data blocks = .ok context →
        (setting.RendersTo state template data result ↔
          last.root.EvaluatesTo setting state context template.name result) ∧
        ∀ twin others alsoLast, twin.name = template.name →
          Lineage setting state twin.source.text others →
          state.compiledForm? twin.id = none → others.getLast? = some alsoLast →
          alsoLast.root = last.root → (∀ block, bodiesOf others block = bodiesOf docs block) →
          (setting.RendersTo state template data result ↔
            setting.RendersTo state twin data result)) ∧
      ∀ newer doc older block front body behind, docs = newer ++ doc :: older →
        doc.bodiesOf block = front ++ body :: behind →
        let depth := (bodiesOf newer block).length + front.length
        ∃ procedure, procedure.body = .code body ∧
          (blocks.stack block)[depth]? = some procedure ∧
          ∀ context : Context, context.blocks = blocks →
            match nextBody behind older block with
            | some next => ∃ other, other.body = .code next ∧
              context.super ⟨block, depth, procedure⟩ = .ok ⟨block, depth + 1, other⟩
            | none => context.super ⟨block, depth, procedure⟩ = .error (.noSuperBlock block) := by
  constructor
  · intro level enough
    obtain ⟨form, after, found, kept, flattens⟩ := lineage.compiledForm known unknown enough
    refine ⟨form, after, ?_, kept, flattens⟩
    rw [Setting.compileTemplate_eq, found, Option.map_some]
  · intro blocks stacked
    constructor
    · intro last data context result same made
      constructor
      · exact lineage.render_iff known unknown same stacked made result
      · intro twin others alsoLast name alsoLineage alsoUnknown alsoSame root bodies
        exact lineage.render_iff_of_same_bodies known unknown alsoLineage alsoUnknown name bodies
          same alsoSame root stacked made result
    · intro newer doc older block front body behind chain written
      exact stacked.super chain written

/-- A text with a block, and one that extends it. -/
def basePage : String := "A\x7b% block b %\x7dx\x7b% endblock %\x7d"

def derivedPage : String :=
  "\x7b% extends \x22base\x22 %\x7dlost\x7b% block b %\x7dy\x7b\x7b super() \x7d\x7d\x7b% endblock %\x7d"

/-- An environment in which `base` is the text with the block. -/
def shelf : Setting :=
  ⟨⟨[.memory 0], some compiler, ∅, .assumeStale⟩, ⟨[Store.new.add "base" basePage], .empty, ∅⟩⟩

def baseDocument : Document := ⟨[.text "A", .block "b"], [("b", [.text "x"])], none⟩

def derivedDocument : Document :=
  ⟨[.text "lost", .block "b"], [("b", [.text "y", .super])], some "base"⟩

theorem pieces_basePage : pieces basePage.toList = [.text "A".toList,
    .tag .directive "block b".toList, .text "x".toList, .tag .directive "endblock".toList] := by
  decide +kernel

theorem pieces_derivedPage : pieces derivedPage.toList = [
    .tag .directive "extends \x22base\x22".toList, .text "lost".toList,
    .tag .directive "block b".toList, .text "y".toList, .tag .expression "super()".toList,
    .tag .directive "endblock".toList] := by
  decide +kernel

theorem lineage_derivedPage :
    Lineage shelf .initial derivedPage [derivedDocument, baseDocument] := by
  have base : Document.parse basePage = .ok baseDocument := by
    unfold Document.parse
    rw [pieces_basePage]
    rfl
  have derived : Document.parse derivedPage = .ok derivedDocument := by
    unfold Document.parse
    rw [pieces_derivedPage]
    rfl
  have alone : extended basePage = [] := by
    unfold extended
    rw [pieces_basePage]
    rfl
  have parent : (extended derivedPage).getLast? = some "base" := by
    unfold extended
    rw [pieces_derivedPage]
    rfl
  obtain ⟨template, after, offered, text⟩ : ∃ template after,
      shelf.fetch (shelf.calls 0) "base" false .initial = some (.ok template, after) ∧
      template.source.text = basePage := ⟨_, _, rfl, rfl⟩
  exact .child derived parent offered (.last (text ▸ base) (text ▸ alone))

/-- The derived page compiles to the chain of both, and renders without the text that stands outside
of its block. -/
theorem chains_flatten_derivedPage :
    let template : Template := ⟨0, "page", .ofText derivedPage⟩
    let docs := [derivedDocument, baseDocument]
    shelf.environment.compiler = some compiler ∧ State.initial.compiledForm? template.id = none ∧
    Lineage shelf .initial template.source.text docs ∧
    (∃ form after, shelf.compileTemplate (shelf.calls 2) template .initial = some (.ok (), after) ∧
      after.compiledForm? template.id = some form ∧ Flattens form docs) ∧
    shelf.RendersTo .initial template (.ok .null) (.ok "Ayx") := by
  intro template docs
  obtain ⟨compiles, evaluates⟩ :=
    @chains_flatten shelf template .initial docs rfl rfl lineage_derivedPage
  let blocks : Blocks :=
    .ofList [("b", [⟨0, .code [.text "y", .super]⟩, ⟨1, .code [.text "x"]⟩])]
  have stacked : Stacked docs blocks := by
    intro block
    by_cases same : block = "b"
    · rw [same]
      rfl
    · have absent : blocks.get? block = none := by
        change (Dict.insert ∅ "b" _).get? block = none
        rw [Dict.get?_insert, if_neg same, Dict.get?_empty]
      have other : ¬ "b" = block := Ne.symm same
      simp only [Blocks.stack, absent, docs, bodiesOf, Document.bodiesOf, derivedDocument,
        baseDocument, List.flatMap_cons, List.flatMap_nil, List.filter_cons, other, decide_false,
        Bool.false_eq_true, ↓reduceIte, List.filter_nil, List.map_nil, List.append_nil,
        Option.getD_none]
  obtain ⟨renders, -⟩ := evaluates blocks stacked
  refine ⟨rfl, rfl, lineage_derivedPage, compiles 2 (Nat.le_refl 2), ?_⟩
  obtain ⟨evaluates, -⟩ :=
    renders baseDocument (.ok .null) ⟨some "page", ∅, blocks⟩ (.ok "Ayx") rfl rfl
  exact evaluates.2 ⟨3, _, rfl⟩

end Markup

end Stencil
