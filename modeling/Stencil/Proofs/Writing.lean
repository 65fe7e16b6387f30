import Stencil.Proofs.Dependence
import Stencil.Proofs.Expressions
import Stencil.Proofs.Lineage
import Stencil.Proofs.Reports
import Stencil.Proofs.Scanning

set_option autoImplicit false

namespace Stencil

/-! ### Runs with one result -/

/-- The run ends with the result, whatever state it starts from. -/
def Run.Gives {α : Type} (run : Run α) (result : Except Error α) : Prop :=
  ∀ state, ∃ after, run state = some (result, after)

section Gives

variable {α β : Type}

theorem Run.gives_ofExcept (result : Except Error α) : (Run.ofExcept result).Gives result :=
  fun state => ⟨state, rfl⟩

theorem Run.Gives.bind {run : Run α} {result : Except Error α} {next : α → Run β}
    {final : α → Except Error β} (first : run.Gives result)
    (rest : ∀ value, (next value).Gives (final value)) : (run >>= next).Gives (result >>= final) := by
  intro state
  obtain ⟨middle, ended⟩ := first state
  cases result with
  | error error => exact ⟨middle, Run.bind_of_error next ended⟩
  | ok value =>
      rw [Run.bind_of_ok next ended]
      exact rest value middle

theorem Run.Gives.blame {run : Run α} {result : Except Error α} (gives : run.Gives result)
    (name : String) : (run.blame name).Gives (result.mapError (·.inTemplate name)) := by
  intro state
  obtain ⟨after, ended⟩ := gives state
  exact ⟨after, by rw [Run.blame, ended, Option.map_some]⟩

theorem Setting.applyFilter_gives (setting : Setting) (name : String) (value : Value)
    (args : List Value) : (setting.applyFilter name value args).Gives
      (Filters.apply setting.environment.filters name value args) := by
  intro state
  cases known : setting.environment.filters.get? name with
  | none =>
      rw [Setting.applyFilter_of_unknown known, Filters.apply_of_unknown known]
      exact ⟨state, rfl⟩
  | some filter =>
      rw [Setting.applyFilter_of_known known, Filters.apply_of_known known]
      exact ⟨_, rfl⟩

end Gives

namespace Markup

/-! ### Pages -/

/-- What may stand inside and outside of blocks. -/
inductive Inline where
  /-- A text without tags. -/
  | text (s : String) (plain : Plain s.toList := by decide)
  /-- A tag for a variable, with the filters it goes through. -/
  | expression (subject : Part) (filters : List Part)
      (ordinary : filters = [] → subject.name ≠ "super()" := by decide)

inductive Element where
  | inline (item : Inline)
  | block (title : Title) (body : List Inline)

def Element.block? : Element → Option (Title × List Inline)
  | .inline _ => none
  | .block title body => some (title, body)

/-- A page, in which no two blocks have the same name. -/
structure Page where
  elements : List Element
  distinct : ((elements.filterMap Element.block?).map (·.1.name)).Nodup := by decide

def Inline.write : Inline → List Char
  | .text s _ => s.toList
  | .expression subject filters _ => Tag.expression.write (subject.writeAll filters)

/-- An element as it is written. A block stands between the tags that open and close it. -/
def Element.write : Element → List Char
  | .inline item => item.write
  | .block title body =>
    Tag.directive.write title.opening ++ body.flatMap Inline.write ++ Tag.directive.write closing

def Page.text (page : Page) : String := String.ofList (page.elements.flatMap Element.write)

/-- What results put out, one after the other. The first that is an error counts alone. -/
def joined : List (Except Error String) → Except Error String
  | [] => .ok ""
  | result :: rest => do
    let first ← result
    let behind ← joined rest
    return first ++ behind

section Output

variable (filters : Filters) (bindings : Dict Value)

/-- What an item puts out: the text itself, or the variable after one filter upon the other. -/
def Inline.output : Inline → Except Error String
  | .text s _ => .ok s
  | .expression subject parts _ => do
    let value ← parts.foldlM (fun value part => Filters.apply filters part.name value [])
      (bindings.resolve subject.name)
    return value.output

def Element.output : Element → Except Error String
  | .inline item => item.output filters bindings
  | .block _ body => joined (body.map (Inline.output filters bindings))

def Page.output (page : Page) : Except Error String :=
  joined (page.elements.map (Element.output filters bindings))

end Output

/-! ### Reading a page -/

def textCode (cs : List Char) : Code := if cs.isEmpty then [] else [.text (String.ofList cs)]

/-- The instructions of elements behind a text, which becomes one with the texts that follow it. -/
def codeOf (pending : List Char) : List Element → Code
  | [] => textCode pending
  | .inline (.text s _) :: rest => codeOf (pending ++ s.toList) rest
  | .inline (.expression subject filters _) :: rest =>
    textCode pending ++ (subject.code filters ++ codeOf [] rest)
  | .block title _ :: rest => textCode pending ++ .block title.name :: codeOf [] rest

def bodyOf (block : Title × List Inline) : String × Code :=
  (block.1.name, codeOf [] (block.2.map .inline))

/-- The document that a page is read as. -/
def Page.document (page : Page) : Document :=
  ⟨codeOf [] page.elements, (page.elements.filterMap Element.block?).map bodyOf, none⟩

namespace Reading

theorem emit_nil (reading : Reading) : reading.emit [] = reading := by
  obtain ⟨root, blocks, _ | ⟨name, body⟩, parent⟩ := reading <;> rfl

theorem emit_emit (reading : Reading) (first second : Code) :
    (reading.emit first).emit second = reading.emit (first ++ second) := by
  obtain ⟨root, blocks, _ | ⟨name, body⟩, parent⟩ := reading <;>
    simp [emit, List.reverse_append, List.append_assoc]

theorem foldlM_textPiece (reading : Reading) (cs : List Char) :
    (textPiece cs).foldlM read reading = .ok (reading.emit (textCode cs)) := by
  unfold textPiece textCode
  split
  · rw [emit_nil]
    rfl
  · rfl

theorem read_directive (reading : Reading) (inside : List Char) :
    reading.read (.tag .directive inside) = reading.follow (.ofWords (Text.words inside)) := rfl

/-- What is read up to a tag, the tag, and what is behind it. -/
theorem foldlM_write {cs : List Char} (passed : Passed cs) {tag : Tag} {inside : List Char}
    (inner : tag.closing ∉ inside) (rest : List Char) (reading : Reading) :
    (pieces (cs ++ tag.write inside ++ rest)).foldlM read reading =
      (reading.emit (textCode cs)).read (.tag tag (Text.trim inside)) >>=
        (pieces rest).foldlM read := by
  rw [pieces_write passed inner, List.foldlM_append, foldlM_textPiece]
  rfl

/-- A variable in a tag is read as its instructions. -/
theorem foldlM_expression {cs : List Char} (passed : Passed cs) {subject : Part}
    {filters : List Part} (ordinary : filters = [] → subject.name ≠ "super()") (rest : List Char)
    (reading : Reading) :
    (pieces (cs ++ Tag.expression.write (subject.writeAll filters) ++ rest)).foldlM read reading =
      (pieces rest).foldlM read (reading.emit (textCode cs ++ subject.code filters)) := by
  rw [foldlM_write passed (subject.unclosed_writeAll filters), ← emit_emit,
    ← Part.expressionCode_writeAll ordinary]
  rfl

/-- Items up to a directive are read as their instructions. -/
theorem foldlM_inlines (body : List Inline) {pending : List Char} (passed : Passed pending)
    {inside : List Char} (inner : '%' ∉ inside) (rest : List Char) (reading : Reading) :
    (pieces (pending ++ body.flatMap Inline.write ++ (Tag.directive.write inside ++ rest))).foldlM
        read reading =
      (reading.emit (codeOf pending (body.map .inline))).read (.tag .directive (Text.trim inside)) >>=
        (pieces rest).foldlM read := by
  induction body generalizing pending reading with
  | nil =>
      rw [List.flatMap_nil, List.append_nil, ← List.append_assoc]
      exact foldlM_write passed inner rest reading
  | cons item body ih =>
      rw [List.flatMap_cons]
      cases item with
      | text s plain =>
          have longer := ih (passed.append plain.passed) reading
          rw [← List.append_assoc pending]
          exact longer
      | expression subject filters ordinary =>
          have split : pending ++ (Inline.write (.expression subject filters ordinary) ++
              body.flatMap Inline.write) ++ (Tag.directive.write inside ++ rest) =
              pending ++ Tag.expression.write (subject.writeAll filters) ++
                ([] ++ body.flatMap Inline.write ++ (Tag.directive.write inside ++ rest)) := by
            simp only [Inline.write, List.append_assoc, List.nil_append]
          rw [split, foldlM_expression passed ordinary, ih passed_nil, emit_emit, List.append_assoc]
          rfl

/-- A block is read as a call of it where it stands, and its instructions come behind the blocks that
were read before. -/
theorem foldlM_block {pending : List Char} (passed : Passed pending) (title : Title)
    (body : List Inline) (rest : List Char) (root : Code) (blocks : List (String × Code))
    (parent : Option String) :
    (pieces (pending ++ Element.write (.block title body) ++ rest)).foldlM read
        ⟨root, blocks, none, parent⟩ =
      (pieces rest).foldlM read ⟨.block title.name :: ((textCode pending).reverse ++ root),
        bodyOf (title, body) :: blocks, none, parent⟩ := by
  let opened : Reading := ⟨.block title.name :: ((textCode pending).reverse ++ root), blocks,
    some (title.name, []), parent⟩
  have split : pending ++ Element.write (.block title body) ++ rest =
      pending ++ Tag.directive.write title.opening ++
        ([] ++ body.flatMap Inline.write ++ (Tag.directive.write closing ++ rest)) := by
    simp only [Element.write, List.append_assoc, List.nil_append]
  have opens : (emit ⟨root, blocks, none, parent⟩ (textCode pending)).read
      (.tag .directive (Text.trim title.opening)) = .ok opened := by
    rw [read_directive, title.ofWords_opening]
    rfl
  have closes (code : Code) : (opened.emit code).read (.tag .directive (Text.trim closing)) =
      .ok ⟨opened.root, (title.name, code) :: blocks, none, parent⟩ := by
    rw [read_directive, ofWords_closing]
    change Except.ok (Reading.mk _ ((_, (code.reverse ++ []).reverse) :: _) _ _) = _
    rw [List.append_nil, List.reverse_reverse]
    rfl
  rw [split, foldlM_write passed title.unclosed_opening, opens]
  change (pieces _).foldlM read opened = _
  rw [foldlM_inlines body passed_nil (by decide), closes]
  rfl

/-- Elements are read outside of blocks as their instructions, and their blocks come behind those that
were read before. -/
theorem foldlM_elements (elements : List Element) {pending : List Char} (passed : Passed pending)
    (root : Code) (blocks : List (String × Code)) (parent : Option String) :
    (pieces (pending ++ elements.flatMap Element.write)).foldlM read ⟨root, blocks, none, parent⟩ =
      .ok ⟨(codeOf pending elements).reverse ++ root,
        ((elements.filterMap Element.block?).map bodyOf).reverse ++ blocks, none, parent⟩ := by
  induction elements generalizing pending root blocks with
  | nil =>
      rw [List.flatMap_nil, List.append_nil, pieces_of_passed passed]
      exact foldlM_textPiece _ pending
  | cons element elements ih =>
      rw [List.flatMap_cons, ← List.append_assoc]
      cases element with
      | inline item =>
          cases item with
          | text s plain => exact ih (passed.append plain.passed) root blocks
          | expression subject filters ordinary =>
              refine (foldlM_expression passed ordinary _ _).trans ?_
              refine (ih passed_nil _ blocks).trans ?_
              simp [codeOf, List.filterMap_cons, Element.block?]
      | block title body =>
          rw [foldlM_block passed]
          refine (ih passed_nil _ _).trans ?_
          simp [codeOf, Element.block?]

end Reading

/-- Reading undoes writing. -/
theorem Page.parse_text (page : Page) : Document.parse page.text = .ok page.document := by
  have read := Reading.foldlM_elements page.elements passed_nil [] [] none
  unfold Document.parse Page.text
  rw [String.toList_ofList]
  change ((pieces ([] ++ page.elements.flatMap Element.write)).foldlM Reading.read
    ⟨[], [], none, none⟩ >>= _) = _
  rw [read]
  simp [bind, Except.bind, Reading.finish, Page.document]

theorem Page.extended_text (page : Page) : extended page.text = [] := by
  have parent := Document.parse_parent page.parse_text
  exact List.getLast?_eq_none_iff.1 parent.symm

/-- Of entries with different names, one has the name of one of them. -/
theorem filter_of_distinct {α : Type} {entries : List (String × α)}
    (distinct : (entries.map (·.1)).Nodup) {entry : String × α} (member : entry ∈ entries) :
    entries.filter (·.1 = entry.1) = [entry] := by
  induction entries with
  | nil => cases member
  | cons first rest ih =>
      obtain ⟨new, others⟩ := List.nodup_cons.1 distinct
      change first.1 ∉ rest.map (·.1) at new
      rcases List.mem_cons.1 member with rfl | later
      · have alone : rest.filter (·.1 = entry.1) = [] := by
          apply List.filter_eq_nil_iff.2
          intro other mem same
          exact new (List.mem_map.2 ⟨other, mem, by simpa using same⟩)
        rw [List.filter_cons_of_pos (by simp), alone]
      · have differs : first.1 ≠ entry.1 := by
          intro same
          rw [same] at new
          exact new (List.mem_map_of_mem later)
        rw [List.filter_cons_of_neg (by simpa using differs), ih others later]

/-- The bodies of a block of a page are the one that is written there. -/
theorem Page.bodiesOf_document (page : Page) {title : Title} {body : List Inline}
    (member : .block title body ∈ page.elements) :
    bodiesOf [page.document] title.name = [codeOf [] (body.map .inline)] := by
  have names : page.document.blocks.map (·.1) =
      (page.elements.filterMap Element.block?).map (·.1.name) := List.map_map
  have here : bodyOf (title, body) ∈ page.document.blocks :=
    List.mem_map_of_mem (List.mem_filterMap.2 ⟨_, member, rfl⟩)
  have alone := filter_of_distinct (names ▸ page.distinct) here
  change page.document.blocks.filter (·.1 = title.name) = _ at alone
  rw [bodiesOf, List.flatMap_singleton, Document.bodiesOf, alone]
  rfl

/-! ### Running what was read -/

/-- What comes after results is done with the output of the first and that of the others. -/
theorem joined_cons_bind {α : Type} (result : Except Error String)
    (rest : List (Except Error String)) (next : String → Except Error α) :
    joined (result :: rest) >>= next =
      result >>= fun first => joined rest >>= fun behind => next (first ++ behind) := by
  simp only [joined, bind_assoc, pure_bind]

section Running

variable (setting : Setting) (calls : Calls) (scope : Scope)

theorem runFrom_textCode (cs : List Char) (rest : Code) (output : String) :
    Code.runFrom setting calls scope ⟨[], output⟩ (textCode cs ++ rest) =
      Code.runFrom setting calls scope ⟨[], output ++ String.ofList cs⟩ rest := by
  unfold textCode
  split
  · rename_i empty
    rw [List.isEmpty_iff.1 empty, String.ofList_nil, String.append_empty]
    rfl
  · rfl

/-- One filter is applied upon the other, and what is behind them goes on with the value. -/
theorem runFrom_filters {rest : Code} {output : String} {final : Value → Except Error Machine}
    (next : ∀ value, (Code.runFrom setting calls scope ⟨[value], output⟩ rest).Gives (final value))
    (parts : List Part) (value : Value) :
    (Code.runFrom setting calls scope ⟨[value], output⟩
      (parts.map (fun part => .filter part.name 0) ++ rest)).Gives
      (parts.foldlM (fun value part =>
        Filters.apply setting.environment.filters part.name value []) value >>= final) := by
  induction parts generalizing value with
  | nil => exact next value
  | cons part parts ih =>
      have applied := Op.run_filter setting calls scope part.name value [] [] output
      change ((Op.filter part.name 0).run setting calls scope ⟨[value], output⟩ >>= _).Gives _
      rw [List.foldlM_cons, bind_assoc]
      change (Op.filter part.name 0).run setting calls scope ⟨[value], output⟩ = _ at applied
      rw [applied, bind_assoc]
      exact (setting.applyFilter_gives part.name value []).bind ih

theorem runFrom_expression {rest : Code} {output : String} {final : String → Except Error Machine}
    {subject : Part} {parts : List Part} (ordinary : parts = [] → subject.name ≠ "super()")
    (next : ∀ more, (Code.runFrom setting calls scope ⟨[], output ++ more⟩ rest).Gives (final more)) :
    (Code.runFrom setting calls scope ⟨[], output⟩ (subject.code parts ++ rest)).Gives
      (Inline.output setting.environment.filters scope.context.bindings
        (.expression subject parts ordinary) >>= final) := by
  have emitted : ∀ value, (Code.runFrom setting calls scope ⟨[value], output⟩ (.emit :: rest)).Gives
      (final value.output) := by
    intro value
    rw [Code.runFrom_emit]
    exact next value.output
  have filtered := runFrom_filters setting calls scope emitted parts
    (scope.context.bindings.resolve subject.name)
  unfold Inline.output Part.code
  rw [bind_assoc, List.cons_append, List.cons_append, List.append_assoc]
  exact filtered

/-- The instructions of elements put out what the elements do, if each block does. -/
theorem runFrom_codeOf {elements : List Element}
    (blocks : ∀ title body, .block title body ∈ elements →
      (scope.renderBlock calls title.name).Gives
        (Element.output setting.environment.filters scope.context.bindings (.block title body)))
    (pending : List Char) (output : String) :
    (Code.runFrom setting calls scope ⟨[], output⟩ (codeOf pending elements)).Gives (do
      let more ← joined (elements.map
        (Element.output setting.environment.filters scope.context.bindings))
      return ⟨[], output ++ String.ofList pending ++ more⟩) := by
  induction elements generalizing pending output with
  | nil =>
      have ended := runFrom_textCode setting calls scope pending [] output
      rw [List.append_nil] at ended
      rw [codeOf, ended]
      change Run.Gives (Run.ofExcept (.ok (Machine.mk [] _))) (.ok (Machine.mk [] (_ ++ "")))
      rw [String.append_empty]
      exact Run.gives_ofExcept _
  | cons element elements ih =>
      have later := fun title body member => blocks title body (List.mem_cons_of_mem element member)
      rw [List.map_cons, joined_cons_bind]
      -- All but texts end the pending text, and what is behind them starts without one.
      have behind (more : String) :
          (Code.runFrom setting calls scope ⟨[], output ++ String.ofList pending ++ more⟩
            (codeOf [] elements)).Gives (do
              let others ← joined (elements.map
                (Element.output setting.environment.filters scope.context.bindings))
              return ⟨[], output ++ String.ofList pending ++ (more ++ others)⟩) := by
        have rest := ih later [] (output ++ String.ofList pending ++ more)
        simp only [String.ofList_nil, String.append_empty] at rest
        simp only [String.append_assoc] at rest ⊢
        exact rest
      cases element with
      | inline item =>
          cases item with
          | text s plain =>
              have longer := ih later (pending ++ s.toList) output
              simp only [String.ofList_append, String.ofList_toList, String.append_assoc] at longer ⊢
              exact longer
          | expression subject parts ordinary =>
              rw [codeOf, runFrom_textCode]
              exact runFrom_expression setting calls scope ordinary behind
      | block title body =>
          rw [codeOf, runFrom_textCode]
          change ((scope.renderBlock calls title.name >>= fun more => _) >>= _).Gives _
          rw [bind_assoc]
          exact (blocks title body List.mem_cons_self).bind behind

/-- The output of the instructions of elements is that of the elements. -/
theorem run_codeOf {elements : List Element}
    (blocks : ∀ title body, .block title body ∈ elements →
      (scope.renderBlock calls title.name).Gives
        (Element.output setting.environment.filters scope.context.bindings (.block title body))) :
    (Code.run setting calls scope (codeOf [] elements)).Gives
      (joined (elements.map
        (Element.output setting.environment.filters scope.context.bindings))) := by
  have ran := (runFrom_codeOf setting calls scope blocks [] "").bind
    fun machine => Run.gives_ofExcept (.ok machine.output)
  have put : (String.ofList [] : String) = "" := String.ofList_nil
  simp only [put, bind_assoc, pure_bind, String.empty_append] at ran
  exact (bind_pure _ : joined _ >>= Pure.pure = _) ▸ ran

end Running

variable (page : Page) (setting : Setting)

/-- Where the bodies of a page stand, rendering a block puts out what stands in the block. -/
theorem Page.renderBlock_gives {context : Context} (stacked : Stacked [page.document] context.blocks)
    (level : Nat) {title : Title} {body : List Inline} (member : .block title body ∈ page.elements) :
    ((Scope.outside context).renderBlock (setting.calls (level + 1)) title.name).Gives
      (Element.output setting.environment.filters context.bindings (.block title body)) := by
  have bodies := stacked title.name
  rw [page.bodiesOf_document member] at bodies
  obtain ⟨procedure, alone, interpreted⟩ := List.map_eq_singleton_iff.1 bodies
  have found : context.block title.name = .ok ⟨title.name, 0, procedure⟩ := by
    rw [Context.block_eq, alone]
  have ran : (Code.run setting (setting.calls level) (.inside context ⟨title.name, 0, procedure⟩)
      (codeOf [] (body.map .inline))).Gives (joined ((body.map .inline).map
        (Element.output setting.environment.filters context.bindings))) := by
    apply run_codeOf
    intro other inner nested
    obtain ⟨item, -, impossible⟩ := List.mem_map.1 nested
    cases impossible
  rw [List.map_map] at ran
  change (Run.ofExcept (context.block title.name) >>= fun block => _).Gives _
  rw [found]
  change (procedure.run setting (setting.calls level) _).Gives _
  unfold Procedure.run
  rw [interpreted]
  exact ran

/-- The form of a page renders to what the page puts out. -/
theorem Page.form_gives {form : Compiled} (flattens : Flattens form [page.document]) (name : String)
    {value : Value} {bindings : Dict Value} (converted : value.toVariables = .ok bindings)
    {level : Nat} (enough : 2 ≤ level) :
    (form.render (setting.calls level) name value).Gives
      ((page.output setting.environment.filters bindings).mapError (·.inTemplate name)) := by
  obtain ⟨lower, rfl⟩ : ∃ lower, level = lower + 2 := ⟨level - 2, by omega⟩
  obtain ⟨last, same, interpreted⟩ := flattens.root
  obtain rfl : page.document = last := Option.some.inj same
  let context : Context := ⟨some name, bindings, form.blocks⟩
  have ran : (Code.run setting (setting.calls (lower + 1)) (.outside context)
      (codeOf [] page.elements)).Gives (page.output setting.environment.filters bindings) :=
    run_codeOf setting (setting.calls (lower + 1)) (.outside context) fun _ _ member =>
      page.renderBlock_gives setting flattens.stacked lower member
  unfold Compiled.render
  rw [converted]
  apply Run.Gives.blame
  change (form.root.run setting (setting.calls (lower + 1)) (.outside context)).Gives _
  unfold Procedure.run
  rw [interpreted]
  exact ran

/-- Rendering the template in the state ends with what the page puts out, for all data that makes up
variables. An error is blamed on the template. -/
def Page.Renders (page : Page) (setting : Setting) (template : Template) (state : State) : Prop :=
  ∀ (data : Data) (bindings : Dict Value), data.Binds bindings → ∀ level, 2 ≤ level → ∃ final,
    setting.render (setting.calls level) template data state =
      some ((page.output setting.environment.filters bindings).mapError (·.inTemplate template.name),
        final)

theorem Page.renders_of_kept {page : Page} {form : Compiled} {template : Template} {state : State}
    (flattens : Flattens form [page.document]) (kept : state.compiledForm? template.id = some form)
    (setting : Setting) : page.Renders setting template state := by
  rintro data bindings ⟨value, converts, bound⟩ level enough
  obtain ⟨final, rendered⟩ := page.form_gives setting flattens template.name bound enough state
  refine ⟨final, ?_⟩
  rw [Setting.render_eq, converts, Setting.compiledForm_of_some kept]
  exact rendered

/-- Compiling a page that was written out succeeds, and rendering it puts out its texts as they are,
the variables after their filters, and the blocks in their places, one after the other. Should a
filter be unknown or fail, the error of the first such application is all that comes out. This holds
of the form once it is kept, wherever it is rendered, and of the first rendering. -/
theorem page_renders_as_written (page : Page) {setting : Setting} {template : Template}
    {state : State} (known : setting.environment.compiler = some compiler)
    (unknown : state.compiledForm? template.id = none)
    (written : template.source.text = page.text) :
    (∀ level, 1 ≤ level → ∃ form after,
      setting.compileTemplate (setting.calls level) template state = some (.ok (), after) ∧
      after.compiledForm? template.id = some form ∧
      ∀ (renderer : Setting) (before : State), before.compiledForm? template.id = some form →
        page.Renders renderer template before) ∧
    page.Renders setting template state := by
  have lineage : Lineage setting state template.source.text [page.document] := by
    rw [written]
    exact .last page.parse_text page.extended_text
  have compiles : ∀ level, 1 ≤ level → ∃ form after,
      setting.compileTemplate (setting.calls level) template state = some (.ok (), after) ∧
      after.compiledForm? template.id = some form ∧ Flattens form [page.document] := by
    intro level enough
    obtain ⟨form, after, found, kept, flattens⟩ := lineage.compiledForm known unknown enough
    exact ⟨form, after, by rw [Setting.compileTemplate_eq, found, Option.map_some], kept, flattens⟩
  constructor
  · intro level enough
    obtain ⟨form, after, compiled, kept, flattens⟩ := compiles level enough
    exact ⟨form, after, compiled, kept,
      fun renderer before same => Page.renders_of_kept flattens same renderer⟩
  · rintro data bindings ⟨value, converts, bound⟩ level enough
    obtain ⟨form, after, compiled, kept, flattens⟩ := compiles level (by omega)
    obtain ⟨final, rendered⟩ :=
      Page.renders_of_kept flattens kept setting data bindings ⟨value, converts, bound⟩ level enough
    refine ⟨final, ?_⟩
    rw [Setting.render_eq_compile_render converts, Run.bind_of_ok _ compiled]
    exact rendered

/-- A page with a brace and a percent sign that open nothing, white space in its tags, and a block. -/
def mixedPage : Page where
  elements := [
    .inline (.text "é\x7b\x09% "),
    .inline (.expression (.mk ['\n'] "user" [' ', ' '])
      [.mk [] "shout" ['\t'], .mk [' '] "shout" []]),
    .inline (.text "\x7d"),
    .block (.mk "body") [.text "", .expression (.mk [] "" []) [], .text "→", .text "\n",
      .expression (.mk [] "user" []) [.mk [] "refuse" []]],
    .inline (.text "!")]

/-- The page puts out its parts in order, as long as its filters are known and do not fail. Of two
that do not work, the first counts. -/
theorem page_renders_as_written_mixed :
    let shout : Filter := ⟨fun value _ => .ok (.string (value.output ++ "!"))⟩
    let quote : Filter := ⟨fun value _ => .ok (.array [value])⟩
    let setting : Setting := ⟨⟨[], some compiler, .ofList [("refuse", quote), ("shout", shout)],
      .assumeStale⟩, .empty⟩
    let failing : Filter := ⟨fun _ _ => .error (.new .invalidOperation "refused")⟩
    let renderer : Setting := ⟨⟨[], none, .ofList [("refuse", failing), ("shout", shout)],
      .assumeStale⟩, .empty⟩
    let bare : Setting := ⟨⟨[], none, ∅, .assumeStale⟩, .empty⟩
    let template : Template := ⟨0, "page", .ofText mixedPage.text⟩
    let data : Data := .ok (.object (.ofList [("user", .string "Ü")]))
    mixedPage.text = "é\x7b\x09% \x7b\x7b\nuser  |shout\x09| shout\x7d\x7d\x7d" ++
      "\x7b% block body %\x7d\x7b\x7b\x7d\x7d→\n\x7b\x7buser|refuse\x7d\x7d\x7b% endblock %\x7d!" ∧
    ∃ after,
      setting.compileTemplate (setting.calls 1) template .initial = some (.ok (), after) ∧
      (∃ final, setting.render (setting.calls 2) template data .initial =
        some (.ok "é\x7b\x09% Ü!!\x7d→\n[\x22Ü\x22]!", final)) ∧
      (∃ final, renderer.render (renderer.calls 2) template data after =
        some (.error ((Error.new .invalidOperation "refused").inTemplate "page"), final)) ∧
      ∃ final, bare.render (bare.calls 2) template data after =
        some (.error ((Error.unknownFilter "shout").inTemplate "page"), final) := by
  intro shout quote setting failing renderer bare template data
  have binds : data.Binds (.ofList [("user", .string "Ü")]) := ⟨_, rfl, rfl⟩
  obtain ⟨compiles, renders⟩ :=
    @page_renders_as_written mixedPage setting template .initial rfl rfl rfl
  obtain ⟨form, after, compiled, kept, elsewhere⟩ := compiles 1 (Nat.le_refl 1)
  have ordered : "refuse" < "shout" := by decide
  refine ⟨by decide +kernel, after, compiled, ?_, ?_, ?_⟩
  · obtain ⟨final, rendered⟩ := renders data _ binds 2 (Nat.le_refl 2)
    refine ⟨final, rendered.trans ?_⟩
    simp only [setting, Dict.ofList_pair ordered]
    rfl
  · obtain ⟨final, rendered⟩ := elsewhere renderer after kept data _ binds 2 (Nat.le_refl 2)
    refine ⟨final, rendered.trans ?_⟩
    simp only [renderer, Dict.ofList_pair ordered]
    rfl
  · exact elsewhere bare after kept data _ binds 2 (Nat.le_refl 2)

end Markup

end Stencil
