import DebugAdapter.Proofs.Console.Spelling
import DebugAdapter.Proofs.Session.Reports

/-!
# Expressions and commands

A request for the value of an expression is handed to the debuggee, unless it comes from the
console and is a command there. Of the commands one turns the notice of an execution's end on
and off, and one sets the pattern of the errors to trap; what they were told last holds
(`expressions_and_commands`).
-/

namespace DebugAdapter

open ConsoleCommand (Spells)

def Call.isEvaluate : Call → Bool
  | .evaluate .. => true
  | _ => false

namespace ConsoleCommand

def switch? : ConsoleCommand → Option Bool
  | .notifyEnd (some "on") => some true
  | .notifyEnd (some "off") => some false
  | _ => none

def filter? : ConsoleCommand → Option String
  | .setError pattern => if (Pattern.rejection? pattern).isNone then some pattern else none
  | _ => none

end ConsoleCommand

namespace Request

def text? (r : Request) (name : String) : Option String := (r.arguments.get? name).bind Json.asStr?

def FromConsole (r : Request) : Prop :=
  ∃ context, r.text? "context" = some context ∧ Text.trim context = "repl"

def HasExpression (r : Request) (expression : String) : Prop :=
  expression ≠ "" ∧ (∃ text, r.text? "expression" = some text ∧ Text.trim text = expression) ∧
    (¬r.FromConsole ∨ expression.toList.head? ≠ some '!')

def HasCommand (r : Request) (word argument : String) : Prop :=
  r.FromConsole ∧
    ∃ text, r.text? "expression" = some text ∧ Spells text.toList word.toList argument.toList

def command? (r : Request) : Option ConsoleCommand :=
  (r.str? "expression").bind (SessionState.consoleCommand? r)

/-- The call that the expression of a request leads to, if it has one that is no command. -/
def evaluation? (r : Request) : Option Call :=
  if r.command?.isSome then none
  else (r.str? "expression").map fun expression =>
    .evaluate expression ((r.int? "frameId").getD 0).toNat

def switch? (r : Request) : Option Bool := r.command?.bind ConsoleCommand.switch?

def filter? (r : Request) : Option String := r.command?.bind ConsoleCommand.filter?

def consoleCalls (r : Request) : List Call :=
  r.evaluation?.toList ++ r.filter?.toList.map .setErrorFilter

end Request

-- ---------------------------------------------------------------------------
-- Requests
-- ---------------------------------------------------------------------------

theorem ConsoleCommand.execute_effect (command : ConsoleCommand) (d : Debuggee) (notify : Bool) :
    (command.execute d notify).notifyEnd = command.switch?.getD notify ∧
      (command.execute d notify).calls = command.filter?.toList.map .setErrorFilter := by
  cases command with
  | setError pattern =>
    simp only [execute, setErrorFilter, switch?, filter?]
    cases Pattern.rejection? pattern <;> exact ⟨rfl, rfl⟩
  | notifyEnd argument =>
    simp only [execute, setNotify]
    split
    · exact ⟨rfl, rfl⟩
    · exact ⟨rfl, rfl⟩
    · rename_i other notOn notOff
      have silent : switch? (.notifyEnd (some other)) = none := by
        unfold switch?
        split <;> simp_all
      rw [silent]
      exact ⟨rfl, rfl⟩
    · exact ⟨rfl, rfl⟩
  | _ => exact ⟨rfl, rfl⟩

theorem ConsoleCommand.switch?_eq_some {command : ConsoleCommand} :
    command.switch? = some b ↔ command = .notifyEnd (some (if b then "on" else "off")) := by
  constructor
  · intro h
    unfold switch? at h
    split at h <;> cases h <;> rfl
  · rintro rfl
    cases b <;> rfl

theorem ConsoleCommand.filter?_eq_some {command : ConsoleCommand} :
    command.filter? = some pattern ↔
      command = .setError pattern ∧ Pattern.rejection? pattern = none := by
  cases command with
  | setError given =>
    simp only [filter?, Option.ite_none_right_eq_some, Option.isNone_iff_eq_none,
      Option.some.injEq, setError.injEq]
    constructor
    · rintro ⟨compiles, rfl⟩
      exact ⟨rfl, compiles⟩
    · rintro ⟨rfl, compiles⟩
      exact ⟨compiles, rfl⟩
  | _ => simp [filter?]

theorem parse?_trim_isSome (text : String) : (ConsoleCommand.parse? (Text.trim text)).isSome ↔
    (Text.trim text).toList.head? = some '!' := by
  have kept := Text.dropBlanks_eq_self_iff.mpr (Text.isTrimmed_trimChars text.toList).head
  rw [ConsoleCommand.parse?_isSome, Text.trim, String.toList_ofList, kept]

theorem spells_trim {text : String} {word argument : List Char} :
    Spells (Text.trim text).toList word argument ↔ Spells text.toList word argument := by
  rw [Text.trim, String.toList_ofList, ConsoleCommand.spells_trimChars]

namespace Request

variable {r : Request}

theorem str?_eq_some : r.str? name = some t ↔
    t ≠ "" ∧ ∃ text, r.text? name = some text ∧ Text.trim text = t := by
  have given : r.str? name = (r.text? name).bind Text.trimmed? := rfl
  simp only [given, Option.bind_eq_some_iff, Text.trimmed?_eq, Option.filter_eq_some_iff,
    Option.some.injEq, decide_eq_true_eq]
  constructor
  · rintro ⟨text, found, same, visible⟩
    exact ⟨visible, text, found, same⟩
  · rintro ⟨visible, text, found, same⟩
    exact ⟨text, found, same, visible⟩

theorem str?_context_iff : r.str? "context" = some "repl" ↔ r.FromConsole := by
  rw [str?_eq_some, FromConsole]
  exact and_iff_right (by decide)

theorem command?_eq_some : r.command? = some typed ↔ r.FromConsole ∧
    ∃ expression, r.str? "expression" = some expression ∧
      ConsoleCommand.parse? expression = some typed := by
  simp only [command?, Option.bind_eq_some_iff, SessionState.consoleCommand?, str?_context_iff,
    Option.ite_none_right_eq_some]
  constructor
  · rintro ⟨expression, given, console, parses⟩
    exact ⟨console, expression, given, parses⟩
  · rintro ⟨console, expression, given, parses⟩
    exact ⟨expression, given, console, parses⟩

/-- What is typed into the console is not empty, so it does not matter that it is trimmed. -/
theorem hasCommand_iff : r.HasCommand word argument ↔ r.FromConsole ∧
    ∃ expression, r.str? "expression" = some expression ∧
      Spells expression.toList word.toList argument.toList := by
  refine and_congr_right fun _ => ⟨?_, ?_⟩
  · rintro ⟨text, given, spells⟩
    have trimmed := spells_trim.mpr spells
    refine ⟨Text.trim text, str?_eq_some.mpr ⟨fun empty => ?_, text, given, rfl⟩, trimmed⟩
    rw [empty] at trimmed
    have starts := ConsoleCommand.exists_spells.mp ⟨_, _, trimmed⟩
    cases starts
  · rintro ⟨expression, given, spells⟩
    obtain ⟨-, text, found, rfl⟩ := str?_eq_some.mp given
    exact ⟨text, found, spells_trim.mp spells⟩

theorem switch?_eq_some :
    r.switch? = some b ↔ r.HasCommand "execendnotify" (if b then "on" else "off") := by
  simp only [switch?, Option.bind_eq_some_iff, ConsoleCommand.switch?_eq_some, exists_eq_right,
    command?_eq_some, ConsoleCommand.parse?_eq_notifyEnd, hasCommand_iff]
  have given : (if b then "on" else "off") ≠ "" := by cases b <;> decide
  simp [given]

theorem filter?_eq_some : r.filter? = some pattern ↔
    r.HasCommand "seterror" pattern ∧ Pattern.rejection? pattern = none := by
  simp only [filter?, Option.bind_eq_some_iff, ConsoleCommand.filter?_eq_some, hasCommand_iff]
  constructor
  · rintro ⟨typed, asked, rfl, compiles⟩
    refine ⟨?_, compiles⟩
    simpa only [command?_eq_some, ConsoleCommand.parse?_eq_setError] using asked
  · rintro ⟨asked, compiles⟩
    refine ⟨_, ?_, rfl, compiles⟩
    simpa only [command?_eq_some, ConsoleCommand.parse?_eq_setError] using asked

theorem command?_isSome (given : r.str? "expression" = some expression) :
    r.command?.isSome ↔ r.FromConsole ∧ expression.toList.head? = some '!' := by
  obtain ⟨-, text, -, rfl⟩ := str?_eq_some.mp given
  rw [← parse?_trim_isSome, ← str?_context_iff, command?, given, Option.bind_some,
    SessionState.consoleCommand?]
  split <;> simp_all

theorem evaluation?_eq_some : r.evaluation? = some (.evaluate expression frame) ↔
    r.HasExpression expression ∧ frame = ((r.int? "frameId").getD 0).toNat := by
  rw [evaluation?, Option.ite_none_left_eq_some, Option.map_eq_some_iff]
  constructor
  · rintro ⟨other, _, given, ⟨⟩⟩
    rw [command?_isSome given, not_and_or] at other
    obtain ⟨visible, found⟩ := str?_eq_some.mp given
    exact ⟨⟨visible, found, other⟩, rfl⟩
  · rintro ⟨⟨visible, found, other⟩, rfl⟩
    have given := str?_eq_some.mpr ⟨visible, found⟩
    rw [← not_and_or, ← command?_isSome given] at other
    exact ⟨other, expression, given, rfl⟩

theorem isConsole_consoleCalls (r : Request) : ∀ c ∈ r.consoleCalls, c.isConsole = true := by
  refine List.forall_mem_append.mpr ⟨fun c asked => ?_, fun c set => ?_⟩
  · unfold evaluation? at asked
    split at asked
    · cases asked
    · obtain ⟨expression, -, rfl⟩ := Option.map_eq_some_iff.mp (Option.mem_toList.mp asked)
      rfl
  · obtain ⟨pattern, -, rfl⟩ := List.mem_map.mp set
    rfl

end Request

-- ---------------------------------------------------------------------------
-- Steps
-- ---------------------------------------------------------------------------

namespace Session

variable {s : Session} {d : Debuggee} {r : Request}

theorem answerEvaluate_eq (st : SessionState) (d : Debuggee) (r : Request) :
    st.answerEvaluate d r = match r.command?, r.str? "expression" with
      | some typed, _ => .ok (st.runConsole d typed)
      | none, some expression =>
        st.evaluateExpression d expression ((r.int? "frameId").getD 0).toNat
      | none, none => .error (.atOnce ErrorId.missingExpression
          "evaluate: property 'expression' is missing or empty") := by
  unfold SessionState.answerEvaluate Request.command?
  cases r.str? "expression" with
  | none => rfl
  | some expression =>
    dsimp only [Option.bind_some]
    cases SessionState.consoleCommand? r expression <;> rfl

theorem answerEvaluate_effect (s : Session) (d : Debuggee) (r : Request) :
    let o := s.answer r (s.state.answerEvaluate d r)
    o.calls = r.consoleCalls ∧ o.session.state.notifyEnd = r.switch?.getD s.state.notifyEnd := by
  rw [answerEvaluate_eq]
  unfold Request.consoleCalls Request.evaluation? Request.filter? Request.switch?
  cases r.command? with
  | some typed =>
    obtain ⟨notify, calls⟩ := typed.execute_effect d s.state.notifyEnd
    exact ⟨calls, notify⟩
  | none =>
    cases r.str? "expression" with
    | none => exact ⟨rfl, rfl⟩
    | some expression =>
      dsimp only [SessionState.evaluateExpression]
      cases d.evaluate expression ((r.int? "frameId").getD 0).toNat <;> exact ⟨rfl, rfl⟩

theorem consoleCalls_step (s : Session) (m : Moment) :
    (s.step m).calls.filter Call.isConsole =
      (s.evaluation? m.event).toList.flatMap Request.consoleCalls := by
  cases asks : s.evaluation? m.event with
  | some r =>
    rw [step_evaluation asks, (s.answerEvaluate_effect m.debuggee r).1,
      List.filter_eq_self.mpr r.isConsole_consoleCalls]
    exact (List.append_nil _).symm
  | none =>
    refine List.filter_eq_nil_iff.mpr fun c made => ?_
    rw [Bool.not_eq_true]
    obtain ⟨d, event⟩ := m
    cases event with
    | request directory r => exact (request_steady asks d).calls c made
    | notification n =>
      simp only [step, notify] at made
      split at made <;> cases made
    | terminate restart =>
      simp only [step, terminate] at made
      split at made
      · cases made
      · exact s.isConsole_unbind d c made
    | connectionClosed =>
      simp only [step, connectionClosed] at made
      split at made
      · cases made
      · exact s.isConsole_unbind d c made

theorem notifyEnd_step (target : s.target.isSome) (m : Moment) :
    (s.step m).session.state.notifyEnd =
      ((s.evaluation? m.event).bind Request.switch?).getD s.state.notifyEnd := by
  cases asks : s.evaluation? m.event with
  | some r =>
    rw [step_evaluation asks, (s.answerEvaluate_effect m.debuggee r).2]
    rfl
  | none =>
    by_cases dead : s.terminated = true
    · rw [step_ended dead]
      rfl
    · exact (step_reports (Bool.not_eq_true _ ▸ dead) target m asks).notifyEnd

-- ---------------------------------------------------------------------------
-- Runs
-- ---------------------------------------------------------------------------

def evaluations (s : Session) : List Moment → List Request
  | [] => []
  | m :: rest => (s.evaluation? m.event).toList ++ (s.step m).session.evaluations rest

theorem evaluations_append (s : Session) (before after : List Moment) :
    s.evaluations (before ++ after) =
      s.evaluations before ++ (s.run before).session.evaluations after := by
  induction before generalizing s with
  | nil => rfl
  | cons m before ih =>
    rw [List.cons_append, evaluations, ih, evaluations, run_cons_session, List.append_assoc]

theorem evaluations_of_attached {askings : List Asking} (attached : s.phase = .attached)
    (asks : ∀ a ∈ askings, a.request.command = "evaluate") :
    s.evaluations (askings.map Asking.moment) = askings.map Asking.request := by
  induction askings generalizing s with
  | nil => rfl
  | cons a askings ih =>
    obtain ⟨asksFirst, asksRest⟩ := List.forall_mem_cons.mp asks
    have first : s.evaluation? a.moment.event = some a.request := if_pos ⟨attached, asksFirst⟩
    have alive : (s.step a.moment).session.terminated = false := by
      rw [step_evaluation first]
      cases s.state.answerEvaluate a.moment.debuggee a.request <;>
        exact (phase_attached.mp attached).1
    have stays : (s.run [a.moment]).session.phase = .attached := attached_run attached alive
    rw [List.map_cons, evaluations, first, ih (s := (s.step a.moment).session) stays asksRest]
    rfl

theorem consoleCalls_run (s : Session) (moments : List Moment) :
    (s.run moments).calls.filter Call.isConsole =
      (s.evaluations moments).flatMap Request.consoleCalls := by
  induction moments generalizing s with
  | nil => rfl
  | cons m moments ih =>
    show ((s.step m).calls ++ ((s.step m).session.run moments).calls).filter _ = _
    rw [List.filter_append, consoleCalls_step, ih, evaluations, List.flatMap_append]

theorem notifyEnd_run (target : s.target.isSome) (moments : List Moment) :
    (s.run moments).session.state.notifyEnd =
      ((s.evaluations moments).filterMap Request.switch?).getLast?.getD s.state.notifyEnd := by
  induction moments generalizing s with
  | nil => rfl
  | cons m moments ih =>
    have first : (s.evaluation? m.event).toList.filterMap Request.switch? =
        ((s.evaluation? m.event).bind Request.switch?).toList := by
      cases s.evaluation? m.event with
      | none => rfl
      | some r => cases told : r.switch? <;> simp [told]
    rw [run_cons_session, ih (by rwa [step_target]), notifyEnd_step target, evaluations,
      List.filterMap_append, first, getLast?_toList_append, Option.getD_or]

end Session

-- ---------------------------------------------------------------------------
-- Calls
-- ---------------------------------------------------------------------------

def Call.filter? : Call → Option String
  | .setErrorFilter pattern => some pattern
  | _ => none

theorem errorFilter_after (calls : List Call) (d : Debuggee) :
    (calls.foldl Debuggee.after d).errorFilter =
      (calls.filterMap Call.filter?).getLast?.getD d.errorFilter := by
  induction calls generalizing d with
  | nil => rfl
  | cons c calls ih =>
    rw [List.foldl_cons, ih, filterMap_cons_eq_append, getLast?_toList_append, Option.getD_or]
    cases c <;> rfl

theorem Request.kinds_consoleCalls (r : Request) :
    r.consoleCalls.filter Call.isEvaluate = r.evaluation?.toList ∧
      r.consoleCalls.filterMap Call.filter? = r.filter?.toList := by
  have evaluates : ∀ c ∈ r.evaluation?.toList, c.isEvaluate = true ∧ c.filter? = none := by
    intro c asked
    unfold evaluation? at asked
    split at asked
    · cases asked
    · obtain ⟨expression, -, rfl⟩ := Option.map_eq_some_iff.mp (Option.mem_toList.mp asked)
      exact ⟨rfl, rfl⟩
  have same : r.evaluation?.toList.filter Call.isEvaluate = r.evaluation?.toList :=
    List.filter_eq_self.mpr fun c asked => (evaluates c asked).1
  have none : r.evaluation?.toList.filterMap Call.filter? = [] :=
    List.filterMap_eq_nil_iff.mpr fun c asked => (evaluates c asked).2
  rw [consoleCalls, List.filter_append, List.filterMap_append, same, none]
  cases r.filter? with
  | none => exact ⟨List.append_nil _, rfl⟩
  | some pattern => exact ⟨List.append_nil _, rfl⟩

theorem kinds_of_consoleCalls {calls : List Call} {asked : List Request}
    (same : calls.filter Call.isConsole = asked.flatMap Request.consoleCalls) :
    calls.filter Call.isEvaluate = asked.filterMap Request.evaluation? ∧
      calls.filterMap Call.filter? = asked.filterMap Request.filter? := by
  have evaluations : (calls.filter Call.isConsole).filter Call.isEvaluate =
      calls.filter Call.isEvaluate := by
    rw [List.filter_filter]
    exact List.filter_congr fun c _ => by cases c <;> rfl
  have filters : (calls.filter Call.isConsole).filterMap Call.filter? =
      calls.filterMap Call.filter? := by
    rw [List.filterMap_filter]
    exact List.filterMap_congr fun c _ => by cases c <;> rfl
  rw [← evaluations, ← filters, same, List.filter_flatMap, List.filterMap_flatMap,
    List.filterMap_eq_flatMap_toList, List.filterMap_eq_flatMap_toList]
  exact ⟨List.flatMap_congr fun r _ => r.kinds_consoleCalls.1,
    List.flatMap_congr fun r _ => r.kinds_consoleCalls.2⟩

/-- In a run of a session the debuggee evaluates the expressions that the client has asked
for, each once and trimmed, but no commands of the console. The notice of an execution's end
is on or off as the last command says that says either, and the pattern of the errors to trap
is that of the last one that sets a pattern. Commands are the same if their word and their
argument are, whatever blanks there are around these. Once the session is attached it takes
every request for a value. -/
theorem expressions_and_commands (id : SessionId) (port : Nat) (target : Target)
    (defaultLevels : Nat) (before : List Moment) :
    let start := Session.fresh id port (some target) defaultLevels
    let o := start.run before
    let asked := start.evaluations before
    o.calls.filter Call.isEvaluate = asked.filterMap Request.evaluation? ∧
    o.session.state.notifyEnd = (asked.filterMap Request.switch?).getLast?.getD false ∧
    (∀ d : Debuggee, (o.calls.foldl Debuggee.after d).errorFilter =
      (asked.filterMap Request.filter?).getLast?.getD d.errorFilter) ∧
    (∀ r : Request,
      (∀ expression frame, r.evaluation? = some (.evaluate expression frame) ↔
        r.HasExpression expression ∧ frame = ((r.int? "frameId").getD 0).toNat) ∧
      (∀ b, r.switch? = some b ↔ r.HasCommand "execendnotify" (if b then "on" else "off")) ∧
      ∀ pattern, r.filter? = some pattern ↔
        r.HasCommand "seterror" pattern ∧ Pattern.rejection? pattern = none) ∧
    (∀ input input' : String, ∀ word argument,
      Spells input.toList word argument → Spells input'.toList word argument →
        ConsoleCommand.parse? input = ConsoleCommand.parse? input' ∨
          ∃ text text', ConsoleCommand.parse? input = some (.unknown text) ∧
            ConsoleCommand.parse? input' = some (.unknown text')) ∧
    (o.session.phase = .attached →
      ∀ askings : List Asking, (∀ a ∈ askings, a.request.command = "evaluate") →
        start.evaluations (before ++ askings.map Asking.moment) =
          asked ++ askings.map Asking.request) := by
  intro start o asked
  obtain ⟨evaluations, filters⟩ := kinds_of_consoleCalls (start.consoleCalls_run before)
  refine ⟨evaluations, Session.notifyEnd_run rfl before, fun d => ?_, fun r => ?_,
    fun input input' word argument => Spells.parse?_cases, fun attached askings asks => ?_⟩
  · rw [errorFilter_after, filters]
  · exact ⟨fun expression frame => Request.evaluation?_eq_some, fun b => Request.switch?_eq_some,
      fun pattern => Request.filter?_eq_some⟩
  · rw [Session.evaluations_append, Session.evaluations_of_attached attached asks]

/-- The notice is turned on, a pattern with blanks in it is set, and another one does not
compile. An exclamation mark means a command on the console only. -/
theorem pattern_between_expressions :
    let d := Debuggee.holding (.tuple []) []
    let asks (seq : Int) (context expression : String) : Request :=
      ⟨seq, "request", "evaluate",
        .obj [("context", .str context), ("expression", .str expression)]⟩
    let requests : List Request := [.withHandle 1 "initialize" 0,
      asks 2 " repl\t" " !\u00a0execendnotify  on", asks 3 "hover" " !x ", asks 4 "repl" "x y ",
      asks 5 "repl" "!seterror \t^a  b$ ", asks 6 "repl" "!seterror (",
      asks 7 "repl" "!seterrors c"]
    let o := (Session.fresh 1 4711 (some ⟨0, 7, "main"⟩) 20).run
      (requests.map fun r => ⟨d, .request [] r⟩)
    o.calls.filter Call.isEvaluate = [.evaluate "!x" 0, .evaluate "x y" 0] ∧
      o.session.state.notifyEnd = true ∧
      (o.calls.foldl Debuggee.after d).errorFilter = "^a  b$" ∧
      (asks 3 "hover" " !x ").HasExpression "!x" := by
  intro d asks requests o
  obtain ⟨evaluations, notify, filter, means, -⟩ := expressions_and_commands 1 4711
    ⟨0, 7, "main"⟩ 20 (requests.map fun r => ⟨d, .request [] r⟩)
  have first : o.calls.filter Call.isEvaluate = [.evaluate "!x" 0, .evaluate "x y" 0] := by
    rw [evaluations]
    decide +kernel
  have second : o.session.state.notifyEnd = true := by
    rw [notify]
    decide +kernel
  have third : (o.calls.foldl Debuggee.after d).errorFilter = "^a  b$" := by
    rw [filter]
    decide +kernel
  obtain ⟨shown, -⟩ := ((means (asks 3 "hover" " !x ")).1 "!x" 0).mp (by decide +kernel)
  exact ⟨first, second, third, shown⟩

end DebugAdapter
