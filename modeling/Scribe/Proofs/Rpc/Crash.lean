import Scribe.Proofs.Rpc.Classification
import Scribe.Proofs.Rpc.Serving
import Scribe.Proofs.Tool.Call

/-!
# A crash ends the service

A line that calls a tool works on the store as the operation does that it asks for
(`store_handleLine_of_callsFor`). If that leaves a store which tells of a crash, then nothing is
written for the line and none of the lines behind it is read: what stays are the answers to the lines
before it. An input without such a line is served as if there were no crashes (`serve_until_crash`).
-/

namespace Scribe.Rpc

open Text Json

variable {σ : Type} {store : Store σ} {s : Settings} {crash : σ → Option Crash} {w w' : World σ}
  {line : List UInt8} {text : String} {c : Crash}

/-! ### Calls -/

/-- A line that asks for an operation: it holds a request to call a tool. -/
def CallsFor (text : String) (op : Operation) : Prop :=
  ∃ members id name arguments, Value.parse text = .ok (.object members) ∧
    Asks (.object members) "tools/call" ∧ (Value.object members).get? "id" = some id ∧
    callOf? (paramsOf (.object members)) = some (name, arguments) ∧
    Tool.requested name arguments = .ok op

theorem store_callTool {params : Value} (hordered : params.Ordered) {name : String}
    {arguments : Value} (hcall : callOf? params = some (name, arguments)) {op : Operation}
    (hop : Tool.requested name arguments = .ok op) (store : Store σ) (s : Settings) (w : World σ) :
    ((callTool store s params).run w).2.store =
      (Action.outcome (op.run store s) (Tool.called name w)).2.store := by
  obtain ⟨output, w', hrun, hanswer⟩ := Tool.call_of_requested_ok hop store s w
  rw [← (Tool.answer_of_outcome hanswer).2]
  have hdecode := toOption_decode_call hordered
  rw [hcall] at hdecode
  unfold callTool
  cases hparams : callSchema.decode params with
  | error reason =>
    rw [hparams] at hdecode
    cases hdecode
  | ok v =>
    rw [hparams] at hdecode
    cases hdecode
    show ((Tool.call store s name arguments >>= _).run w).2.store = w'.store
    rw [StateT.run_bind, hrun]
    rfl

/-- A line that asks for an operation leaves the store as that does. -/
theorem store_handleLine_of_callsFor {op : Operation} (h : CallsFor text op) (store : Store σ)
    (s : Settings) (w : World σ) :
    ∃ events, ((handleLine store s text).run w).2.store =
      (Action.outcome (op.run store s) ⟨w.store, events⟩).2.store := by
  obtain ⟨members, id, name, arguments, hparse, hasks, hid, hcall, hop⟩ := h
  have hordered := ordered_parse hparse
  have hascending : Value.Ascending members := by
    cases hordered
    assumption
  rw [handleLine_of_parse hparse, handleMessage]
  simp only [ofMessage_of_asks hascending hasks, hid]
  exact ⟨_, store_callTool hordered.getD_null hcall hop store s _⟩

/-! ### One line -/

/-- A text is handled, and then it is seen whether the program has come that far. -/
theorem run_answerLine_of_text (hline : decode? line = some text) (hblank : allBlank text = false) :
    (answerLine store s line crash).run w =
      let handled := (handleLine store s text).run w
      (match crash handled.2.store with
        | some c => .error (.crash c)
        | none => .ok ((handled.1.map Response.line).getD ""), handled.2) := by
  rw [answerLine, hline]
  simp only [hblank, Bool.false_eq_true, if_false, StateT.run_bind]
  rcases (handleLine store s text).run w with ⟨answer, w'⟩
  show (match crash w'.store with
    | some c => (return .error (.crash c) : StateM (World σ) (Except ServeFault String))
    | none => return .ok ((answer.map Response.line).getD "")).run w' = _
  cases crash w'.store with
  | some c => rfl
  | none => rfl

/-- The program crashes over a line: that is a text, and handling it leaves a store which tells of
the crash. -/
def CrashesOver (store : Store σ) (s : Settings) (crash : σ → Option Crash) (w : World σ)
    (line : List UInt8) (c : Crash) : Prop :=
  ∃ text, decode? line = some text ∧ allBlank text = false ∧
    crash ((handleLine store s text).run w).2.store = some c

theorem answerLine_of_crashesOver (h : CrashesOver store s crash w line c) :
    ((answerLine store s line crash).run w).1 = .error (.crash c) := by
  obtain ⟨text, hline, hblank, hcrash⟩ := h
  rw [run_answerLine_of_text hline hblank]
  simp only [hcrash]

/-- A line that the program survives is answered as if there were no crashes. -/
theorem run_answerLine_of_survives (h : ¬ ∃ c, CrashesOver store s crash w line c) :
    (answerLine store s line crash).run w = (answerLine store s line).run w := by
  cases hline : decode? line with
  | none =>
    rw [answerLine, answerLine, hline]
  | some text =>
    cases hblank : allBlank text with
    | true =>
      rw [answerLine, answerLine, hline]
      simp only [hblank, if_true]
    | false =>
      rw [run_answerLine_of_text hline hblank, run_answerLine_of_text hline hblank]
      cases hcrash : crash ((handleLine store s text).run w).2.store with
      | some c => exact absurd ⟨c, text, hline, hblank, hcrash⟩ h
      | none => simp only [hcrash]

/-! ### Lines -/

theorem run_answerLines_of_error {f : ServeFault}
    (h : (answerLine store s line crash).run w = (.error f, w')) (rest : List (List UInt8)) :
    (answerLines store s (line :: rest) crash).run w = (([], some f), w') := by
  rw [answerLines, StateT.run_bind, h]
  rfl

theorem run_answerLines_of_ok {written : String}
    (h : (answerLine store s line crash).run w = (.ok written, w')) (rest : List (List UInt8)) :
    (answerLines store s (line :: rest) crash).run w =
      let more := (answerLines store s rest crash).run w'
      ((written :: more.1.1, more.1.2), more.2) := by
  rw [answerLines, StateT.run_bind, h]
  rfl

/-- Lines are answered up to the first that the program crashes over, and what that leaves stays. -/
theorem run_answerLines_of_crashesOver {front : List (List UInt8)}
    (hfront : ((answerLines store s front crash).run w).1.2 = none)
    (hcrash : CrashesOver store s crash ((answerLines store s front crash).run w).2 line c)
    (back : List (List UInt8)) :
    (answerLines store s (front ++ line :: back) crash).run w =
      let before := (answerLines store s front crash).run w
      ((before.1.1, some (.crash c)), ((answerLine store s line crash).run before.2).2) := by
  induction front generalizing w with
  | nil =>
    have hline : (answerLine store s line crash).run w = (.error (.crash c), _) :=
      Prod.ext (answerLine_of_crashesOver hcrash) rfl
    exact run_answerLines_of_error hline back
  | cons first rest ih =>
    rcases hfirst : (answerLine store s first crash).run w with ⟨f | written, w₁⟩
    · rw [run_answerLines_of_error hfirst] at hfront
      cases hfront
    · rw [run_answerLines_of_ok hfirst] at hfront hcrash
      rw [List.cons_append, run_answerLines_of_ok hfirst, run_answerLines_of_ok hfirst,
        ih hfront hcrash]

/-- Either the program survives the lines, which are then answered as if there were no crashes, or it
crashes over one of them. -/
theorem answerLines_until_crash (store : Store σ) (s : Settings) (crash : σ → Option Crash)
    (lines : List (List UInt8)) (w : World σ) :
    (answerLines store s lines crash).run w = (answerLines store s lines).run w ∨
      ∃ front line back c, lines = front ++ line :: back ∧
        ((answerLines store s front crash).run w).1.2 = none ∧
        CrashesOver store s crash ((answerLines store s front crash).run w).2 line c := by
  induction lines generalizing w with
  | nil => exact .inl rfl
  | cons first rest ih =>
    by_cases hover : ∃ c, CrashesOver store s crash w first c
    · obtain ⟨c, hover⟩ := hover
      exact .inr ⟨[], first, rest, c, rfl, rfl, hover⟩
    · have hsame := run_answerLine_of_survives hover
      rcases hfirst : (answerLine store s first crash).run w with ⟨f | written, w₁⟩
      · refine .inl ?_
        rw [run_answerLines_of_error hfirst, run_answerLines_of_error (hsame.symm.trans hfirst)]
      · rcases ih w₁ with hrest | ⟨front, line, back, c, rfl, hfront, hcrash⟩
        · refine .inl ?_
          rw [run_answerLines_of_ok hfirst, run_answerLines_of_ok (hsame.symm.trans hfirst), hrest]
        · refine .inr ⟨first :: front, line, back, c, rfl, ?_, ?_⟩
          · rw [run_answerLines_of_ok hfirst]
            exact hfront
          · rw [run_answerLines_of_ok hfirst]
            exact hcrash

/-! ### A whole input -/

/-- What is left of a service that the program crashes in: the answers to the lines before. -/
theorem run_serve_of_crashesOver {input : List UInt8} {front back : List (List UInt8)}
    (hlines : feedLines 10 13 input = front ++ line :: back)
    (hfront : ((answerLines store s front crash).run (opened w)).1.2 = none)
    (hcrash : CrashesOver store s crash ((answerLines store s front crash).run (opened w)).2 line c) :
    (serve store s input crash).run w =
      let before := (answerLines store s front crash).run (opened w)
      ((String.join before.1.1, some (.crash c)),
        ((answerLine store s line crash).run before.2).2) := by
  rw [run_serve_eq, hlines, run_answerLines_of_crashesOver hfront hcrash]
  rfl

/-- **A crash ends the service.** An input is served as if there were no crashes, or the program
crashes over one of its lines: then the answers to the lines before it are all that is written, and
nothing is done behind it. -/
theorem serve_until_crash (store : Store σ) (s : Settings) (crash : σ → Option Crash)
    (input : List UInt8) (w : World σ) :
    (serve store s input crash).run w = (serve store s input).run w ∨
      ∃ front line back c, Lines 10 13 input (front ++ line :: back) ∧
        let before := (answerLines store s front crash).run (opened w)
        before.1.2 = none ∧ CrashesOver store s crash before.2 line c ∧
          (serve store s input crash).run w = ((String.join before.1.1, some (.crash c)),
            ((answerLine store s line crash).run before.2).2) := by
  rcases answerLines_until_crash store s crash (feedLines 10 13 input) (opened w) with
    hsame | ⟨front, line, back, c, hlines, hfront, hcrash⟩
  · refine .inl ?_
    rw [run_serve_eq, run_serve_eq, hsame]
  · exact .inr ⟨front, line, back, c, feedLines_eq_iff.1 hlines, hfront, hcrash,
      run_serve_of_crashesOver hlines hfront hcrash⟩

end Scribe.Rpc
