import Scribe.Proofs.Json.Compact
import Scribe.Proofs.Service.Oblivious
import Scribe.Proofs.Text.Lines
import Scribe.Proofs.Text.Utf8
import Scribe.Rpc.Serve

/-!
# Serving is handling line by line

Lines are read up to the first that is not UTF-8, that is, not the bytes of a text
(`Text.decode?_eq_some_iff`), and of these the blank ones are skipped. To serve
an input is to handle what is left one after the other, each on the store that the ones before it
left, and to write the answers in their order, each on a line of its own (`serve_line_by_line`). So an
input that is cut behind a line feed can be served in two parts.
-/

namespace Scribe.Rpc

open Text Json

variable {σ : Type} {store : Store σ} {s : Settings} {w : World σ}

/-- The lines as texts, up to the first that is not UTF-8. -/
def legible (lines : List (List UInt8)) : List String :=
  ((lines.map decode?).takeWhile Option.isSome).filterMap id

/-- The texts that are handled. -/
def asked (lines : List (List UInt8)) : List String :=
  (legible lines).filter fun text => !allBlank text

/-- Why lines are not served to their end. -/
def faultOf (lines : List (List UInt8)) : Option ServeFault :=
  if ∀ line ∈ lines, IsUtf8 line then none else some .invalidUtf8

/-- The answers of the handled texts, those that there are, each on a line. -/
def written (answers : List (Option Response)) : String :=
  String.join ((answers.filterMap id).map Response.line)

/-- The world in which the first line is handled. -/
def opened (w : World σ) : World σ := ((opening : StateM (World σ) Unit).run w).2

/-! ### Lines -/

theorem asked_of_invalid {line : List UInt8} (h : decode? line = none)
    (rest : List (List UInt8)) : asked (line :: rest) = [] := by
  simp [asked, legible, h]

theorem asked_of_blank {line : List UInt8} {text : String} (h : decode? line = some text)
    (hblank : allBlank text = true) (rest : List (List UInt8)) :
    asked (line :: rest) = asked rest := by
  simp [asked, legible, h, hblank]

theorem asked_of_text {line : List UInt8} {text : String} (h : decode? line = some text)
    (hblank : allBlank text = false) (rest : List (List UInt8)) :
    asked (line :: rest) = text :: asked rest := by
  simp [asked, legible, h, hblank]

/-- Behind lines that are all UTF-8 the reading goes on. -/
theorem asked_append {lines : List (List UInt8)} (h : ∀ line ∈ lines, IsUtf8 line)
    (more : List (List UInt8)) : asked (lines ++ more) = asked lines ++ asked more := by
  induction lines with
  | nil => rfl
  | cons line rest ih =>
    rw [List.forall_mem_cons] at h
    obtain ⟨text, hline⟩ := Option.isSome_iff_exists.1 (isUtf8_iff.1 h.1)
    rw [List.cons_append]
    cases hblank : allBlank text with
    | true => rw [asked_of_blank hline hblank, asked_of_blank hline hblank, ih h.2]
    | false =>
      rw [asked_of_text hline hblank, asked_of_text hline hblank, ih h.2, List.cons_append]

theorem faultOf_of_invalid {line : List UInt8} (h : decode? line = none)
    (rest : List (List UInt8)) : faultOf (line :: rest) = some .invalidUtf8 := by
  simp [faultOf, isUtf8_iff, h]

theorem faultOf_cons {line : List UInt8} {text : String} (h : decode? line = some text)
    (rest : List (List UInt8)) : faultOf (line :: rest) = faultOf rest := by
  simp [faultOf, isUtf8_iff, h]

theorem faultOf_eq_none {lines : List (List UInt8)} (h : ∀ line ∈ lines, IsUtf8 line) :
    faultOf lines = none :=
  if_pos h

theorem written_cons (answer : Option Response) (more : List (Option Response)) :
    written (answer :: more) = (answer.map Response.line).getD "" ++ written more := by
  cases answer with
  | none => exact String.empty_append.symm
  | some r => exact String.join_cons

theorem written_append (answers more : List (Option Response)) :
    written (answers ++ more) = written answers ++ written more := by
  rw [written, List.filterMap_append, List.map_append, String.join_append]
  rfl

/-! ### One line after the other -/

theorem answerLine_of_blank {line : List UInt8} {text : String} (h : decode? line = some text)
    (hblank : allBlank text = true) : answerLine store s line = pure (.ok "") := by
  rw [answerLine, h]
  exact if_pos hblank

theorem answerLine_of_text {line : List UInt8} {text : String} (h : decode? line = some text)
    (hblank : allBlank text = false) :
    answerLine store s line = (do
      let answer ← handleLine store s text
      return .ok ((answer.map Response.line).getD "")) := by
  rw [answerLine, h]
  exact (if_neg (by rw [hblank]; exact Bool.false_ne_true)).trans rfl

/-- **Each line in its turn.** What is written for lines is what the handled texts are answered with,
and the world is the one that they leave. -/
theorem run_answerLines (store : Store σ) (s : Settings) (lines : List (List UInt8))
    (w : World σ) :
    let done := (answerLines store s lines).run w
    let handled := ((asked lines).mapM (handleLine store s)).run w
    String.join done.1.1 = written handled.1 ∧ done.1.2 = faultOf lines ∧ done.2 = handled.2 := by
  induction lines generalizing w with
  | nil => exact ⟨rfl, rfl, rfl⟩
  | cons line rest ih =>
    cases hline : decode? line with
    | none =>
      rw [answerLines, answerLine, hline, asked_of_invalid hline, faultOf_of_invalid hline]
      exact ⟨rfl, rfl, rfl⟩
    | some text =>
      rw [answerLines, faultOf_cons hline]
      cases hblank : allBlank text with
      | true =>
        rw [asked_of_blank hline hblank, answerLine_of_blank hline hblank, pure_bind]
        obtain ⟨hwritten, hfault, hworld⟩ := ih w
        refine ⟨?_, hfault, hworld⟩
        change String.join ("" :: ((answerLines store s rest).run w).1.1) = _
        rw [String.join_cons, hwritten, String.empty_append]
      | false =>
        rw [asked_of_text hline hblank, answerLine_of_text hline hblank, List.mapM_cons]
        -- The other lines are handled in the world that this one leaves.
        let first := (handleLine store s text).run w
        obtain ⟨hwritten, hfault, hworld⟩ := ih first.2
        refine ⟨?_, hfault, hworld⟩
        change String.join ((first.1.map Response.line).getD "" ::
            ((answerLines store s rest).run first.2).1.1) =
          written (first.1 :: (((asked rest).mapM (handleLine store s)).run first.2).1)
        rw [String.join_cons, hwritten, written_cons]

/-! ### A whole input -/

/-- What is made of the answers to the lines of an input: they are joined, and the log is closed if
the input has come to its end. -/
def closed (answered : (List String × Option ServeFault) × World σ) :
    (String × Option ServeFault) × World σ :=
  ((String.join answered.1.1, answered.1.2),
    if answered.1.2.isNone then ((shutdown : StateM (World σ) Unit).run answered.2).2
    else answered.2)

theorem run_serve_eq (store : Store σ) (s : Settings) (input : List UInt8) (w : World σ)
    (crash : σ → Option Crash) :
    (serve store s input crash).run w =
      closed ((answerLines store s (feedLines 10 13 input) crash).run (opened w)) := by
  let answered := (answerLines store s (feedLines 10 13 input) crash).run (opened w)
  show ((if answered.1.2.isNone then (do
      shutdown
      return (String.join answered.1.1, answered.1.2))
    else return (String.join answered.1.1, answered.1.2) :
      StateM (World σ) (String × Option ServeFault)).run answered.2) = closed answered
  rw [closed]
  split <;> rfl

theorem store_closed (answered : (List String × Option ServeFault) × World σ) :
    (closed answered).2.store = answered.2.store := by
  rw [closed]
  split <;> rfl

/-- What an input is answered with, why that ended early, and the store that is left. -/
theorem run_serve (store : Store σ) (s : Settings) (input : List UInt8) (w : World σ) :
    let lines := feedLines 10 13 input
    let done := (serve store s input).run w
    let handled := ((asked lines).mapM (handleLine store s)).run (opened w)
    done.1 = (written handled.1, faultOf lines) ∧ done.2.store = handled.2.store := by
  intro lines done handled
  obtain ⟨hwritten, hfault, hworld⟩ := run_answerLines store s lines (opened w)
  have hdone : done = closed ((answerLines store s lines).run (opened w)) :=
    run_serve_eq store s input w _
  rw [hdone, store_closed, hworld]
  exact ⟨Prod.ext hwritten hfault, rfl⟩

/-- An input of lines in UTF-8 can be cut behind a line feed and served in two parts. -/
theorem serve_append (hstore : store.Oblivious) {first second : List UInt8} (w : World σ)
    (h : ∀ line ∈ feedLines 10 13 (first ++ 10 :: second), IsUtf8 line) :
    let whole := (serve store s (first ++ 10 :: second)).run w
    let before := (serve store s (first ++ [10])).run w
    let behind := (serve store s second).run before.2
    before.1.2 = none ∧ behind.1.2 = none ∧ whole.1.1 = before.1.1 ++ behind.1.1 ∧
      whole.2.store = behind.2.store := by
  intro whole before behind
  let front := feedLines 10 13 (first ++ [10])
  let back := feedLines 10 13 second
  have hlines : feedLines 10 13 (first ++ 10 :: second) = front ++ back :=
    feedLines_append first second
  rw [hlines, List.forall_mem_append] at h
  obtain ⟨hwhole, hwholeStore⟩ := run_serve store s (first ++ 10 :: second) w
  obtain ⟨hbefore, hbeforeStore⟩ := run_serve store s (first ++ [10]) w
  obtain ⟨hbehind, hbehindStore⟩ := run_serve store s second before.2
  rw [hlines, asked_append h.1, List.mapM_append] at hwhole hwholeStore
  let done := ((asked front).mapM (handleLine store s)).run (opened w)
  let rest := ((asked back).mapM (handleLine store s)).run done.2
  -- The second part is handled on the store that the first one leaves, with other events before it.
  have hmid : done.2.store = (opened before.2).store := hbeforeStore.symm
  obtain ⟨hrest, hleft⟩ :=
    oblivious_mapM (fun line => oblivious_handleLine (s := s) hstore line) (asked back)
      done.2 (opened before.2) hmid
  refine ⟨?_, ?_, ?_, hwholeStore.trans (hleft.trans hbehindStore.symm)⟩
  · exact (congrArg Prod.snd hbefore).trans (faultOf_eq_none h.1)
  · exact (congrArg Prod.snd hbehind).trans (faultOf_eq_none h.2)
  · calc whole.1.1 = written (done.1 ++ rest.1) := congrArg Prod.fst hwhole
      _ = written done.1 ++ written rest.1 := written_append done.1 rest.1
      _ = before.1.1 ++ behind.1.1 := by rw [hrest, hbefore, hbehind]

/-- **Serving is line by line.** The lines up to the first that is not UTF-8 are handled one after
the other, each on the world that the earlier ones leave, unless they are blank. What is written are
their answers, each on a line of its own. An input of lines in UTF-8 can be cut behind every line
feed; the two parts see the same store, though not the same log. -/
theorem serve_line_by_line (store : Store σ) (s : Settings) (input : List UInt8) (w : World σ) :
    ∃ lines, Lines 10 13 input lines ∧
      let done := (serve store s input).run w
      let handled := ((asked lines).mapM (handleLine store s)).run (opened w)
      let answers := handled.1.filterMap id
      done.1.1 = String.join (answers.map fun r => r.toJson.compact ++ "\n") ∧
        (∀ r ∈ answers, '\n' ∉ r.toJson.compact.toList) ∧
        done.2.store = handled.2.store ∧
        (done.1.2 = if ∀ line ∈ lines, IsUtf8 line then none else some .invalidUtf8) ∧
        (store.Oblivious → ∀ first second, input = first ++ 10 :: second →
          (∀ line ∈ lines, IsUtf8 line) →
          let before := (serve store s (first ++ [10])).run w
          let behind := (serve store s second).run before.2
          before.1.2 = none ∧ behind.1.2 = none ∧ done.1.1 = before.1.1 ++ behind.1.1 ∧
            done.2.store = behind.2.store) := by
  refine ⟨feedLines 10 13 input, feedLines_eq_iff.1 rfl, ?_⟩
  intro done handled answers
  obtain ⟨hresult, hstore⟩ := run_serve store s input w
  refine ⟨congrArg Prod.fst hresult, fun r _ => lineFeed_notMem_compact r.toJson, hstore,
    congrArg Prod.snd hresult, ?_⟩
  rintro hoblivious first second rfl hlines
  exact serve_append hoblivious w hlines

/-- A notification, a blank line and a line that holds no JSON, served in two parts. -/
theorem serve_line_by_line_parts :
    let first := bytesOf "\x7b\"jsonrpc\":\"2.0\",\"method\":\"ping\"\x7d\r".toList
    let second := bytesOf " \n[".toList
    let input := first ++ 10 :: second
    let served (part : List UInt8) := (serve Store.Memory.store ⟨none, 10⟩ part).run
    let whole := served input ⟨.empty, []⟩
    let before := served (first ++ [10]) ⟨.empty, []⟩
    let behind := served second before.2
    Store.Memory.store.Oblivious ∧ (∀ line ∈ feedLines 10 13 input, IsUtf8 line) ∧
      whole.1.2 = none ∧ whole.1.1 = before.1.1 ++ behind.1.1 ∧
      whole.2.store.calls = behind.2.store.calls := by
  intro first second input served whole before behind
  let ping := "\x7b\"jsonrpc\":\"2.0\",\"method\":\"ping\"\x7d"
  have hfeed : feedLines 10 13 input = [bytesOf ping.toList, [32], [91]] := by decide
  have hping : IsUtf8 (bytesOf ping.toList) := ⟨ping, rfl⟩
  have hblank : IsUtf8 [32] := ⟨" ", rfl⟩
  have hbracket : IsUtf8 [91] := ⟨"[", rfl⟩
  have hlegible : ∀ line ∈ feedLines 10 13 input, IsUtf8 line := by
    rw [hfeed]
    simp [hping, hblank, hbracket]
  obtain ⟨lines, hlines, -, -, -, hfault, hcut⟩ :=
    serve_line_by_line Store.Memory.store ⟨none, 10⟩ input ⟨.empty, []⟩
  obtain rfl := feedLines_eq_iff.2 hlines
  obtain ⟨-, -, hwritten, hstore⟩ :=
    hcut Store.Memory.oblivious_store first second rfl hlegible
  exact ⟨Store.Memory.oblivious_store, hlegible, hfault.trans (if_pos hlegible), hwritten,
    congrArg Store.Memory.calls hstore⟩

end Scribe.Rpc
