import KrakenUi.Services.UpdateLog

namespace KrakenUi
namespace UpdateLog

open Updater (maxLogBytes endLine keepFrom)
open Utf8

/-!
# What the update log says

A call leaves a text that ends a line.  Its last character is a newline of one
byte, so a boundary is found whenever the log is too long, and nothing panics.
The log never exceeds the limit by more than the marker.  Until something is cut
off, it is the messages, each on its own lines.
-/

/-! ## Lines -/

/-- The text ends a line. -/
def EndsLine (text : List Char) : Prop :=
  text.getLast? = some '\n'

theorem EndsLine.endLine {text : List Char} (ends : EndsLine text) : endLine text = text :=
  if_pos ends

theorem endLine_of_not {text : List Char} (open' : ¬ EndsLine text) :
    endLine text = text ++ ['\n'] :=
  if_neg open'

theorem endsLine_endLine (text : List Char) : EndsLine (endLine text) := by
  by_cases ends : EndsLine text
  · rw [ends.endLine]
    exact ends
  · rw [endLine_of_not ends]
    exact List.getLast?_concat

/-- What is left of a text at its end ends the line as well. -/
theorem EndsLine.rest {before after : List Char} (ends : EndsLine (before ++ after))
    (some' : after ≠ []) : EndsLine after := by
  rw [EndsLine, List.getLast?_append_of_ne_nil _ some'] at ends
  exact ends

theorem EndsLine.append {text : List Char} (ends : EndsLine text) (before : List Char) :
    EndsLine (before ++ text) := by
  have some' : text ≠ [] := by
    rintro rfl
    cases ends
  rw [EndsLine, List.getLast?_append_of_ne_nil _ some']
  exact ends

/-- A text behind another one is ended as it would be alone. -/
theorem endLine_append (before : List Char) {text : List Char} (some' : text ≠ []) :
    endLine (before ++ text) = before ++ endLine text := by
  have last : (before ++ text).getLast? = text.getLast? :=
    List.getLast?_append_of_ne_nil before some'
  by_cases ends : EndsLine text
  · rw [ends.endLine, (ends.append before).endLine]
  · have whole : ¬ EndsLine (before ++ text) := fun both => ends (last.symm.trans both)
    rw [endLine_of_not ends, endLine_of_not whole, List.append_assoc]

/-! ## One call -/

theorem endsWith_iff {log : String} : endsWith log '\n' = true ↔ EndsLine log.toList :=
  beq_iff_eq

theorem toList_push_unless (log : String) :
    (if !endsWith log '\n' then log.push '\n' else log).toList = endLine log.toList := by
  by_cases ends : EndsLine log.toList
  · rw [endsWith_iff.mpr ends, ends.endLine]
    rfl
  · have open' : endsWith log '\n' = false := Bool.eq_false_iff.mpr (mt endsWith_iff.mp ends)
    rw [open', endLine_of_not ends]
    exact String.toList_push '\n'

theorem toList_appended (log message : String) :
    (appended log message).toList =
      endLine ((if log.isEmpty then [] else endLine log.toList) ++ message.toList) := by
  rw [appended, toList_push_unless, String.toList_append]
  cases empty : log.isEmpty with
  | true =>
      have nothing : log.toList = [] := by
        rw [String.isEmpty_iff.mp empty]
        rfl
      rw [Bool.not_true, Bool.false_and, if_neg Bool.false_ne_true, if_pos rfl, nothing]
  | false =>
      rw [Bool.not_false, Bool.true_and, toList_push_unless, if_neg Bool.false_ne_true]

theorem endsLine_appended (log message : String) : EndsLine (appended log message).toList := by
  rw [toList_appended]
  exact endsLine_endLine _

/-- The rest from the boundary that is found. -/
theorem drain_indexFrom (text : List Char) {offset start index : Nat}
    (found : indexFrom offset (charIndicesFrom start text) = some index) :
    start ≤ index ∧ drain (index - start) text = some (keepFrom (offset - start) text) := by
  induction text generalizing start with
  | nil => cases found
  | cons character text inductionHypothesis =>
      by_cases reached : offset ≤ start
      · rw [indexFrom_reached reached] at found
        cases found
        rw [Nat.sub_self, Nat.sub_eq_zero_of_le reached]
        exact ⟨Nat.le_refl _, rfl⟩
      · rw [indexFrom_before reached] at found
        rcases inductionHypothesis found with ⟨later, drained⟩
        have width := character.utf8Size_pos
        refine ⟨by omega, ?_⟩
        rw [drain_cons text (by omega), Nat.sub_sub, drained]
        rcases Nat.exists_eq_succ_of_ne_zero
          (Nat.sub_ne_zero_of_lt (Nat.lt_of_not_le reached)) with ⟨bytes, positive⟩
        have left : offset - (start + character.utf8Size) = bytes + 1 - character.utf8Size := by
          omega
        rw [positive, keepFrom, left]

/-- What the limit allows to be kept of a log. -/
def kept (log : String) : List Char :=
  keepFrom (log.utf8ByteSize - maxLogBytes) log.toList

/-- What is cut off ends at a character that begins at most three bytes behind
the least offset that is allowed. -/
theorem boundary_spec {log : String} (ends : EndsLine log.toList)
    (long : maxLogBytes < log.utf8ByteSize) :
    Exists fun cut => log.toList = cut ++ kept log ∧ boundary log = byteLength cut ∧
      byteLength (kept log) ≤ maxLogBytes ∧ maxLogBytes - 3 ≤ byteLength (kept log) := by
  rcases List.getLast?_eq_some_iff.mp ends with ⟨front, whole⟩
  have size : log.utf8ByteSize = byteLength front + 1 := by
    rw [utf8ByteSize_eq, whole, byteLength_append]
    rfl
  have allowed : 0 < maxLogBytes := by decide
  have behind : log.utf8ByteSize - maxLogBytes ≤ byteLength front := by omega
  rcases indexFrom_charIndices '\n' behind with ⟨cut, rest, split, found, least, most⟩
  rw [← whole] at split found
  have counted : log.utf8ByteSize = byteLength cut + byteLength rest := by
    rw [utf8ByteSize_eq, split, byteLength_append]
  have same : rest = kept log := by
    have drained := (drain_indexFrom log.toList found).2
    rw [Nat.sub_zero, Nat.sub_zero, drain_eq_some.mpr ⟨cut, split, rfl⟩] at drained
    exact Option.some.inj drained
  have drained : boundary log = byteLength cut := by
    rw [boundary, found, Option.getD_some]
  rw [← same]
  exact ⟨cut, split, drained, by omega, by omega⟩

theorem appendLog_short {log message : String} (short : ¬ Truncates log message) :
    appendLog log message = some (appended log message) :=
  if_neg short

/-- The boundary is inside of the log, so what is in front of it can be drained. -/
theorem appendLog_cut {log message : String} (truncates : Truncates log message) :
    appendLog log message =
      some (truncationMarker ++ String.ofList (kept (appended log message))) := by
  rcases boundary_spec (endsLine_appended log message) truncates with ⟨cut, split, found, -⟩
  have drained : drain (byteLength cut) (appended log message).toList =
      some (kept (appended log message)) :=
    drain_eq_some.mpr ⟨cut, split, rfl⟩
  have called : appendLog log message =
      (drain (boundary (appended log message)) (appended log message).toList).map
        fun kept => truncationMarker ++ String.ofList kept :=
    if_pos truncates
  rw [called, found, drained, Option.map_some]

/-- The calls of the service, which knows no panic, are these calls. -/
theorem appendLog_eq (log message : String) :
    appendLog log message = some (Updater.appendLog log message) := by
  have lines : String.ofList (endLine ((if log.isEmpty then [] else endLine log.toList) ++
      message.toList)) = appended log message := by
    rw [← toList_appended, String.ofList_toList]
  rw [Updater.appendLog, lines]
  by_cases truncates : maxLogBytes < (appended log message).utf8ByteSize
  · rw [appendLog_cut truncates, if_pos truncates]
    rfl
  · rw [appendLog_short truncates, if_neg truncates]

/-! ## What every call leaves -/

theorem endsLine_kept {log : String} (ends : EndsLine log.toList)
    (long : maxLogBytes < log.utf8ByteSize) : EndsLine (kept log) := by
  rcases boundary_spec ends long with ⟨cut, split, -, -, least⟩
  rw [split] at ends
  apply ends.rest
  intro nothing
  rw [nothing] at least
  cases least

/-- A log that ends a line and is not too long for the marker. -/
structure Wellformed (log : String) : Prop where
  ends : EndsLine log.toList
  bounded : log.utf8ByteSize ≤ maxLogBytes + truncationMarker.utf8ByteSize

theorem appendLog_wellformed (log message : String) :
    Exists fun next => appendLog log message = some next ∧ Wellformed next := by
  have ends := endsLine_appended log message
  by_cases truncates : Truncates log message
  · rcases boundary_spec ends truncates with ⟨cut, -, -, most, -⟩
    refine ⟨_, appendLog_cut truncates, ?_, ?_⟩
    · rw [String.toList_append, String.toList_ofList]
      exact (endsLine_kept ends truncates).append _
    · rw [String.utf8ByteSize_append, utf8ByteSize_ofList]
      omega
  · have short : (appended log message).utf8ByteSize ≤ maxLogBytes := Nat.le_of_not_lt truncates
    exact ⟨_, appendLog_short truncates, ends, by omega⟩

/-! ## Any number of calls -/

/-- A log that calls have left, or no call yet. -/
def Started (log : String) : Prop :=
  log = "" ∨ Wellformed log

theorem Started.appendLog {log : String} (message : String) :
    Started (Updater.appendLog log message) := by
  rcases appendLog_wellformed log message with ⟨next, returned, wellformed⟩
  rw [appendLog_eq] at returned
  rw [Option.some.inj returned]
  exact Or.inr wellformed

theorem toList_appended_of_started {log : String} (started : Started log) (message : String) :
    (appended log message).toList = endLine (log.toList ++ message.toList) := by
  rw [toList_appended]
  rcases started with rfl | wellformed
  · rfl
  · rw [wellformed.ends.endLine]
    split
    · rename_i empty
      rw [String.isEmpty_iff.mp empty]
      rfl
    · rfl

theorem appendAll_append (messages : List String) (message : String) :
    appendAll "" (messages ++ [message]) =
      (appendAll "" messages).bind fun log => appendLog log message := by
  rw [appendAll, List.foldlM_append]
  exact congrArg (Option.bind _) (funext fun log => bind_pure (appendLog log message))

theorem appendAll_started (messages : List String) :
    Exists fun log => appendAll "" messages = some log ∧ Started log := by
  induction messages using List.reverseRecOn with
  | nil => exact ⟨"", rfl, Or.inl rfl⟩
  | append_singleton messages message inductionHypothesis =>
      rcases inductionHypothesis with ⟨log, reached, -⟩
      rcases appendLog_wellformed log message with ⟨next, returned, wellformed⟩
      refine ⟨next, ?_, Or.inr wellformed⟩
      rw [appendAll_append, reached, Option.bind_some, returned]

/-- No call so far has cut the log. -/
def Untruncated (messages : List String) : Prop :=
  forall before message, before ++ [message] <+: messages ->
    forall log, appendAll "" before = some log -> ¬ Truncates log message

theorem Untruncated.before {messages : List String} {message : String}
    (untruncated : Untruncated (messages ++ [message])) : Untruncated messages :=
  fun before said earlier => untruncated before said (earlier.trans (List.prefix_append _ _))

/-- The messages, each with a newline behind it unless it ends with one. -/
def joined (messages : List String) : List Char :=
  messages.flatMap fun message => endLine message.toList

theorem appendAll_joined {messages : List String} (untruncated : Untruncated messages)
    (said : forall message, message ∈ messages -> message ≠ "") :
    appendAll "" messages = some (String.ofList (joined messages)) := by
  induction messages using List.reverseRecOn with
  | nil => rfl
  | append_singleton messages message inductionHypothesis =>
      have reached := inductionHypothesis untruncated.before
        fun other member => said other (List.mem_append_left _ member)
      rcases appendAll_started messages with ⟨log, reached', started⟩
      rw [reached] at reached'
      cases reached'
      have short := untruncated messages message (List.prefix_refl _) _ reached
      have some' : message.toList ≠ [] := by
        intro nothing
        exact said message (List.mem_append_right _ (List.mem_singleton.mpr rfl))
          (String.toList_eq_nil_iff.mp nothing)
      have text : (appended (String.ofList (joined messages)) message).toList =
          joined (messages ++ [message]) := by
        rw [toList_appended_of_started started, String.toList_ofList, endLine_append _ some',
          joined, joined, List.flatMap_append, List.flatMap_singleton]
      rw [appendAll_append, reached, Option.bind_some, appendLog_short short, ← text,
        String.ofList_toList]

/-- Whatever is appended to an empty log, no call panics: a log that is too long is
drained up to a boundary inside of it, and what each call leaves ends a line, is
bounded, and says what was appended, or its end behind the marker. -/
theorem update_log_wellformed (messages : List String) (message : String) :
    Exists fun log => Exists fun next =>
      appendAll "" messages = some log ∧ appendLog log message = some next ∧
        next.toList.getLast? = some '\n' ∧
        next.utf8ByteSize ≤ maxLogBytes + truncationMarker.utf8ByteSize ∧
        (Truncates log message ->
          Exists fun cut => Exists fun kept =>
            endLine (log.toList ++ message.toList) = cut ++ kept ∧
              boundary (appended log message) = byteLength cut ∧
              next = truncationMarker ++ String.ofList kept ∧
              maxLogBytes - 3 ≤ byteLength kept) ∧
        (Untruncated (messages ++ [message]) ->
          (forall said, said ∈ messages ++ [message] -> said ≠ "") ->
            next = String.ofList (joined (messages ++ [message]))) := by
  rcases appendAll_started messages with ⟨log, reached, started⟩
  rcases appendLog_wellformed log message with ⟨next, returned, wellformed⟩
  refine ⟨log, next, reached, returned, wellformed.ends, wellformed.bounded, ?_, ?_⟩
  · intro truncates
    rcases boundary_spec (endsLine_appended log message) truncates with
      ⟨cut, split, found, -, least⟩
    rw [appendLog_cut truncates] at returned
    refine ⟨cut, kept (appended log message), ?_, found, (Option.some.inj returned).symm, least⟩
    rw [← toList_appended_of_started started, split]
  · intro untruncated said
    have whole := appendAll_joined untruncated said
    rw [appendAll_append, reached, Option.bind_some, returned] at whole
    exact Option.some.inj whole

/-! ## The log of the service -/

section Status

variable {status : Updater.UpdateStatus}

theorem Started.appendOutput (started : Started status.log) (output : String) :
    Started (status.appendOutput output).log := by
  rw [Updater.UpdateStatus.appendOutput]
  split
  · exact started
  · dsimp only
    exact Started.appendLog _

theorem Started.change (started : Started status.log) (change : Updater.Change) :
    Started (change.apply status).log := by
  cases change with
  | resetForUpdate => exact Or.inl rfl
  | setPhase phase message =>
      rw [Updater.Change.apply, Updater.UpdateStatus.setPhase]
      dsimp only
      exact Started.appendLog message
  | setTargetVersion target => exact started
  | appendCommandOutput stdout stderr =>
      have first : Started (status.appendOutput stdout).log := started.appendOutput stdout
      exact first.appendOutput stderr
  | finishComplete message =>
      rw [Updater.Change.apply, Updater.UpdateStatus.finishComplete]
      dsimp only
      exact Started.appendLog message
  | finishFailed message =>
      rw [Updater.Change.apply, Updater.UpdateStatus.finishFailed]
      dsimp only
      exact Started.appendLog message
  | setRestarting target =>
      rw [Updater.Change.apply, Updater.UpdateStatus.setRestarting]
      dsimp only
      exact Started.appendLog _

end Status

end UpdateLog
end KrakenUi
