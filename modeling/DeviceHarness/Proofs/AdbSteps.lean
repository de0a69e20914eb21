import DeviceHarness.Adb.Client
import DeviceHarness.Proofs.Numerals

/-! Work with the device as steps that are taken in turn. A step sends one request. The first step whose
request cannot be worded or sent, or whose completion will not do, is the last one that is taken. -/

namespace DeviceHarness

/-- What a shell command printed, which counts unless the connection failed or the command failed without
a word. -/
def Completion.Prints (c : Completion) (reply : String) : Prop :=
  Adb.connectionError? c.err = none ∧ (c.succeeded = true ∨ c.out.isEmpty = false ∨ Text.blank c.err = false) ∧
    reply = c.out ++ c.err

theorem Completion.answer_eq_ok {c : Completion} {command reply : String} :
    c.answer command = .ok reply ↔ c.Prints reply := by
  unfold answer transportFailure? Prints
  cases Adb.connectionError? c.err with
  | some e => simp
  | none =>
    cases c.succeeded <;> cases c.out.isEmpty <;> cases Text.blank c.err <;> simp [eq_comm]

/-- A shell command failed without telling what became of it: the client reported the connection, or the
command ended without success and without a word. -/
inductive Completion.TransportFailure (c : Completion) (command : String) : Error → Prop where
  | reported {e : Error} (report : Adb.connectionError? c.err = some e) : TransportFailure c command e
  | silent (noReport : Adb.connectionError? c.err = none) (failed : c.succeeded = false) (noOutput : c.out = "")
      (noComplaint : Text.blank c.err = true) :
      TransportFailure c command (.command c.status ("`" ++ command ++ "` failed without output"))

theorem Completion.answer_eq_error {c : Completion} {command : String} {e : Error} :
    c.answer command = .error e ↔ c.TransportFailure command e := by
  unfold answer transportFailure?
  constructor
  · intro failed
    cases report : Adb.connectionError? c.err with
    | some reported =>
      rw [report] at failed
      obtain rfl := Except.error.inj failed
      exact .reported report
    | none =>
      rw [report] at failed
      dsimp only at failed
      split at failed
      next silent =>
        split at silent
        next quiet =>
          obtain rfl := Option.some.inj silent
          obtain rfl := Except.error.inj failed
          simp only [Bool.and_eq_true, Bool.not_eq_true', String.isEmpty_iff] at quiet
          exact .silent report quiet.1.1 quiet.1.2 quiet.2
        next => cases silent
      next => cases failed
  · intro failed
    cases failed with
    | reported report => rw [report]
    | silent noReport failed noOutput noComplaint => simp [noReport, failed, noOutput, noComplaint]

theorem Host.isArgument_numbered {start : String} (plain : isArgument start = true) (n : Int) :
    isArgument (start ++ Integer.text n) = true := by
  have number : '\x00' ∉ (Integer.text n).toList := by
    rw [Integer.text, String.toList_ofList]
    intro member
    rcases Integer.mem_notationOf member with sign | digit
    · cases sign
    · cases digit
  have front : '\x00' ∉ start.toList := by simpa [isArgument] using plain
  simp [isArgument, number, front]

theorem Host.numbered_short {start : String} {n : Int} (short : start.utf8ByteSize ≤ 1000)
    (small : n.natAbs < Nat.pow 10 19) : (start ++ Integer.text n).utf8ByteSize ≤ longestArgument := by
  have length := Integer.length_notationOf_le (by decide) small
  have size := Integer.utf8ByteSize_ofList_le (Integer.notationOf n)
  rw [String.utf8ByteSize_append, Integer.text, longestArgument]
  omega

theorem Host.locate_history (h : Host) (history : List Invocation) (program : String) :
    { h with history }.locate program = h.locate program := rfl

namespace Adb

/-- A request to the device, if it can be worded, and which of its completions will do. -/
structure Step where
  request : Option (List String)
  accepts : Completion → Prop

/-- A shell command, if it can be worded, whose answer has to be as it should. -/
def Step.shell (command : Option String) (accepts : String → Prop) : Step where
  request := command.map fun command => ["shell", command]
  accepts c := ∃ reply, c.Prints reply ∧ accepts reply

section Requests

variable (adb : Adb) (h : Host)

/-- The run of the client that a request leads to. -/
def invocation (request : List String) : Invocation :=
  ⟨(h.locate adb.program).toOption.getD adb.program, adb.arguments request⟩

/-- The host after requests: they are in its history, and all else is as before. -/
def after (sent : List (List String)) : Host :=
  { h with history := h.history ++ sent.map (adb.invocation h) }

@[simp] theorem after_nil : adb.after h [] = h := by simp [after]

@[simp] theorem after_after (sent later : List (List String)) :
    adb.after (adb.after h sent) later = adb.after h (sent ++ later) := by
  have same : adb.invocation (adb.after h sent) = adb.invocation h := by
    funext request
    unfold invocation
    rw [after, Host.locate_history]
  rw [after, same]
  simp [after]

/-- The completion of a request, or why it could not be sent. -/
def reply (request : List String) : Except Error Completion := ((adb.request request).perform h).1

/-- A request that is sent is added to the history. One that is not leaves the host alone. -/
theorem perform_request (request : List String) :
    (adb.request request).perform h =
      match adb.reply h request with
      | .ok c => (.ok c, adb.after h [request])
      | .error e => (.error e, h) := by
  simp only [reply, Adb.request, Host.run, Action.perform, ExceptT.run, ExceptT.mk, StateT.run]
  split
  · rfl
  · split
    · rfl
    next name found =>
      have call : adb.invocation h request = ⟨name, adb.arguments request⟩ := by
        simp [invocation, found, Except.toOption]
      split
      · rfl
      · simp [after, call]

theorem reply_isOk (request : List String) :
    (∃ c, adb.reply h request = .ok c) ↔
      (adb.program :: adb.arguments request).all Host.isArgument = true ∧
        (∃ name, h.locate adb.program = .ok name) ∧
        h.fitsProgram (adb.program :: adb.arguments request) = true := by
  simp only [reply, Adb.request, Host.run, Action.perform, ExceptT.run, ExceptT.mk, StateT.run]
  cases (adb.program :: adb.arguments request).all Host.isArgument with
  | false => simp
  | true =>
    cases h.locate adb.program with
    | error fault => simp
    | ok name => cases h.fitsProgram (adb.program :: adb.arguments request) <;> simp

/-- A host that has the same programs and room sends the same requests, and only its answers differ. -/
theorem reply_map (other : Host) (change : Completion → Completion)
    (place : other.locate adb.program = h.locate adb.program) (room : other.fitsProgram = h.fitsProgram)
    (answers : ∀ call, other.respond other.history call = change (h.respond h.history call)) (request : List String) :
    adb.reply other request = (adb.reply h request).map change := by
  simp only [reply, Adb.request, Host.run, Action.perform, ExceptT.run, ExceptT.mk, StateT.run, place, room, answers]
  cases (adb.program :: adb.arguments request).all Host.isArgument with
  | false => rfl
  | true =>
    cases h.locate adb.program with
    | error fault => rfl
    | ok name => cases h.fitsProgram (adb.program :: adb.arguments request) <;> rfl

theorem arguments_eq (request : List String) : adb.arguments request = adb.arguments [] ++ request := by
  unfold arguments
  cases adb.serial <;> rfl

/-- Once a request was sent, so is every later one that can be handed to a program. -/
theorem reply_later {request later : List String} {c : Completion} (sent : adb.reply h request = .ok c)
    (before : List (List String)) (plain : later.all Host.isArgument = true)
    (short : later.all (·.utf8ByteSize ≤ Host.longestArgument) = true) :
    ∃ c, adb.reply (adb.after h before) later = .ok c := by
  obtain ⟨arguments, ⟨name, found⟩, fits⟩ := (adb.reply_isOk h request).mp ⟨c, sent⟩
  refine (adb.reply_isOk (adb.after h before) later).mpr ⟨?_, ⟨name, ?_⟩, ?_⟩
  · rw [arguments_eq, List.all_cons, List.all_append, Bool.and_eq_true, Bool.and_eq_true] at arguments ⊢
    exact ⟨arguments.1, arguments.2.1, plain⟩
  · rw [after, Host.locate_history, found]
  · simp only [Host.fitsProgram, Bool.and_eq_true, arguments_eq adb request, arguments_eq adb later,
      List.all_cons, List.all_append] at fits ⊢
    obtain ⟨⟨program, prior, -⟩, environment⟩ := fits
    exact ⟨⟨program, prior, short⟩, environment⟩

/-- Once a request was sent, so is every later shell command that ends in a number. -/
theorem reply_numbered {request : List String} {c : Completion} (sent : adb.reply h request = .ok c)
    (before : List (List String)) {start : String} {n : Int} (plain : Host.isArgument start = true)
    (short : start.utf8ByteSize ≤ 1000) (small : n.natAbs < Nat.pow 10 19) :
    ∃ c, adb.reply (adb.after h before) ["shell", start ++ Integer.text n] = .ok c := by
  refine adb.reply_later h sent before ?_ ?_
  · simp only [List.all_cons, List.all_nil, Host.isArgument_numbered plain, Bool.and_true]
    decide
  · simp only [List.all_cons, List.all_nil, Host.numbered_short short small, decide_true, Bool.and_true]
    decide

end Requests

/-! Steps in turn. -/

variable (adb : Adb)

/-- A step passes: its request can be worded and sent, and the completion will do. -/
def Passes (h : Host) (step : Step) (request : List String) : Prop :=
  step.request = some request ∧ ∃ c, adb.reply h request = .ok c ∧ step.accepts c

/-- Every step passes on the host that the steps before it leave. -/
def AllPass : Host → List Step → Prop
  | _, [] => True
  | h, step :: rest => ∃ request, adb.Passes h step request ∧ AllPass (adb.after h [request]) rest

/-- Which requests are sent when steps are taken in turn, and whether all of them pass. -/
inductive Takes : Host → List Step → List (List String) → Bool → Prop where
  | done {h} : Takes h [] [] true
  | unworded {h step rest} (none : step.request = none) : Takes h (step :: rest) [] false
  | unsent {h step rest request e} (worded : step.request = some request)
      (failed : adb.reply h request = .error e) : Takes h (step :: rest) [] false
  | refused {h step rest request c} (worded : step.request = some request)
      (completed : adb.reply h request = .ok c) (refused : ¬ step.accepts c) :
      Takes h (step :: rest) [request] false
  | next {h step rest request sent ended} (passes : adb.Passes h step request)
      (later : Takes (adb.after h [request]) rest sent ended) : Takes h (step :: rest) (request :: sent) ended

variable {adb} {h : Host} {steps : List Step} {sent : List (List String)} {ended : Bool}

theorem Takes.sent_prefix (takes : adb.Takes h steps sent ended) :
    sent.map some <+: steps.map Step.request := by
  induction takes with
  | done | unworded | unsent => exact List.nil_prefix
  | refused worded => simp [worded]
  | next passes later ih =>
    rw [List.map_cons, List.map_cons, passes.1]
    exact (List.prefix_cons_inj _).mpr ih

/-- Steps that all pass send all their requests. -/
theorem Takes.sent_of_ended (takes : adb.Takes h steps sent ended) (all : ended = true) :
    sent.map some = steps.map Step.request := by
  induction takes with
  | done => rfl
  | unworded | unsent | refused => cases all
  | next passes later ih => rw [List.map_cons, List.map_cons, passes.1, ih all]

/-- Every step whose request is not the last one sent has passed. -/
theorem Takes.passed (takes : adb.Takes h steps sent ended) {i : Nat} {step : Step}
    (found : steps[i]? = some step) (earlier : i + 1 < sent.length) :
    ∃ request, adb.Passes (adb.after h (sent.take i)) step request := by
  induction takes generalizing i with
  | done | unworded | unsent | refused => simp at earlier
  | next passes later ih =>
    cases i with
    | zero =>
      obtain rfl := Option.some.inj found
      exact ⟨_, by simpa using passes⟩
    | succ i =>
      obtain ⟨request, passed⟩ := ih found (by simpa using earlier)
      exact ⟨request, by simpa using passed⟩

section Passes

variable {step : Step} {request other : List String}

theorem Passes.request_eq (passes : adb.Passes h step other) (worded : step.request = some request) :
    other = request := Option.some.inj (passes.1.symm.trans worded)

theorem Passes.not_unworded (passes : adb.Passes h step other) : step.request ≠ none := by
  intro none
  cases none.symm.trans passes.1

theorem Passes.completed (passes : adb.Passes h step other) (worded : step.request = some request) :
    ∃ c, adb.reply h request = .ok c ∧ step.accepts c := by
  obtain rfl := passes.request_eq worded
  exact passes.2

theorem allPass_cons (passes : adb.Passes h step request) :
    adb.AllPass h (step :: steps) ↔ adb.AllPass (adb.after h [request]) steps := by
  constructor
  · rintro ⟨other, same, all⟩
    obtain rfl := same.request_eq passes.1
    exact all
  · intro all
    exact ⟨request, passes, all⟩

end Passes

/-- Of steps that all pass the later ones do so on the host that the earlier ones leave. -/
theorem AllPass.later {later : List Step} (all : adb.AllPass h (steps ++ later)) :
    ∃ sent, adb.AllPass (adb.after h sent) later := by
  induction steps generalizing h with
  | nil => exact ⟨[], by simpa using all⟩
  | cons step rest ih =>
    obtain ⟨request, -, remaining⟩ := all
    obtain ⟨sent, passed⟩ := ih remaining
    exact ⟨request :: sent, by simpa using passed⟩

theorem Takes.ended_iff (takes : adb.Takes h steps sent ended) : ended = true ↔ adb.AllPass h steps := by
  induction takes with
  | done => exact iff_of_true rfl trivial
  | unworded none =>
    refine iff_of_false Bool.false_ne_true ?_
    rintro ⟨request, passes, -⟩
    exact passes.not_unworded none
  | unsent worded failed =>
    refine iff_of_false Bool.false_ne_true ?_
    rintro ⟨request, passes, -⟩
    obtain ⟨c, completed, -⟩ := passes.completed worded
    cases failed.symm.trans completed
  | refused worded completed refused =>
    refine iff_of_false Bool.false_ne_true ?_
    rintro ⟨request, passes, -⟩
    obtain ⟨d, same, accepted⟩ := passes.completed worded
    obtain rfl := Except.ok.inj (completed.symm.trans same)
    exact refused accepted
  | next passes later ih => rw [ih, allPass_cons passes]

theorem Takes.append {later : List Step} {more : List (List String)}
    (takes : adb.Takes h steps sent true) (onward : adb.Takes (adb.after h sent) later more ended) :
    adb.Takes h (steps ++ later) (sent ++ more) ended := by
  generalize whole : true = all at takes
  induction takes with
  | done => simpa using onward
  | unworded | unsent | refused => cases whole
  | next passes later ih => exact .next passes (ih (by simpa using onward) whole)

theorem Takes.stop {later : List Step} (takes : adb.Takes h steps sent false) :
    adb.Takes h (steps ++ later) sent false := by
  generalize part : false = all at takes
  induction takes with
  | done => cases part
  | unworded none => exact .unworded none
  | unsent worded failed => exact .unsent worded failed
  | refused worded completed refused => exact .refused worded completed refused
  | next passes later ih => exact .next passes (ih part)

theorem Takes.not_allPass (takes : adb.Takes h steps sent false) : ¬ adb.AllPass h steps := by
  intro all
  cases takes.ended_iff.mpr all

/-- The last step is taken exactly if all steps before it pass, as long as its request can be sent. -/
theorem Takes.last_sent {last : Step} {request : List String} (takes : adb.Takes h (steps ++ [last]) sent ended)
    (worded : last.request = some request)
    (sendable : adb.AllPass h steps → ∃ c, adb.reply (adb.after h (sent.take steps.length)) request = .ok c) :
    sent.length = steps.length + 1 ↔ adb.AllPass h steps := by
  -- On the steps before the last: each of them stops the run, or leaves a shorter one.
  induction steps generalizing h sent with
  | nil =>
    refine iff_of_true ?_ trivial
    obtain ⟨c, completed⟩ := sendable trivial
    cases takes with
    | unworded none => cases none.symm.trans worded
    | unsent same failed =>
      obtain rfl := Option.some.inj (same.symm.trans worded)
      rw [List.take_nil, after_nil] at completed
      cases failed.symm.trans completed
    | refused => rfl
    | next passes later =>
      cases later
      rfl
  | cons step rest ih =>
    cases takes with
    | unworded none => exact iff_of_false (by simp) (Takes.unworded none).not_allPass
    | unsent same failed => exact iff_of_false (by simp) (Takes.unsent same failed).not_allPass
    | refused same completed refused =>
      exact iff_of_false (by simp) (Takes.refused same completed refused).not_allPass
    | next passes later =>
      rw [allPass_cons passes] at sendable ⊢
      rw [List.length_cons, List.length_cons, Nat.add_right_cancel_iff]
      exact ih later fun all => by simpa using sendable all

/-! Work on a host that takes steps. -/

/-- An outcome of work on a host is that of taking steps: it leaves the host with their requests, and
it is a success exactly if all steps pass. -/
def Follows {α : Type} (adb : Adb) (h : Host) (steps : List Step) (outcome : Except Error α × Host) : Prop :=
  ∃ sent, adb.Takes h steps sent outcome.1.isOk ∧ outcome.2 = adb.after h sent

variable {α β : Type}

theorem Follows.pure (value : α) : adb.Follows h [] (.ok value, h) := ⟨[], .done, (adb.after_nil h).symm⟩

theorem Follows.single {step : Step} {request : List String} {outcome : Except Error α × Host}
    (judge : Completion → Except Error α) (worded : step.request = some request)
    (accepts : ∀ c, adb.reply h request = .ok c → (step.accepts c ↔ (judge c).isOk = true))
    (performed : outcome = match adb.reply h request with
      | .ok c => (judge c, adb.after h [request])
      | .error e => (.error e, h)) : adb.Follows h [step] outcome := by
  cases completed : adb.reply h request with
  | error e =>
    rw [completed] at performed
    subst performed
    exact ⟨[], .unsent worded completed, (adb.after_nil h).symm⟩
  | ok c =>
    rw [completed] at performed
    subst performed
    refine ⟨[request], ?_, rfl⟩
    cases ok : (judge c).isOk with
    | true => exact .next ⟨worded, c, completed, (accepts c completed).mpr ok⟩ .done
    | false => exact .refused worded completed fun accepted => by simp [(accepts c completed).mp accepted] at ok

theorem perform_shellText (adb : Adb) (h : Host) (command : String) :
    (adb.shellText command).perform h =
      match adb.reply h ["shell", command] with
      | .ok c => (c.answer command, adb.after h [["shell", command]])
      | .error e => (.error e, h) := by
  unfold shellText shell
  rw [Action.perform_bind, perform_request]
  cases adb.reply h ["shell", command] <;> rfl

theorem Follows.shell {command : String} {accepts : String → Prop} {work : String → Action Host α}
    (judge : String → Except Error α) (judges : ∀ reply left, (work reply).perform left = (judge reply, left))
    (accepted : ∀ c reply, adb.reply h ["shell", command] = .ok c → c.Prints reply →
      (accepts reply ↔ (judge reply).isOk = true)) :
    adb.Follows h [.shell (some command) accepts] ((adb.shellText command >>= work).perform h) := by
  refine Follows.single (fun c => c.answer command >>= judge) rfl ?_ ?_
  · intro c completed
    cases answer : c.answer command with
    | error e =>
      refine iff_of_false ?_ Bool.false_ne_true
      rintro ⟨reply, printed, -⟩
      rw [Completion.answer_eq_ok.mpr printed] at answer
      cases answer
    | ok reply =>
      have printed := Completion.answer_eq_ok.mp answer
      refine Iff.trans ?_ (accepted c reply completed printed)
      constructor
      · rintro ⟨other, same, accepted⟩
        obtain rfl := same.2.2.trans printed.2.2.symm
        exact accepted
      · intro accepted
        exact ⟨reply, printed, accepted⟩
  · rw [Action.perform_bind_judged judge judges, perform_shellText]
    cases adb.reply h ["shell", command] <;> rfl

theorem Follows.bind {later : List Step} {a : Action Host α} {next : α → Action Host β}
    (first : adb.Follows h steps (a.perform h))
    (onward : ∀ value left, a.perform h = (.ok value, left) → adb.Follows left later ((next value).perform left)) :
    adb.Follows h (steps ++ later) ((a >>= next).perform h) := by
  rw [Action.perform_bind]
  obtain ⟨sent, takes, left⟩ := first
  generalize performed : a.perform h = outcome at *
  obtain ⟨result, host⟩ := outcome
  obtain rfl := left
  cases result with
  | error e => exact ⟨sent, takes.stop, rfl⟩
  | ok value =>
    obtain ⟨more, ended, left⟩ := onward value _ rfl
    exact ⟨sent ++ more, takes.append ended, by rw [left, after_after]⟩

end Adb
end DeviceHarness
