import DeviceHarness.Proofs.HostCalls
import DeviceHarness.Suite.TrustedVoice
import Mathlib.Data.List.TakeWhile

/-! Which logs the test for trusted voice passes. The first line that mentions the message decides. It should say the
message and nothing else after its first colon, but what is read ends at the next colon, so a line that says more
behind one passes as well. -/

namespace DeviceHarness

/-- A step passes with a shell command that is answered. -/
theorem Adb.Passes.perform_shellText {adb : Adb} {h : Host} {command : String} {accepts : String → Prop}
    {request : List String} (passes : adb.Passes h (.shell (some command) accepts) request) :
    ∃ reply, accepts reply ∧ (adb.shellText command).perform h = (.ok reply, adb.after h [request]) := by
  obtain ⟨worded, c, completed, reply, printed, accepted⟩ := passes
  obtain rfl : ["shell", command] = request := Option.some.inj worded
  refine ⟨reply, accepted, ?_⟩
  rw [Adb.perform_shellText, completed]
  dsimp only
  rw [Completion.answer_eq_ok.mpr printed]

namespace TrustedVoice

/-! What a line says. -/

/-- All that follows the first colon of a line is a text, but for blanks around it. -/
def Says (line text : String) : Prop :=
  ∃ front rest, line.toList = front ++ ':' :: rest ∧ ':' ∉ front ∧ Text.trimmed rest = text.toList

/-- A text stands between the first and the second colon of a line, and the line goes on. -/
def SaysMore (line text : String) : Prop :=
  ∃ front part more, line.toList = front ++ ':' :: (part ++ ':' :: more) ∧ ':' ∉ front ∧ ':' ∉ part ∧
    Text.trimmed part = text.toList

section Line

variable {line text : String}

theorem said?_of_colon {front rest : List Char} (whole : line.toList = front ++ ':' :: rest) (first : ':' ∉ front) :
    said? line = some (String.ofList (Text.trimmed (rest.takeWhile (· != ':')))) := by
  have plain : ∀ c ∈ front, (c == ':') = false := by
    intro c member
    exact beq_false_of_ne fun same => first (same ▸ member)
  have second : (Text.pieces (· == ':') line.toList)[1]? = some (rest.takeWhile (· != ':')) := by
    rw [whole, Text.pieces_separated rfl, Text.pieces_plain plain, List.singleton_append, List.getElem?_cons_succ,
      ← List.head?_eq_getElem?, Text.head?_pieces]
    rfl
  rw [said?, second]
  rfl

theorem said?_of_no_colon (none : ':' ∉ line.toList) : said? line = .none := by
  have plain : ∀ c ∈ line.toList, (c == ':') = false := by
    intro c member
    exact beq_false_of_ne fun same => none (same ▸ member)
  rw [said?, Text.pieces_plain plain]
  rfl

theorem not_colon_of_trimmed {rest : List Char} (plain : ':' ∉ text.toList) (same : Text.trimmed rest = text.toList) :
    ':' ∉ rest := by
  intro member
  have inside := Text.mem_trimmed member (by decide)
  rw [same] at inside
  exact plain inside

/-- What is read of a line ends at its second colon. -/
theorem said?_eq_some (plain : ':' ∉ text.toList) : said? line = some text ↔ Says line text ∨ SaysMore line text := by
  have whole {rest : List Char} (last : ':' ∉ rest) : rest.takeWhile (· != ':') = rest := by
    rw [List.takeWhile_eq_self_iff]
    intro c member
    exact bne_iff_ne.mpr fun same => last (same ▸ member)
  constructor
  · intro said
    by_cases colon : ':' ∈ line.toList
    · obtain ⟨front, rest, split, first⟩ := List.eq_append_cons_of_mem colon
      rw [said?_of_colon split first] at said
      obtain rfl := Option.some.inj said
      rw [String.toList_ofList] at *
      by_cases again : ':' ∈ rest
      · obtain ⟨part, more, rfl, second⟩ := List.eq_append_cons_of_mem again
        refine .inr ⟨front, part, more, split, first, second, ?_⟩
        rw [Text.takeWhile_ne second, String.toList_ofList]
      · refine .inl ⟨front, rest, split, first, ?_⟩
        rw [whole again, String.toList_ofList]
    · rw [said?_of_no_colon colon] at said
      cases said
  · rintro (⟨front, rest, split, first, same⟩ | ⟨front, part, more, split, first, second, same⟩)
    · rw [said?_of_colon split first, whole (not_colon_of_trimmed plain same), same, String.ofList_toList]
    · rw [said?_of_colon split first, Text.takeWhile_ne second, same, String.ofList_toList]

end Line

/-! What a log says. -/

/-- The first line of a log that mentions the message. -/
def FirstMention (log line : String) : Prop :=
  ∃ before later, Text.lines log = before ++ line :: later ∧ message.toList <:+: line.toList ∧
    ∀ other ∈ before, ¬ message.toList <:+: other.toList

theorem find?_mention {log line : String} :
    (Text.lines log).find? (Text.contains message) = some line ↔ FirstMention log line := by
  simp only [List.find?_eq_some_iff_append, Text.contains, Text.occurs_iff, Bool.not_eq_true', ← Bool.not_eq_true]
  constructor
  · rintro ⟨mentions, before, later, split, none⟩
    exact ⟨before, later, split, mentions, none⟩
  · rintro ⟨before, later, split, mentions, none⟩
    exact ⟨mentions, before, later, split, none⟩

/-- A log without the message in its place is what the device does wrong. -/
theorem judge_cases (log : String) :
    judge log = .ok .passed ∧ found? log = some message ∨
      (∃ text, judge log = .error (.assertion text)) ∧ found? log ≠ some message := by
  unfold judge
  cases found? log with
  | none => exact .inr ⟨⟨_, if_neg (by decide)⟩, nofun⟩
  | some found =>
    by_cases same : found = message
    · exact .inl ⟨if_pos same, congrArg some same⟩
    · exact .inr ⟨⟨_, if_neg same⟩, fun other => same (Option.some.inj other)⟩

theorem found?_eq_message {log : String} :
    found? log = some message ↔ ∃ line, FirstMention log line ∧ (Says line message ∨ SaysMore line message) := by
  have plain : ':' ∉ message.toList := by decide
  simp only [found?, Option.bind_eq_some_iff, find?_mention, said?_eq_some plain]

/-! The test. -/

/-- The commands before the dump are answered, and the dump is the log. -/
def Dumps (adb : Adb) (h : Host) (log : String) : Prop :=
  adb.AllPass h [.shell (some clearCommand) fun _ => True, .shell (some lockCommand) fun _ => True,
    .shell (some startCommand) fun _ => True, .shell (some dumpCommand) (· = log)]

theorem perform_logcat {adb : Adb} {h : Host} {log : String} (dumps : Dumps adb h log) :
    ((logcat adb).perform h).1 = judge log := by
  obtain ⟨_, clears, _, locks, _, starts, _, shows, -⟩ := dumps
  obtain ⟨_, -, cleared⟩ := clears.perform_shellText
  obtain ⟨_, -, locked⟩ := locks.perform_shellText
  obtain ⟨_, -, started⟩ := starts.perform_shellText
  obtain ⟨_, rfl, dumped⟩ := shows.perform_shellText
  unfold logcat
  rw [Action.perform_bind, cleared]
  dsimp only
  rw [Action.perform_bind, locked]
  dsimp only
  rw [Action.perform_bind, started]
  dsimp only
  rw [Action.perform_bind, dumped]
  rfl

theorem perform_runTest (rig : Rig) (s : Station Unit) :
    (((suite rig).runTest "logcat").perform s).1 = ((logcat rig.adb).perform s.bench.host).1 := by
  show ((Station.onHost (logcat rig.adb)).perform s).1 = _
  rw [Station.perform_onHost]

/-- Once its commands are answered, the test passes exactly if the first line of the log that mentions the message says
the message after its first colon and nothing else, or says it up to a second colon. Any other log is what the device
does wrong. -/
theorem logcat_passes_iff (rig : Rig) (s : Station Unit) (log : String) (dumps : Dumps rig.adb s.bench.host log) :
    let result := (((suite rig).runTest "logcat").perform s).1
    (result = .ok .passed ↔ ∃ line, FirstMention log line ∧ (Says line message ∨ SaysMore line message)) ∧
      (result ≠ .ok .passed → ∃ text, result = .error (.assertion text)) := by
  intro result
  have judged : result = judge log := (perform_runTest rig s).trans (perform_logcat dumps)
  rw [judged, ← found?_eq_message]
  rcases judge_cases log with ⟨passed, found⟩ | ⟨⟨text, refused⟩, other⟩
  · exact ⟨iff_of_true passed found, fun failed => absurd passed failed⟩
  · rw [refused]
    exact ⟨iff_of_false nofun other, fun _ => ⟨text, rfl⟩⟩

/-- A host whose device shows one log, and has nothing to say to other commands. -/
def hostShowing (log : String) : Host where
  environment := []
  accountHome := none
  files := ⟨[(["adb"], .program)]⟩
  workdir := []
  respond _ call := ⟨.exited 0, if call.args = ["shell", dumpCommand] then log else "", ""⟩
  history := []
  clock := 0

/-- Whatever was asked before, a command of the test is answered. -/
theorem hostShowing_passes (log : String) (past : List Invocation) {command : String} {accepts : String → Prop}
    (plain : Host.isArgument command = true) (short : command.utf8ByteSize ≤ Host.longestArgument)
    (accepted : accepts (if command = dumpCommand then log else "")) :
    Adb.Passes ⟨"/adb", none⟩ { hostShowing log with history := past } (.shell (some command) accepts)
      ["shell", command] := by
  have located : { hostShowing log with history := past }.locate "/adb" = .ok "adb" := by
    have same : { hostShowing log with history := past }.locate "/adb" = (hostShowing "").locate "/adb" := rfl
    rw [same]
    decide +kernel
  have arguments : ["/adb", "shell", command].all Host.isArgument = true := by
    rw [List.all_cons, List.all_cons, List.all_cons, plain]
    decide
  have fits : { hostShowing log with history := past }.fitsProgram ["/adb", "shell", command] = true := by
    have few : ["/adb", "shell", command].all (·.utf8ByteSize ≤ Host.longestArgument) = true := by
      rw [List.all_cons, List.all_cons, List.all_cons, decide_eq_true short]
      decide
    rw [Host.fitsProgram, few]
    rfl
  obtain ⟨c, completed⟩ := (Adb.reply_isOk ⟨"/adb", none⟩ _ ["shell", command]).mpr ⟨arguments, ⟨"adb", located⟩, fits⟩
  have answer : c = ⟨.exited 0, if ["shell", command] = ["shell", dumpCommand] then log else "", ""⟩ :=
    Adb.reply_eq_respond completed
  have quiet : Adb.connectionError? "" = none := by decide
  refine ⟨rfl, c, completed, _, ⟨?_, ?_, ?_⟩, accepted⟩
  · rw [answer, quiet]
  · rw [answer]
    exact .inl rfl
  · rw [answer]
    simp

theorem dumps_hostShowing (log : String) : Dumps ⟨"/adb", none⟩ (hostShowing log) log := by
  refine ⟨_, hostShowing_passes log _ ?_ ?_ trivial, _, hostShowing_passes log _ ?_ ?_ trivial, _,
    hostShowing_passes log _ ?_ ?_ trivial, _, hostShowing_passes log _ ?_ ?_ (if_pos rfl), trivial⟩
  all_goals decide +kernel

def plainRig : Rig := ⟨⟨"/adb", none⟩, .default⟩

def stationShowing (log : String) : Station Unit := ⟨.ofHost (hostShowing log), ()⟩

theorem logcat_passes_iff_first :
    let log := "--------- beginning of main\nI/Voice( 42): \tTrustedVoiceTestString \nI/Voice( 42): TrustedVoiceTestString: x\n"
    Dumps plainRig.adb (hostShowing log) log ∧
      (((suite plainRig).runTest "logcat").perform (stationShowing log)).1 = .ok .passed := by
  intro log
  have dumps : Dumps plainRig.adb (hostShowing log) log := dumps_hostShowing log
  refine ⟨dumps, (logcat_passes_iff plainRig (stationShowing log) log dumps).1.mpr ?_⟩
  have first : FirstMention log "I/Voice( 42): \tTrustedVoiceTestString " := find?_mention.mp (by decide +kernel)
  exact ⟨_, first, .inl ⟨"I/Voice( 42)".toList, " \tTrustedVoiceTestString ".toList, by decide, by decide, by decide⟩⟩

/-- A line that says more than the message passes the test. -/
theorem more_than_message_passes :
    let log := "I/Voice( 42): TrustedVoiceTestString: not on the lock screen\n"
    Dumps plainRig.adb (hostShowing log) log ∧
      (((suite plainRig).runTest "logcat").perform (stationShowing log)).1 = .ok .passed ∧
      ¬ ∃ line, FirstMention log line ∧ Says line message := by
  intro log
  have dumps : Dumps plainRig.adb (hostShowing log) log := dumps_hostShowing log
  have passed : judge log = .ok .passed := by decide +kernel
  refine ⟨dumps, (perform_runTest ..).trans ((perform_logcat dumps).trans passed), ?_⟩
  rintro ⟨line, first, front, rest, split, before, same⟩
  have only : (Text.lines log).find? (Text.contains message) =
      some "I/Voice( 42): TrustedVoiceTestString: not on the lock screen" := by decide +kernel
  obtain rfl := Option.some.inj (only.symm.trans (find?_mention.mpr first))
  have later : ':' ∉ rest := not_colon_of_trimmed (by decide) same
  have once := congrArg (List.count ':') split
  rw [List.count_append, List.count_cons_self, List.count_eq_zero.mpr before, List.count_eq_zero.mpr later] at once
  exact absurd once (by decide +kernel)

end TrustedVoice
end DeviceHarness
