import DeviceHarness.Proofs.InstallOrder

/-! Where the APKs of an install session wait on the device. The index at the front of each name can be read back, so
no two APKs wait at one place, whatever their names are, and each is written into the session from the place it was
pushed to. -/

namespace DeviceHarness.Install

/-- The file that a request pushes, and the path it is pushed to. -/
def pushed? : List String → Option (String × String)
  | ["push", file, remote] => some (file, remote)
  | _ => none

/-- The command of a request that writes an APK into a session. -/
def written? : List String → Option String
  | ["shell", command] => if Text.startsWith "pm install-write " command then some command else none
  | _ => none

def pushes (sent : List (List String)) : List (String × String) := sent.filterMap pushed?

def writes (sent : List (List String)) : List String := sent.filterMap written?

namespace Session

variable {adb : Adb} {s : Session} {h : Host} {id : Int} {sent : List (List String)}

/-! Names of waiting APKs. -/

theorem toList_stagedName (index : Nat) (name : String) :
    (stagedName index name).toList = Integer.notationOf index ++ '_' :: name.toList := by
  simp [stagedName, Integer.text]

theorem not_mem_notationOf {n : Int} {c : Char} (sign : c ≠ '-') (other : Integer.isDigit c = false) :
    c ∉ Integer.notationOf n := by
  intro member
  rcases Integer.mem_notationOf member with same | digit
  · exact sign same
  · rw [other] at digit
    cases digit

/-- The index ends at the first underscore. -/
theorem stagedName_index {i j : Nat} {name other : String} (same : stagedName i name = stagedName j other) : i = j := by
  have front (n : Nat) (name : String) :
      (stagedName n name).toList.takeWhile (· != '_') = Integer.notationOf n := by
    rw [toList_stagedName]
    exact Text.takeWhile_ne (not_mem_notationOf (by decide) (by decide))
  have read : Integer.notationOf i = Integer.notationOf j := by rw [← front i name, ← front j other, same]
  exact Int.ofNat.inj (Integer.notationOf_inj.mp read)

/-- An APK waits as a file of its own, right below the folder for such files. -/
theorem components_staged {apk name : String} (named : Path.fileName? apk = some name) (index : Nat) :
    Path.components (staged (stagedName index name)) = ["data", "local", "tmp", stagedName index name] := by
  have slashless : '/' ∉ (stagedName index name).toList := by
    have rest := Path.not_slash_of_mem_components (Path.mem_components_of_fileName? named)
    have number : '/' ∉ Integer.notationOf index := not_mem_notationOf (by decide) (by decide)
    simpa [toList_stagedName, number] using rest
  have underscore : '_' ∈ (stagedName index name).toList := by simp [toList_stagedName]
  have folder : Path.components stagingDir = ["data", "local", "tmp"] := by decide +kernel
  rw [staged, Path.components_below slashless ?_ ?_, folder]
  · rfl
  · intro empty
    simp [empty] at underscore
  · intro point
    simp [point] at underscore

/-! What the requests of a session stage. -/

@[simp] theorem pushes_push (file remote : String) (later : List (List String)) :
    pushes (["push", file, remote] :: later) = (file, remote) :: pushes later := rfl

@[simp] theorem pushes_shell (command : String) (later : List (List String)) :
    pushes (["shell", command] :: later) = pushes later := rfl

@[simp] theorem writes_push (file remote : String) (later : List (List String)) :
    writes (["push", file, remote] :: later) = writes later := rfl

theorem writes_shell (command : String) (later : List (List String)) :
    writes (["shell", command] :: later) =
      if Text.startsWith "pm install-write " command then command :: writes later else writes later := by
  have read : written? ["shell", command] =
      if Text.startsWith "pm install-write " command then some command else none := rfl
  unfold writes
  rw [List.filterMap_cons, read]
  cases Text.startsWith "pm install-write " command <;> rfl

theorem writes_write (id : Int) (name : String) (later : List (List String)) :
    writes (["shell", writeCommand id name] :: later) = writeCommand id name :: writes later := by
  have begins : Text.startsWith "pm install-write " (writeCommand id name) = true := by
    unfold Text.startsWith Text.beginsWith writeCommand
    simp
  rw [writes_shell, if_pos begins]

theorem writes_commit (id : Int) (later : List (List String)) :
    writes (["shell", "pm install-commit " ++ Integer.text id] :: later) = writes later := by
  have other : Text.startsWith "pm install-write " ("pm install-commit " ++ Integer.text id) = false := by
    unfold Text.startsWith Text.beginsWith
    rw [String.toList_append]
    rfl
  rw [writes_shell, other]
  rfl

theorem writes_create (s : Session) (later : List (List String)) :
    writes (["shell", s.createCommand] :: later) = writes later := by
  have other : Text.startsWith "pm install-write " s.createCommand = false := by
    unfold Text.startsWith Text.beginsWith createCommand
    rw [String.append_assoc, String.toList_append]
    rfl
  rw [writes_shell, other]
  rfl

/-- The requests stage these APKs, each with its name, from the index on. -/
structure Stages (id : Int) (index : Nat) (sent : List (List String)) (staging : List (String × String)) : Prop where
  named : ∀ p ∈ staging, Path.fileName? p.1 = some p.2
  pushed : pushes sent = (staging.zipIdx index).map fun (p, i) => (p.1, staged (stagedName i p.2))
  written : writes sent <+: (staging.zipIdx index).map fun (p, i) => writeCommand id (stagedName i p.2)

theorem stages_nil (index : Nat) (pushed : pushes sent = []) (written : writes sent = []) : Stages id index sent [] :=
  ⟨nofun, pushed, by simp [written]⟩

/-- An APK that was pushed, and then perhaps written, comes before those that follow. -/
theorem Stages.cons {index : Nat} {apk name : String} {later : List (List String)} {staging : List (String × String)}
    (named : Path.fileName? apk = some name) (stages : Stages id (index + 1) later staging) :
    Stages id index (["push", apk, staged (stagedName index name)] ::
      ["shell", writeCommand id (stagedName index name)] :: later) ((apk, name) :: staging) where
  named := List.forall_mem_cons.mpr ⟨named, stages.named⟩
  pushed := by
    rw [pushes_push, pushes_shell, stages.pushed]
    rfl
  written := by
    rw [writes_push, writes_write]
    exact List.cons_prefix_cons.mpr ⟨rfl, stages.written⟩

theorem stages_pushed (index : Nat) {apk name : String} (named : Path.fileName? apk = some name) :
    Stages id index [["push", apk, staged (stagedName index name)]] [(apk, name)] where
  named := by simpa using named
  pushed := rfl
  written := List.nil_prefix

/-- What is pushed has a name. -/
theorem exists_name_of_request {index : Nat} {apk : String} {request : List String}
    (worded : some request = (pushStep index apk).request) :
    ∃ name, Path.fileName? apk = some name ∧ request = ["push", apk, staged (stagedName index name)] := by
  cases named : Path.fileName? apk with
  | none => simp [pushStep, waitingName?, named] at worded
  | some name =>
    rw [pushStep_named named] at worded
    exact ⟨name, rfl, Option.some.inj worded⟩

/-- Each APK is pushed before it is written, and the first one without a name ends the requests. -/
theorem exists_stages (index : Nat) (apks : List String)
    (starts : sent.map some <+: (apkSteps id index apks).map Adb.Step.request ++
      [some ["shell", "pm install-commit " ++ Integer.text id]]) :
    ∃ staging, staging.map Prod.fst <+: apks ∧ Stages id index sent staging := by
  induction apks generalizing index sent with
  | nil =>
    refine ⟨[], List.nil_prefix, ?_⟩
    cases sent with
    | nil => exact stages_nil index rfl rfl
    | cons request later =>
      obtain ⟨commit, rest⟩ := List.cons_prefix_cons.mp starts
      obtain rfl := Option.some.inj commit
      obtain rfl : later = [] := by simpa using rest
      exact stages_nil index rfl (writes_commit id [])
  | cons apk rest ih =>
    have steps : apkSteps id index (apk :: rest) =
        pushStep index apk :: writeStep id index apk :: apkSteps id (index + 1) rest := rfl
    rw [steps, List.map_cons, List.map_cons] at starts
    cases sent with
    | nil => exact ⟨[], List.nil_prefix, stages_nil index rfl rfl⟩
    | cons request later =>
      obtain ⟨push, afterPush⟩ := List.cons_prefix_cons.mp starts
      obtain ⟨name, named, rfl⟩ := exists_name_of_request push
      cases later with
      | nil => exact ⟨[(apk, name)], by simp, stages_pushed index named⟩
      | cons request later =>
        obtain ⟨write, afterWrite⟩ := List.cons_prefix_cons.mp afterPush
        rw [writeStep_named named] at write
        obtain rfl := Option.some.inj write
        obtain ⟨staging, front, stages⟩ := ih (index + 1) afterWrite
        exact ⟨(apk, name) :: staging, List.cons_prefix_cons.mpr ⟨rfl, front⟩, stages.cons named⟩

/-- Where no request is missing, each APK is pushed and written. -/
theorem staged_all (index : Nat) (apks : List String)
    (whole : sent.map some = (apkSteps id index apks).map Adb.Step.request ++
      [some ["shell", "pm install-commit " ++ Integer.text id]]) :
    (pushes sent).map Prod.fst = apks ∧ (writes sent).length = apks.length := by
  induction apks generalizing index sent with
  | nil =>
    obtain ⟨request, rfl, commit⟩ := List.map_eq_singleton_iff.mp whole
    obtain rfl := Option.some.inj commit
    rw [writes_commit]
    exact ⟨rfl, rfl⟩
  | cons apk rest ih =>
    have steps : apkSteps id index (apk :: rest) =
        pushStep index apk :: writeStep id index apk :: apkSteps id (index + 1) rest := rfl
    rw [steps, List.map_cons, List.map_cons] at whole
    obtain ⟨request, afterPush, rfl, push, onward⟩ := List.map_eq_cons_iff.mp whole
    obtain ⟨other, later, rfl, write, remaining⟩ := List.map_eq_cons_iff.mp onward
    obtain ⟨name, named, rfl⟩ := exists_name_of_request push
    rw [writeStep_named named] at write
    obtain rfl := Option.some.inj write
    obtain ⟨files, count⟩ := ih (index + 1) remaining
    rw [pushes_push, pushes_shell, writes_push, writes_write]
    exact ⟨congrArg (apk :: ·) files, congrArg (· + 1) count⟩

theorem Stages.create {index : Nat} {staging : List (String × String)} (stages : Stages id index sent staging)
    (s : Session) : Stages id index (["shell", s.createCommand] :: sent) staging where
  named := stages.named
  pushed := stages.pushed
  written := by
    rw [writes_create]
    exact stages.written

/-- Whatever the device answers, the requests of a session stage the first of its APKs, and all of them if the session
succeeds. -/
theorem execute_stages (adb : Adb) (s : Session) (h : Host) :
    ∃ id sent staging, ((execute adb s).perform h).2 = adb.after h sent ∧ staging.map Prod.fst <+: s.apks ∧
      Stages id 0 sent staging ∧
      (((execute adb s).perform h).1.isOk = true →
        (pushes sent).map Prod.fst = s.apks ∧ (writes sent).length = s.apks.length) := by
  obtain ⟨id, agrees⟩ := exists_agreed_id adb s h
  have follows := session_judged (fun _ _ => True) (fun id reply => pure (id, reply)) (fun id reply => .ok (id, reply))
    (fun _ _ _ => rfl) (fun _ _ => iff_of_true trivial rfl) agrees
  replace follows : adb.Follows h _ ((execute adb s >>= pure).perform h) := follows
  rw [bind_pure] at follows
  obtain ⟨sent, takes, left⟩ := follows
  have starts := takes.sent_prefix
  rw [steps, List.cons_append, List.map_cons, List.map_append] at starts
  cases sent with
  | nil =>
    refine ⟨id, [], [], left, List.nil_prefix, stages_nil 0 rfl rfl, fun ended => ?_⟩
    cases takes.sent_of_ended ended
  | cons request later =>
    obtain ⟨created, rest⟩ := List.cons_prefix_cons.mp starts
    obtain rfl := Option.some.inj created
    obtain ⟨staging, front, stages⟩ := exists_stages 0 s.apks rest
    refine ⟨id, _, staging, left, front, stages.create s, fun ended => ?_⟩
    have whole := takes.sent_of_ended ended
    rw [steps, List.cons_append, List.map_cons, List.map_cons, List.map_append] at whole
    rw [pushes_shell, writes_create]
    exact staged_all 0 s.apks (List.cons.inj whole).2

theorem getElem?_of_prefix {α : Type} {front whole : List α} {i : Nat} {a : α} (starts : front <+: whole)
    (found : front[i]? = some a) : whole[i]? = some a := by
  obtain ⟨inside, rfl⟩ := List.getElem?_eq_some_iff.mp found
  exact List.prefix_iff_getElem?.mp starts i inside

theorem Stages.getElem?_pushes {index : Nat} {staging : List (String × String)} (stages : Stages id 0 sent staging) :
    (pushes sent)[index]? = staging[index]?.map fun p => (p.1, staged (stagedName index p.2)) := by
  rw [stages.pushed]
  cases found : staging[index]? <;> simp [found]

/-- Different APKs of a session wait in different files, since their indices differ. -/
theorem Stages.apart {staging : List (String × String)} (stages : Stages id 0 sent staging) :
    (pushes sent).Pairwise fun first second => Path.components first.2 ≠ Path.components second.2 := by
  have place {i : Nat} (inside : i < (pushes sent).length) :
      ∃ name, Path.components (pushes sent)[i].2 = ["data", "local", "tmp", stagedName i name] := by
    have found : (pushes sent)[i]? = _ := stages.getElem?_pushes
    rw [List.getElem?_eq_getElem inside] at found
    obtain ⟨p, member, same⟩ := Option.map_eq_some_iff.mp found.symm
    refine ⟨p.2, ?_⟩
    rw [← same]
    exact components_staged (stages.named p (List.mem_of_getElem? member)) i
  rw [List.pairwise_iff_getElem]
  intro i j inside within before same
  obtain ⟨name, first⟩ := place inside
  obtain ⟨other, second⟩ := place within
  rw [first, second] at same
  have index : i = j := stagedName_index (by simpa using same)
  omega

/-- No two APKs of a session are pushed to one file, not even the same APK twice. The APKs are pushed in order, and each
is written from where it was pushed to, under the session's id. A session that succeeds has pushed and written all. -/
theorem staged_apart (adb : Adb) (s : Session) (h : Host) :
    ∃ id sent, ((execute adb s).perform h).2 = adb.after h sent ∧
      (pushes sent).map Prod.fst <+: s.apks ∧
      (((execute adb s).perform h).1.isOk = true →
        (pushes sent).map Prod.fst = s.apks ∧ (writes sent).length = s.apks.length) ∧
      (pushes sent).Pairwise (fun first second => Path.components first.2 ≠ Path.components second.2) ∧
      ∀ (index : Nat) (command : String), (writes sent)[index]? = some command →
        ∃ apk name, s.apks[index]? = some apk ∧ Path.fileName? apk = some name ∧
          let waiting := Integer.text index ++ "_" ++ name
          let remote := "/data/local/tmp/" ++ waiting
          (pushes sent)[index]? = some (apk, remote) ∧
            command = "pm install-write " ++ Integer.text id ++ " " ++ waiting ++ " " ++ remote := by
  obtain ⟨id, sent, staging, left, front, stages, all⟩ := execute_stages adb s h
  have files : (pushes sent).map Prod.fst = staging.map Prod.fst := by
    refine List.ext_getElem? fun i => ?_
    rw [List.getElem?_map, List.getElem?_map, stages.getElem?_pushes, Option.map_map]
    rfl
  refine ⟨id, sent, left, files ▸ front, all, stages.apart, fun index command found => ?_⟩
  obtain ⟨p, member, rfl⟩ : ∃ p, staging[index]? = some p ∧ writeCommand id (stagedName index p.2) = command := by
    simpa using getElem?_of_prefix stages.written found
  refine ⟨p.1, p.2, ?_, stages.named p (List.mem_of_getElem? member), ?_, writeCommand_staged id _⟩
  · have first : (staging.map Prod.fst)[index]? = some p.1 := by simp [member]
    exact getElem?_of_prefix front first
  · rw [stages.getElem?_pushes, member, Option.map_some, staged_eq]
    rfl

end Session
end DeviceHarness.Install
